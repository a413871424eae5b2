import MarkdownSite.Config.Load
import MarkdownSite.Proofs.Log.Record

/-!
# What loading a configuration gives

Loading gives a configuration whose options can be used, or an error that names the file and what is
wrong with it. One failure is left out of that: a file whose format is known and whose bytes are no
text ends the loading with the error of the decoder, which names no file. Only a reader of YAML may
find another error first, in what comes before these bytes.
-/

namespace MarkdownSite

variable {σ : Type}

/-- Whether the options of a configuration are left out, null or a mapping. -/
def Entries.HasUsableOptions (config : Entries) : Prop :=
  ∀ options ∈ config.get? "marked", options = .null ∨ ∃ entries, options = .map entries

/-- The file from which a configuration is loaded: the given one, or else the one that the
environment names. -/
def configFile? (environment path : Option Text) : Option Text :=
  (path <|> environment.filter fun place => !place.isEmpty).map cleanPath

/-- What loading from a file is to give: a configuration with usable options, or an error about that
file. -/
def IsLoaded (file : Option Text) : Except ConfigError Entries → Prop
  | .ok config => config.HasUsableOptions
  | .error e => file.isSome = true ∧ e.path? = file

/-- Whether reading a file comes to bytes that are no text: its name tells a format, no text has its
bytes, and a reader of YAML finds no error in the pieces before. -/
def FileTree.ReachesNoText (yaml : Yaml.Reader σ) (tree : FileTree) (path : Text) : Prop :=
  ∃ content format, tree.read? path = some content ∧
    ConfigFormat.ofExtension? (Unicode.lower (fileExtension (fileName path))) = some format ∧
    (∀ text : String, text.toUTF8 ≠ content) ∧
    (format = .yaml → (yaml.after? (piecesBefore content)).isSome = true)

/-! ## Reading in pieces -/

/-- The pieces of a text are the text. -/
theorem flatten_pieces (t : Text) : (pieces t).flatten = t := by
  fun_induction pieces t with
  | case1 t none => simpa using none.symm
  | case2 t present ih => rw [List.flatten_cons, ih, List.take_append_drop]

/-- A document holds no character that YAML may not have. -/
theorem yamlValue?_eq_none {t : Text} (foreign : ¬t.all Yaml.isYamlChar = true) :
    Yaml.value? t = none := by
  simp [Yaml.value?, foreign]

/-- The pieces after what has come are read as the document that they make up. -/
theorem standard_read?_after (seen : Text) (pieces : List Text) :
    (pieces.foldlM Yaml.Reader.standard.push? seen >>= Yaml.Reader.standard.value?) =
      Yaml.value? (seen ++ pieces.flatten) := by
  induction pieces generalizing seen with
  | nil => simp [Yaml.Reader.standard]
  | cons piece rest ih =>
    rw [List.foldlM_cons, List.flatten_cons, ← List.append_assoc]
    by_cases taken : seen.isEmpty || (seen ++ piece).all Yaml.isYamlChar
    · have pushed : Yaml.Reader.standard.push? seen piece = some (seen ++ piece) := if_pos taken
      rw [pushed]
      exact ih (seen ++ piece)
    · have refused : Yaml.Reader.standard.push? seen piece = none := if_neg taken
      have foreign : ¬(seen ++ piece ++ rest.flatten).all Yaml.isYamlChar = true := by
        simp only [List.all_append, Bool.or_eq_true, Bool.and_eq_true, not_or] at taken ⊢
        exact fun all => taken.2 all.1
      rw [refused, yamlValue?_eq_none foreign]
      rfl

/-- **The reader at hand finds in the pieces of a text the document that the text is.** -/
theorem standard_read?_pieces (t : Text) :
    Yaml.Reader.standard.read? (pieces t) = Yaml.value? t := by
  have read := standard_read?_after [] (pieces t)
  rwa [flatten_pieces, List.nil_append] at read

/-! ## Reading a file -/

/-- Bytes cannot be decoded exactly if they are the UTF-8 form of no text. -/
theorem fromUTF8?_eq_none_iff {content : ByteArray} :
    String.fromUTF8? content = none ↔ ∀ text : String, text.toUTF8 ≠ content := by
  unfold String.fromUTF8?
  split
  · rename_i valid
    exact iff_of_false nofun fun none => none ⟨content, valid⟩ rfl
  · rename_i invalid
    refine iff_of_true rfl fun text same => invalid ?_
    rw [← same]
    exact text.isValidUTF8

/-- An error is found before the decoder fails exactly if a reader of YAML finds one. -/
theorem refuses_eq_false_iff {yaml : Yaml.Reader σ} {format : ConfigFormat} {content : ByteArray} :
    format.refuses yaml content = false ↔
      (format = .yaml → (yaml.after? (piecesBefore content)).isSome = true) := by
  unfold ConfigFormat.refuses
  cases format <;> simp [Option.isSome_iff_ne_none]

/-- Reading that comes to bytes that are no text gives the error of the decoder; any other gives a
value or an error about the file. -/
theorem readValue_cases (yaml : Yaml.Reader σ) (tree : FileTree) (path : Text) :
    (tree.ReachesNoText yaml path ∧ tree.readValue yaml path = .error .notText) ∨
      (¬tree.ReachesNoText yaml path ∧ ((∃ v, tree.readValue yaml path = .ok v) ∨
        ∃ e, tree.readValue yaml path = .error e ∧ e.path? = some path)) := by
  unfold FileTree.ReachesNoText FileTree.readValue
  cases tree.read? path with
  | none => exact .inr ⟨by simp, .inr ⟨.missing path, rfl, rfl⟩⟩
  | some content =>
    dsimp only
    cases ConfigFormat.ofExtension? (Unicode.lower (fileExtension (fileName path))) with
    | none => exact .inr ⟨by simp, .inr ⟨.unknownFormat path _, rfl, rfl⟩⟩
    | some format =>
      dsimp only
      cases decoded : String.fromUTF8? content with
      | none =>
        cases refused : format.refuses yaml content with
        | false =>
          exact .inl ⟨⟨content, format, rfl, rfl, fromUTF8?_eq_none_iff.mp decoded,
            refuses_eq_false_iff.mp refused⟩, rfl⟩
        | true =>
          refine .inr ⟨?_, .inr ⟨.invalid format path, rfl, rfl⟩⟩
          rintro ⟨_, _, same, known, -, unnoticed⟩
          rw [← Option.some.inj same, ← Option.some.inj known] at unnoticed
          rw [refuses_eq_false_iff.mpr unnoticed] at refused
          cases refused
      | some text =>
        refine .inr ⟨?_, ?_⟩
        · rintro ⟨other, _, same, -, none, -⟩
          rw [← Option.some.inj same, ← fromUTF8?_eq_none_iff, decoded] at none
          cases none
        · dsimp only
          cases format.read? yaml text.toList with
          | none => exact .inr ⟨.invalid format path, rfl, rfl⟩
          | some v => exact .inl ⟨v, rfl⟩

/-- The value of a file gives a configuration with usable options, or an error about the file. -/
theorem isLoaded_configOfValue? (path : Text) (v : Value) :
    IsLoaded (some path) ((configOfValue? path v).map fun config => config.getD []) := by
  cases v with
  | null => exact nofun
  | map entries =>
    unfold configOfValue?
    dsimp only
    split
    · rename_i absent
      intro options given
      cases absent.symm.trans given
    · rename_i null
      intro options given
      exact .inl (Option.some.inj (null.symm.trans given)).symm
    · rename_i inner mapping
      intro options given
      exact .inr ⟨inner, (Option.some.inj (mapping.symm.trans given)).symm⟩
    · exact ⟨rfl, rfl⟩
  | bool _ | int _ | float _ | text _ | list _ => exact ⟨rfl, rfl⟩

/-! ## Loading -/

/-- What is loaded from a file is the configuration that its value gives. -/
theorem gives_loadConfigFile (yaml : Yaml.Reader σ) (tree : FileTree) (path : Text) :
    Gives (loadConfigFile yaml tree path)
      ((tree.readValue yaml (cleanPath path) >>=
        configOfValue? (cleanPath path)).map fun config => config.getD []) := by
  intro records
  unfold loadConfigFile
  dsimp only
  cases tree.readValue yaml (cleanPath path) >>= configOfValue? (cleanPath path) with
  | error e => rfl
  | ok config =>
    cases config with
    | none => rfl
    | some config => rfl

/-- From a file a configuration is loaded, or an error about it, unless it holds no text. -/
theorem loadConfigFile_cases (yaml : Yaml.Reader σ) (tree : FileTree) (path : Text) :
    (tree.ReachesNoText yaml (cleanPath path) ∧
        Gives (loadConfigFile yaml tree path) (.error .notText)) ∨
      (¬tree.ReachesNoText yaml (cleanPath path) ∧
        ∃ outcome, Gives (loadConfigFile yaml tree path) outcome ∧
          IsLoaded (some (cleanPath path)) outcome) := by
  have gives := gives_loadConfigFile yaml tree path
  rcases readValue_cases yaml tree (cleanPath path) with
    ⟨noText, read⟩ | ⟨text, ⟨v, read⟩ | ⟨e, read, names⟩⟩
  · rw [read] at gives
    exact .inl ⟨noText, gives⟩
  · rw [read] at gives
    exact .inr ⟨text, _, gives, isLoaded_configOfValue? _ v⟩
  · rw [read] at gives
    exact .inr ⟨text, _, gives, rfl, names⟩

/-- Loading gives the empty configuration, or what is loaded from the file that is to be loaded. -/
theorem loadConfig_cases (yaml : Yaml.Reader σ) (tree : FileTree) (environment path : Option Text) :
    (configFile? environment path = none ∧ Gives (loadConfig yaml tree environment path) (.ok [])) ∨
      ∃ place, configFile? environment path = some (cleanPath place) ∧
        ∀ outcome, Gives (loadConfigFile yaml tree place) outcome →
          Gives (loadConfig yaml tree environment path) outcome := by
  cases path with
  | some place => exact .inr ⟨place, rfl, fun _ gives => gives⟩
  | none =>
    cases environment with
    | none => exact .inl ⟨rfl, fun _ => rfl⟩
    | some place =>
      cases place with
      | nil => exact .inl ⟨rfl, fun _ => rfl⟩
      | cons c rest => exact .inr ⟨c :: rest, rfl, fun _ gives records => gives _⟩

/-- **Loading gives a configuration with usable options, or an error about the file, exactly if
reading the file does not come to bytes that are no text**; else the error is that of the
decoder. -/
theorem loading_succeeds_or_reports_iff (yaml : Yaml.Reader σ) (tree : FileTree)
    (environment path : Option Text) :
    ∃ outcome, Gives (loadConfig yaml tree environment path) outcome ∧
      (IsLoaded (configFile? environment path) outcome ↔
        ∀ file ∈ configFile? environment path, ¬tree.ReachesNoText yaml file) ∧
      (¬IsLoaded (configFile? environment path) outcome → outcome = .error .notText) := by
  rcases loadConfig_cases yaml tree environment path with ⟨none, gives⟩ | ⟨place, file, gives⟩
  · refine ⟨.ok [], gives, iff_of_true nofun ?_, fun refused => absurd nofun refused⟩
    rw [none]
    exact nofun
  · rw [file]
    rcases loadConfigFile_cases yaml tree place with
      ⟨noText, fails⟩ | ⟨text, outcome, loads, loaded⟩
    · exact ⟨_, gives _ fails, iff_of_false nofun fun all => all _ rfl noText, fun _ => rfl⟩
    · refine ⟨outcome, gives _ loads, iff_of_true loaded ?_, fun refused => absurd loaded refused⟩
      intro other same
      rwa [← Option.some.inj same]

/-- A file in JSON that holds the byte 255, which is no text, gives an error that names no file. -/
theorem loadConfig_of_invalid_byte :
    let tree : FileTree := { files := [("site.json", ⟨#[255]⟩)] }
    let outcome : Except ConfigError Entries := .error .notText
    Gives (loadConfig .standard tree none (some "site.json")) outcome ∧
      ¬IsLoaded (configFile? none (some "site.json")) outcome := by
  intro tree outcome
  have noText : tree.ReachesNoText .standard (cleanPath "site.json") :=
    ⟨⟨#[255]⟩, .json, by decide +kernel, by decide +kernel,
      fromUTF8?_eq_none_iff.mp (by decide +kernel), nofun⟩
  rcases loadConfigFile_cases .standard tree "site.json" with ⟨-, fails⟩ | ⟨text, -⟩
  · exact ⟨fails, nofun⟩
  · exact absurd noText text

end MarkdownSite
