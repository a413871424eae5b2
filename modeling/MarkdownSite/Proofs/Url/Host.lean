import MarkdownSite.Proofs.Unicode.Casing
import MarkdownSite.Proofs.Url.Lead

/-!
# Hosts

The host of an authority stands after the last `@` and before a port, or in brackets, and is
compared in lower case, a zone after a percent sign excepted. What it is compared as has no mark
that was not written, and comparing it again changes nothing.
-/

namespace MarkdownSite.Url

open Text

/-! ## Hosts as they are written -/

/-- An authority without `@` is host and port. -/
theorem hostAndPort_of_not_mem {authority : Text} (absent : '@' ∉ authority) :
    hostAndPort authority = authority := by
  rw [hostAndPort, splitLast_eq_none absent]

/-- Host and port stand after the last `@` of an authority. -/
theorem hostAndPort_spec (authority : Text) :
    '@' ∉ hostAndPort authority ∧ hostAndPort authority <:+ authority := by
  by_cases member : '@' ∈ authority
  · obtain ⟨user, rest, rfl, absent⟩ := exists_last member
    rw [hostAndPort, splitLast_append absent]
    exact ⟨absent, user ++ ['@'], by simp⟩
  · rw [hostAndPort_of_not_mem member]
    exact ⟨member, List.suffix_refl authority⟩

/-- Without brackets a host reaches up to the port. -/
theorem writtenHost_of_not_mem {authority : Text} (bare : '[' ∉ hostAndPort authority) :
    writtenHost authority = (hostAndPort authority).takeWhile (· != ':') := by
  unfold writtenHost
  dsimp only
  rw [show "[".toList = ['['] from rfl, splitFirst_eq_none bare]

/-- A host stands in the part of an authority that has host and port; brackets around it are left
out, so that it does not have both. -/
theorem writtenHost_spec (authority : Text) :
    (∀ c ∈ writtenHost authority, c ∈ hostAndPort authority) ∧
      ('[' ∉ writtenHost authority ∨ ']' ∉ writtenHost authority) := by
  by_cases bracketed : '[' ∈ hostAndPort authority
  · obtain ⟨before, rest, whole, absent⟩ := List.eq_append_cons_of_mem bracketed
    have cut : writtenHost authority = rest.takeWhile (· != ']') := by
      unfold writtenHost
      dsimp only
      rw [whole, show "[".toList = ['['] from rfl, splitFirst_singleton absent]
    rw [cut, whole]
    refine ⟨fun c member => ?_, .inr fun member => ?_⟩
    · exact List.mem_append_right _
        (List.mem_cons_of_mem _ ((List.takeWhile_prefix _).mem member))
    · have other := List.mem_takeWhile_imp member
      simp at other
  · rw [writtenHost_of_not_mem bracketed]
    have inside {c : Char} (member : c ∈ (hostAndPort authority).takeWhile (· != ':')) :
        c ∈ hostAndPort authority := (List.takeWhile_prefix _).mem member
    exact ⟨fun c => inside, .inl fun member => bracketed (inside member)⟩

/-! ## Hosts as they are compared -/

/-- A host in lower case, a zone after a percent sign excepted. -/
def lowerHost (host : Text) : Text :=
  Unicode.lower (host.takeWhile (· != '%')) ++ host.dropWhile (· != '%')

/-- The host of a URL is the one that is written, as it is compared. -/
theorem Parts.host?_eq (p : Parts) :
    p.host? = if (writtenHost p.authority).isEmpty then none
      else some (lowerHost (writtenHost p.authority)) := by
  unfold Parts.host? lowerHost
  simp only [drop_length_takeWhile]

/-- A host that is not empty is compared as one that is not. -/
theorem lowerHost_ne_nil {host : Text} (present : host ≠ []) : lowerHost host ≠ [] := by
  intro empty
  obtain ⟨name, zone⟩ := List.append_eq_nil_iff.mp empty
  refine present ?_
  rw [← List.takeWhile_append_dropWhile (p := (· != '%')) (l := host), zone, List.append_nil]
  by_contra other
  exact Unicode.lower_ne_nil other name

/-- A URL with a host has one that is written. -/
theorem host?_spec {p : Parts} {host : Text} (named : p.host? = some host) :
    host = lowerHost (writtenHost p.authority) ∧ host ≠ [] ∧ p.authority ≠ [] := by
  rw [Parts.host?_eq] at named
  split at named
  · cases named
  · rename_i written
    have present : writtenHost p.authority ≠ [] := by simpa using written
    rw [← Option.some.inj named]
    refine ⟨rfl, lowerHost_ne_nil present, fun empty => present ?_⟩
    rw [empty]
    rfl

/-- A host has the marks that it is compared with. -/
theorem mem_lowerHost_iff {host : Text} {c : Char} (ascii : c.toNat < 128)
    (mark : c.isAlpha = false) : c ∈ lowerHost host ↔ c ∈ host := by
  have whole := List.takeWhile_append_dropWhile (p := (· != '%')) (l := host)
  have parts : c ∈ host ↔ c ∈ host.takeWhile (· != '%') ∨ c ∈ host.dropWhile (· != '%') := by
    rw [← List.mem_append, whole]
  rw [lowerHost, List.mem_append, Unicode.mem_lower_iff ascii mark, parts]

/-- The name in a host has no percent sign, nor has its lower case. -/
theorem percent_not_mem_lower (host : Text) :
    '%' ∉ Unicode.lower (host.takeWhile (· != '%')) := by
  intro member
  have name := (Unicode.mem_lower_iff (by decide) (by decide)).mp member
  have other := List.mem_takeWhile_imp name
  simp at other

/-- A host has as many percent signs as it is compared. -/
theorem count_percent_lowerHost (host : Text) :
    (lowerHost host).count '%' = host.count '%' := by
  have name : '%' ∉ host.takeWhile (· != '%') := by
    intro member
    have other := List.mem_takeWhile_imp member
    simp at other
  have whole := List.takeWhile_append_dropWhile (p := (· != '%')) (l := host)
  calc (lowerHost host).count '%'
      = (host.dropWhile (· != '%')).count '%' := by
        rw [lowerHost, List.count_append,
          List.count_eq_zero_of_not_mem (percent_not_mem_lower host), Nat.zero_add]
    _ = (host.takeWhile (· != '%') ++ host.dropWhile (· != '%')).count '%' := by
        rw [List.count_append, List.count_eq_zero_of_not_mem name, Nat.zero_add]
    _ = host.count '%' := by rw [whole]

/-- A host that is ASCII as it is compared is compared as what it is. -/
theorem lowerHost_lowerHost {host : Text} (ascii : isAscii (lowerHost host) = true) :
    lowerHost (lowerHost host) = lowerHost host := by
  have absent := percent_not_mem_lower host
  have plain : ∀ c ∈ Unicode.lower (host.takeWhile (· != '%')), (c != '%') = true :=
    fun c member => bne_iff_ne.mpr fun same => absent (same ▸ member)
  have narrow : isAscii (Unicode.lower (host.takeWhile (· != '%'))) = true :=
    List.all_eq_true.mpr fun c member =>
      List.all_eq_true.mp ascii c (List.mem_append_left _ member)
  have name : (lowerHost host).takeWhile (· != '%') =
      Unicode.lower (host.takeWhile (· != '%')) := by
    refine takeWhile_append_of_head plain fun c first => ?_
    have sign := List.head?_dropWhile_not (· != '%') host
    rw [Option.mem_def.mp first] at sign
    exact sign
  have zone : (lowerHost host).dropWhile (· != '%') = host.dropWhile (· != '%') := by
    have joined := List.takeWhile_append_dropWhile (p := (· != '%')) (l := lowerHost host)
    rw [name] at joined
    exact List.append_cancel_left (joined.trans rfl)
  rw [lowerHost, name, zone, Unicode.lower_lower narrow]
  rfl

end MarkdownSite.Url
