import MarkdownSite.Text.Blank
import MarkdownSite.Value.Double

/-!
# Values

Site configurations, options and documents arrive as values of the kinds that configuration
formats share. A mapping keeps its entries in order, with each key once.
-/

namespace MarkdownSite

/-- A value of a configuration. -/
inductive Value where
  | null
  | bool (b : Bool)
  | int (n : Int)
  | float (x : Double)
  | text (t : Text)
  | list (items : List Value)
  | map (entries : List (Text × Value))
  deriving Repr, Inhabited

/-- The entries of a mapping, each key once. -/
abbrev Entries := List (Text × Value)

namespace Entries

/-- The value under a key. -/
def get? (entries : Entries) (key : Text) : Option Value := entries.lookup key

/-- The entries with a value put under a key: in place if the key is there, else at the end. -/
def insert (entries : Entries) (key : Text) (value : Value) : Entries :=
  if entries.any fun (k, _) => k == key then
    entries.map fun (k, v) => if k == key then (k, value) else (k, v)
  else entries ++ [(key, value)]

/-- The entries of a list of pairs; a later pair replaces the value of an earlier one. -/
def ofList (pairs : List (Text × Value)) : Entries :=
  pairs.foldl (fun entries (key, value) => entries.insert key value) []

/-- The entries with those of `updates` put in one after another. -/
def merge (entries updates : Entries) : Entries :=
  updates.foldl (fun entries (key, value) => entries.insert key value) entries

end Entries

namespace Value

/-- Whether a value counts as true: null, false, zeros and whatever is empty do not. -/
def isTruthy : Value → Bool
  | null => false
  | bool b => b
  | int n => n != 0
  | float x => !x.isZero
  | text t => !t.isEmpty
  | list items => !items.isEmpty
  | map entries => !entries.isEmpty

/-- The name of the kind of a value, as messages give it. -/
def kindName : Value → Text
  | null => "NoneType"
  | bool _ => "bool"
  | int _ => "int"
  | float _ => "float"
  | text _ => "str"
  | list _ => "list"
  | map _ => "dict"

/-- The value if it counts as true, else the other one. -/
def orElse (v other : Value) : Value := if v.isTruthy then v else other

mutual

/-- Whether two values are equal. Numbers are compared by what they count, true as one and false
as zero; mappings without regard to order. -/
def same : Value → Value → Bool
  | null, null => true
  | bool a, bool b => a == b
  | bool a, int b => (if a then 1 else 0) == b
  | int a, bool b => a == (if b then 1 else 0)
  | bool a, float b => b.isInt (if a then 1 else 0)
  | float a, bool b => a.isInt (if b then 1 else 0)
  | int a, int b => a == b
  | int a, float b => b.isInt a
  | float a, int b => a.isInt b
  | float a, float b => a.same b
  | text a, text b => a == b
  | list a, list b => sameItems a b
  | map a, map b => a.length == b.length && sameEntries a b
  | _, _ => false

/-- Whether two lists have equal values in the same order. -/
def sameItems : List Value → List Value → Bool
  | [], [] => true
  | a :: as, b :: bs => a.same b && sameItems as bs
  | _, _ => false

/-- Whether each entry has an equal value under its key in the other mapping. -/
def sameEntries : List (Text × Value) → List (Text × Value) → Bool
  | [], _ => true
  | (key, a) :: as, bs =>
    (match Entries.get? bs key with
      | some b => a.same b
      | none => false) && sameEntries as bs

end

end Value

end MarkdownSite
