import MarkdownSite.Text.Basic

/-!
# Punycode

A label with characters beyond ASCII is written as its ASCII characters, a hyphen, and the places
of the others in ascending order of code point: each as the distance from the last place, in
digits of base 36 whose thresholds adapt to the distances seen so far.
-/

namespace MarkdownSite.Url.Punycode

/-- The character of a digit: 0 to 25 are letters, 26 to 35 the decimal digits. -/
def digitChar (d : Nat) : Char := if d < 26 then Char.ofNat (97 + d) else Char.ofNat (22 + d)

/-- The threshold of a digit at position `k`. -/
def threshold (k bias : Nat) : Nat :=
  if k ≤ bias then 1 else if bias + 26 ≤ k then 26 else k - bias

theorem one_le_threshold (k bias : Nat) : 1 ≤ threshold k bias := by
  unfold threshold
  split
  · omega
  · split <;> omega

/-- Divides the distance until it is small, counting the positions. -/
def adaptDelta (delta k : Nat) : Nat × Nat :=
  if 455 < delta then adaptDelta (delta / 35) (k + 36) else (delta, k)
termination_by delta
decreasing_by exact Nat.div_lt_self (by omega) (by omega)

/-- The bias after a distance; the first distance of a label is damped. -/
def adapt (delta points : Nat) (first : Bool) : Nat :=
  let damped := if first then delta / 700 else delta / 2
  let (small, k) := adaptDelta (damped + damped / points) 0
  k + 36 * small / (small + 38)

/-- The digits of a distance. -/
def encodeDelta (bias k q : Nat) : Text :=
  let t := threshold k bias
  if q < t then [digitChar q]
  else digitChar (t + (q - t) % (36 - t)) :: encodeDelta bias (k + 36) ((q - t) / (36 - t))
termination_by q
decreasing_by
  have := one_le_threshold k bias
  calc (q - threshold k bias) / (36 - threshold k bias)
      ≤ q - threshold k bias := Nat.div_le_self _ _
    _ < q := by omega

/-- The state of the encoder between two characters. -/
structure Progress where
  /-- The digits written so far. -/
  output : Text
  /-- The distance counted since the last place. -/
  delta : Nat
  /-- The current bias. -/
  bias : Nat
  /-- How many characters have been placed. -/
  placed : Nat

/-- Passes one character while the places of code point `point` are written; `basic` is the
number of ASCII characters. -/
def visit (basic point : Nat) (p : Progress) (c : Char) : Progress :=
  if c.toNat < point then { p with delta := p.delta + 1 }
  else if c.toNat = point then
    { output := p.output ++ encodeDelta p.bias 36 p.delta
      delta := 0
      bias := adapt p.delta (p.placed + 1) (p.placed == basic)
      placed := p.placed + 1 }
  else p

/-- Writes the places of the given code points, ascending; `next` is the least that may come. -/
def writePlaces (label : Text) (basic : Nat) :
    (points : List Nat) → (next : Nat) → Progress → Progress
  | [], _, p => p
  | point :: points, next, p =>
    let p := { p with delta := p.delta + (point - next) * (p.placed + 1) }
    let p := label.foldl (visit basic point) p
    writePlaces label basic points (point + 1) { p with delta := p.delta + 1 }

/-- The code points beyond ASCII of a label, ascending and each once. -/
def points (label : Text) : List Nat :=
  ((label.filter fun c => 128 ≤ c.toNat).map Char.toNat).mergeSort.eraseDups

/-- The label in ASCII. -/
def encode (label : Text) : Text :=
  let basic := label.filter fun c => c.toNat < 128
  let p := writePlaces label basic.length (points label) 128 ⟨[], 0, 72, basic.length⟩
  if basic.isEmpty then p.output else basic ++ '-' :: p.output

end MarkdownSite.Url.Punycode
