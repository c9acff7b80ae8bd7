/-
# Blank characters

Three sets of blanks are in use. Names and expressions are trimmed by the widest
one, which counts the four information separators as blank; Unicode's own
`White_Space` leaves those out; and a written integer may be surrounded only by
blanks of the last set. A text is blank when it holds nothing but characters of
the widest set, so the empty text is blank.
-/

namespace VectorRequests.Text

/-- The characters with Unicode's `White_Space` property. -/
def isWhiteSpace (c : Char) : Bool :=
  let n := c.toNat
  (0x09 ≤ n && n ≤ 0x0D) || n == 0x20 || n == 0x85 || n == 0xA0 || n == 0x1680 ||
    (0x2000 ≤ n && n ≤ 0x200A) || n == 0x2028 || n == 0x2029 || n == 0x202F ||
    n == 0x205F || n == 0x3000

/-- The information separators U+001C to U+001F. -/
def isSeparator (c : Char) : Bool :=
  0x1C ≤ c.toNat && c.toNat ≤ 0x1F

/-- A blank of a name: white space or an information separator. -/
def isBlank (c : Char) : Bool :=
  isWhiteSpace c || isSeparator c

/-- A text without a single non-blank character. -/
def IsBlank (s : String) : Prop :=
  ∀ c ∈ s.toList, isBlank c = true

instance (s : String) : Decidable (IsBlank s) :=
  inferInstanceAs (Decidable (∀ c ∈ s.toList, isBlank c = true))

/-- The characters left when those of a class are taken off both ends. -/
def trimBoth (p : Char → Bool) (s : List Char) : List Char :=
  ((s.dropWhile p).reverse.dropWhile p).reverse

/-- One character that is no blank is enough. -/
theorem not_isBlank_of_mem {s : String} {c : Char} (hmem : c ∈ s.toList)
    (hc : isBlank c = false) : ¬ IsBlank s := by
  intro h
  have hblank := h c hmem
  rw [hc] at hblank
  cases hblank

end VectorRequests.Text
