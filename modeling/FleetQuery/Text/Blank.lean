/-!
# Blank characters

Two notions of white space are in use.  Between the tokens of a filter or of a literal only the
four blanks of `isBlank` may stand; a bare pattern ends, and the end of a filter may be padded,
with any character of the Unicode property `White_Space`, which is `isWhiteSpace`.  Every blank
is white space (`isWhiteSpace_of_isBlank`).
-/

namespace FleetQuery

/-- A blank between tokens: space, tab, line feed or carriage return. -/
def isBlank (c : Char) : Bool :=
  c == ' ' || c == '\t' || c == '\n' || c == '\r'

/-- The Unicode property `White_Space`. -/
def isWhiteSpace (c : Char) : Bool :=
  let n := c.toNat
  (9 ≤ n && n ≤ 13) || n == 0x20 || n == 0x85 || n == 0xA0 || n == 0x1680 ||
    (0x2000 ≤ n && n ≤ 0x200A) || n == 0x2028 || n == 0x2029 || n == 0x202F || n == 0x205F ||
    n == 0x3000

theorem isWhiteSpace_of_isBlank {c : Char} (h : isBlank c = true) : isWhiteSpace c = true := by
  simp only [isBlank, Bool.or_eq_true, beq_iff_eq] at h
  rcases h with ((rfl | rfl) | rfl) | rfl <;> decide

/-- The text after its leading blanks. -/
def skipBlanks (s : List Char) : List Char := s.dropWhile isBlank

/-- The text after its leading white space. -/
def trimLeft (s : List Char) : List Char := s.dropWhile isWhiteSpace

/-- The text without the white space at its two ends. -/
def trim (s : List Char) : List Char := (trimLeft (trimLeft s).reverse).reverse

end FleetQuery
