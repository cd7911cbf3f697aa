import FleetQuery.Text.Cased
import FleetQuery.Text.LowercaseTable

/-!
# Lower case

Full Unicode lower case of a text.  It depends on context in one place: a capital sigma becomes
a final sigma where it ends a word, that is, where a cased letter stands before it and none after
it, case-ignorable characters not counting.  `contains` is containment of one text in
another, and `like` is containment without regard to case.
-/

namespace FleetQuery

/-- The lower-case form of one character outside any context. -/
def lowercaseChar (c : Char) : List Char :=
  if c.toNat < 0x80 then [c.toLower]
  else if c.toNat == 0x130 then ['i', '\u0307']
  else [Char.ofNat (lowercaseCodePoint c.toNat)]

/-- The first character that is not case-ignorable is cased. -/
def leadsCased (s : List Char) : Bool :=
  match s.dropWhile isCaseIgnorable with
  | c :: _ => isCased c
  | [] => false

/-- Capital sigma ends a word: `before` is the text before it, nearest character first. -/
def endsWord (before after : List Char) : Bool := leadsCased before && !leadsCased after

/-- The lower-case form of a text that stands after `before` (nearest character first). -/
def lowercaseAfter (before : List Char) : List Char → List Char
  | [] => []
  | c :: s =>
    (if c == 'Σ' then [if endsWord before s then 'ς' else 'σ'] else lowercaseChar c)
      ++ lowercaseAfter (c :: before) s

/-- The lower-case form of a text. -/
def lowercase (s : List Char) : List Char := lowercaseAfter [] s

/-- The text `p` stands somewhere in a text. -/
def contains (p : List Char) : List Char → Bool
  | [] => p.isEmpty
  | c :: s => p.isPrefixOf (c :: s) || contains p s

theorem contains_iff {p s : List Char} : contains p s = true ↔ p <:+: s := by
  induction s with
  | nil => simp [contains]
  | cons c s ih =>
    rw [contains, Bool.or_eq_true, ih, List.isPrefixOf_iff_prefix, List.infix_cons_iff]

/-- The pattern stands somewhere in the value, without regard to case. -/
def like (value pattern : String) : Bool :=
  contains (lowercase pattern.toList) (lowercase value.toList)

end FleetQuery
