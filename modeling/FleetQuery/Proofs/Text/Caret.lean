import FleetQuery.Proofs.Text.Located
import FleetQuery.Proofs.Text.Run
import Mathlib.Data.List.DropRight

/-!
# Carets

A fault is shown with a line of spaces and a `^` behind its text:

* `Located.Divides e before after` : the place of the fault divides its text into `before` and
  `after`;
* `Located.Pinpoints e input` : the fault is one of the whole text `input`, its place is a character
  boundary, and `^` stands behind as many spaces as there are characters before the place;
* `Located.CaretBelow e` : `^` stands on the line below the one with the place, in the column of the
  place;
* `Located.Divides.pinpoints` : **a place that divides the text is shown behind as many spaces as
  there are characters before it**;
* `Located.Divides.caretBelow_iff` : **and `^` stands below it exactly if the text is one line.**

Lines end with a line feed.  The spaces count the characters of all lines before the place, and the
line with `^` comes behind all lines of the text, so a text of several lines is never shown right.
-/

namespace FleetQuery

variable {κ : Type} {e : Located κ} {before after : String}

/-! ### Offsets -/

theorem utf8ByteSize_ofList (s : List Char) : (String.ofList s).utf8ByteSize = utf8Length s := by
  induction s with
  | nil => rfl
  | cons c s ih =>
    rw [String.ofList_cons, String.utf8ByteSize_append, String.utf8ByteSize_singleton, ih]
    rfl

theorem charactersBefore?_append (p s : List Char) :
    charactersBefore? (utf8Length p) (p ++ s) = some p.length := by
  induction p with
  | nil => cases s <;> rfl
  | cons c p ih =>
    have hpos : 0 < c.utf8Size := c.utf8Size_pos
    obtain ⟨n, hn⟩ : ∃ n, utf8Length (c :: p) = n + 1 :=
      Nat.exists_eq_add_one.2 (Nat.add_pos_left hpos _)
    have hle : c.utf8Size ≤ n + 1 := hn ▸ Nat.le_add_right _ _
    have hrest : n + 1 - c.utf8Size = utf8Length p := by
      rw [← hn, utf8Length, Nat.add_sub_cancel_left]
    rw [hn, List.cons_append, charactersBefore?, if_pos hle, hrest, ih]
    rfl

namespace Located

/-! ### Places -/

/-- The place of the fault divides its text into `before` and `after`. -/
structure Divides (e : Located κ) (before after : String) : Prop where
  /-- The two parts make up the text. -/
  input_eq : e.input = before ++ after
  /-- The place is the number of bytes of the first part. -/
  position_eq : e.position = before.utf8ByteSize

/-- The fault is one of the whole text `input`, at a character boundary, and is shown behind as many
spaces as there are characters before it. -/
structure Pinpoints (e : Located κ) (input : String) : Prop where
  /-- The text that is shown is the whole text. -/
  input_eq : e.input = input
  /-- The place is not behind the end of the text. -/
  position_le : e.position ≤ input.utf8ByteSize
  /-- No character is cut at the place. -/
  boundary : String.Pos.Raw.IsValid input ⟨e.position⟩
  /-- The caret is drawn on a line of its own; the spaces count characters, not bytes. -/
  caret_eq : ∃ before after, e.Divides before after ∧
    e.caret = input ++ "\n" ++ String.ofList (List.replicate before.length ' ') ++ "^"

theorem divides_mk {input : String} {p s : List Char} (fault : κ) (h : input.toList = p ++ s) :
    (⟨fault, utf8Length p, input⟩ : Located κ).Divides (String.ofList p) (String.ofList s) where
  input_eq := by rw [← String.ofList_append, ← h, String.ofList_toList]
  position_eq := (utf8ByteSize_ofList p).symm

theorem divides_before {input : String} {p s : List Char} (fault : κ)
    (h : input.toList = p ++ s) :
    (Located.before fault s input).Divides (String.ofList p) (String.ofList s) :=
  before_eq fault h ▸ divides_mk fault h

namespace Divides

theorem caret_eq (h : e.Divides before after) :
    e.caret = e.input ++ "\n" ++ String.ofList (List.replicate before.length ' ') ++ "^" := by
  have hcount : charactersBefore? e.position e.input.toList = some before.length := by
    rw [h.position_eq, ← String.ofList_toList (s := before), utf8ByteSize_ofList,
      String.ofList_toList, h.input_eq, String.toList_append, charactersBefore?_append,
      String.length_toList]
  rw [caret, caretLine, hcount, Option.getD_some, ← String.append_assoc]

/-- **A place that divides the text is shown behind as many spaces as there are characters before
it.** -/
theorem pinpoints (h : e.Divides before after) : e.Pinpoints e.input where
  input_eq := rfl
  position_le := by
    rw [h.position_eq, h.input_eq, String.utf8ByteSize_append]
    exact Nat.le_add_right _ _
  boundary := by
    refine String.Pos.Raw.isValid_iff_exists_append.2 ⟨before, after, h.input_eq, ?_⟩
    rw [h.position_eq]
    rfl
  caret_eq := ⟨before, after, h, h.caret_eq⟩

end Divides

end Located

/-! ### Lines and columns -/

/-- The number of the line on which a text ends, counted from zero. -/
def lastLine (s : String) : Nat := s.toList.count '\n'

/-- The number of characters on the line on which a text ends. -/
def lastColumn (s : String) : Nat := (s.toList.rtakeWhile (· != '\n')).length

theorem lastLine_append (s t : String) : lastLine (s ++ t) = lastLine s + lastLine t := by
  rw [lastLine, String.toList_append, List.count_append]
  rfl

theorem lastLine_eq_zero_iff {s : String} : lastLine s = 0 ↔ '\n' ∉ s.toList :=
  List.count_eq_zero

theorem lastLine_spaces (n : Nat) : lastLine (String.ofList (List.replicate n ' ')) = 0 := by
  rw [lastLine_eq_zero_iff, String.toList_ofList]
  intro hmem
  cases List.eq_of_mem_replicate hmem

/-- The last column is the length of the text only if the text is one line. -/
theorem lastColumn_eq_length_iff {s : String} : lastColumn s = s.length ↔ lastLine s = 0 := by
  have hsuffix : s.toList.rtakeWhile (· != '\n') <:+ s.toList := List.rtakeWhile_suffix _ _
  have hlines : s.toList.rtakeWhile (· != '\n') = s.toList ↔ '\n' ∉ s.toList := by
    simp only [List.rtakeWhile_eq_self_iff, bne_iff_ne]
    exact List.forall_mem_ne'
  rw [lastLine_eq_zero_iff, ← hlines, lastColumn, ← String.length_toList]
  exact ⟨hsuffix.eq_of_length, congrArg List.length⟩

theorem lastColumn_append_line (s : String) {t : String} (ht : lastLine t = 0) :
    lastColumn (s ++ "\n" ++ t) = t.length := by
  have hrun : LongestRun (· != '\n') t.toList.reverse ('\n' :: s.toList.reverse) := by
    refine ⟨fun c hc => ?_, fun c hc => ?_⟩
    · rw [bne_iff_ne]
      rintro rfl
      exact lastLine_eq_zero_iff.1 ht (List.mem_reverse.1 hc)
    · obtain rfl : '\n' = c := Option.some.inj hc
      rfl
  have hreverse : (s ++ "\n" ++ t).toList.reverse =
      t.toList.reverse ++ '\n' :: s.toList.reverse := by
    simp
  rw [lastColumn, List.rtakeWhile, hreverse, hrun.takeWhile_eq, List.reverse_reverse,
    String.length_toList]

namespace Located

/-- The caret stands on the line directly below the line with the place of the fault, in the column
that is the number of characters between the start of that line and the place. -/
def CaretBelow (e : Located κ) : Prop :=
  ∃ before after shown, e.Divides before after ∧ e.caret = shown ++ "^" ∧
    lastLine shown = lastLine before + 1 ∧ lastColumn shown = lastColumn before

/-- **Where the caret stands:** below the last line of the text, in the column that is the number of
characters before the place on all lines. -/
theorem Divides.exists_shown (h : e.Divides before after) :
    ∃ shown, e.caret = shown ++ "^" ∧ lastLine shown = lastLine e.input + 1 ∧
      lastColumn shown = before.length := by
  have hspaces := lastLine_spaces before.length
  refine ⟨_, h.caret_eq, ?_, ?_⟩
  · rw [lastLine_append, lastLine_append, hspaces]
    rfl
  · rw [lastColumn_append_line _ hspaces, String.length_ofList, List.length_replicate]

/-- **The caret stands below the place exactly if the text is one line.** -/
theorem Divides.caretBelow_iff (h : e.Divides before after) :
    e.CaretBelow ↔ lastLine e.input = 0 := by
  constructor
  · rintro ⟨p, s, shown, hp, hcaret, hline, hcolumn⟩
    obtain ⟨shown', hcaret', hline', hcolumn'⟩ := hp.exists_shown
    obtain rfl : shown = shown' := (String.append_left_inj "^").1 (hcaret.symm.trans hcaret')
    have hlines : lastLine e.input = lastLine p + lastLine s := by
      rw [hp.input_eq, lastLine_append]
    have hp0 : lastLine p = 0 := lastColumn_eq_length_iff.1 (hcolumn.symm.trans hcolumn')
    omega
  · intro hinput
    obtain ⟨shown, hcaret, hline, hcolumn⟩ := h.exists_shown
    have hlines : lastLine e.input = lastLine before + lastLine after := by
      rw [h.input_eq, lastLine_append]
    have hbefore : lastLine before = 0 := by omega
    refine ⟨before, after, shown, h, hcaret, by omega, ?_⟩
    rw [hcolumn, lastColumn_eq_length_iff.2 hbefore]

end Located

end FleetQuery
