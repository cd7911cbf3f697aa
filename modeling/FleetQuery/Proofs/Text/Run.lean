import FleetQuery.Text.Blank
import Mathlib.Data.List.TakeWhile

/-!
# Blanks and runs

Texts are read by skipping the blanks at the front and by taking the longest run of characters of
one sort.  Both are described here without reference to the function that does it:

* `Padded s t` : `s` is `t` with blanks before it;
* `LongestRun p u v` : `u` is the longest run of characters with `p` at the front of `u ++ v`.
-/

namespace FleetQuery

/-- `s` is the text `t` with a run of blanks before it. -/
def Padded (s t : List Char) : Prop := ∃ w, (∀ c ∈ w, isBlank c = true) ∧ s = w ++ t

/-- `u` is the longest run of characters with `p` at the front of `u ++ v`. -/
def LongestRun (p : Char → Bool) (u v : List Char) : Prop :=
  (∀ c ∈ u, p c = true) ∧ ∀ c ∈ v.head?, p c = false

variable {p : Char → Bool} {s t u v : List Char}

theorem LongestRun.takeWhile_eq (h : LongestRun p u v) : (u ++ v).takeWhile p = u := by
  rw [List.takeWhile_append_of_pos h.1]
  cases v with
  | nil => simp
  | cons c v => simp [h.2 c rfl]

theorem LongestRun.dropWhile_eq (h : LongestRun p u v) : (u ++ v).dropWhile p = v := by
  rw [List.dropWhile_append_of_pos h.1]
  cases v with
  | nil => rfl
  | cons c v => simp [h.2 c rfl]

theorem longestRun_takeWhile (p : Char → Bool) (s : List Char) :
    LongestRun p (s.takeWhile p) (s.dropWhile p) := by
  refine ⟨fun c hc => List.mem_takeWhile_imp hc, fun c hc => ?_⟩
  have h := List.head?_dropWhile_not p s
  rw [Option.mem_def.1 hc] at h
  exact h

theorem takeWhile_dropWhile_iff :
    s.takeWhile p = u ∧ s.dropWhile p = v ↔ s = u ++ v ∧ LongestRun p u v := by
  constructor
  · rintro ⟨rfl, rfl⟩
    exact ⟨List.takeWhile_append_dropWhile.symm, longestRun_takeWhile p s⟩
  · rintro ⟨rfl, h⟩
    exact ⟨h.takeWhile_eq, h.dropWhile_eq⟩

theorem padded_skipBlanks (s : List Char) : Padded s (skipBlanks s) :=
  ⟨s.takeWhile isBlank, (longestRun_takeWhile isBlank s).1,
    List.takeWhile_append_dropWhile.symm⟩

theorem skipBlanks_append {w : List Char} (h : ∀ c ∈ w, isBlank c = true) :
    skipBlanks (w ++ s) = skipBlanks s := List.dropWhile_append_of_pos h

theorem skipBlanks_eq_nil_iff : skipBlanks s = [] ↔ ∀ c ∈ s, isBlank c = true :=
  List.dropWhile_eq_nil_iff

theorem Padded.refl (s : List Char) : Padded s s := ⟨[], by simp, rfl⟩

theorem Padded.append (h : Padded s t) (u : List Char) : Padded (s ++ u) (t ++ u) := by
  obtain ⟨w, hw, rfl⟩ := h
  exact ⟨w, hw, List.append_assoc w t u⟩

theorem Padded.skipBlanks_eq (h : Padded s t) : skipBlanks s = skipBlanks t := by
  obtain ⟨w, hw, rfl⟩ := h
  exact skipBlanks_append hw

theorem Padded.suffix (h : Padded s t) : t <:+ s := by
  obtain ⟨w, -, rfl⟩ := h
  exact List.suffix_append w t

@[simp] theorem skipBlanks_skipBlanks (s : List Char) :
    skipBlanks (skipBlanks s) = skipBlanks s := (padded_skipBlanks s).skipBlanks_eq.symm

theorem skipBlanks_cons {c : Char} (h : isBlank c = false) : skipBlanks (c :: s) = c :: s := by
  simp [skipBlanks, h]

/-- A text stands behind blanks exactly if it is what is left after skipping them, unless it
begins with a blank itself. -/
theorem padded_cons_iff {c : Char} (h : isBlank c = false) :
    Padded s (c :: t) ↔ skipBlanks s = c :: t := by
  constructor
  · intro hs
    rw [hs.skipBlanks_eq, skipBlanks_cons h]
  · intro hs
    exact hs ▸ padded_skipBlanks s

theorem Padded.of_skipBlanks_eq {s' : List Char} {c : Char} (hc : isBlank c = false)
    (h : skipBlanks s' = skipBlanks s) (hs : Padded s (c :: t)) : Padded s' (c :: t) := by
  rw [padded_cons_iff hc] at hs ⊢
  exact h.trans hs

theorem Padded.cons_inj {c : Char} (hc : isBlank c = false) (h : Padded s (c :: u))
    (h' : Padded s (c :: v)) : v = u :=
  (List.cons.inj (((padded_cons_iff hc).1 h').symm.trans ((padded_cons_iff hc).1 h))).2

theorem head?_blanks_append {P : Char → Prop} {w : List Char} (hw : ∀ c ∈ w, isBlank c = true)
    (hblank : ∀ c, isBlank c = true → P c) (hs : ∀ c ∈ s.head?, P c) :
    ∀ c ∈ (w ++ s).head?, P c := by
  obtain - | ⟨b, w⟩ := w
  · exact hs
  · rintro _ ⟨⟩
    exact hblank b (hw b List.mem_cons_self)

theorem trimLeft_eq_nil_iff : trimLeft s = [] ↔ ∀ c ∈ s, isWhiteSpace c = true :=
  List.dropWhile_eq_nil_iff

theorem trimLeft_skipBlanks (s : List Char) : trimLeft (skipBlanks s) = trimLeft s := by
  obtain ⟨w, hw, hs⟩ := padded_skipBlanks s
  calc trimLeft (skipBlanks s)
      = trimLeft (w ++ skipBlanks s) :=
        (List.dropWhile_append_of_pos fun c hc => isWhiteSpace_of_isBlank (hw c hc)).symm
    _ = trimLeft s := by rw [← hs]

theorem forall_isWhiteSpace_skipBlanks :
    (∀ c ∈ skipBlanks s, isWhiteSpace c = true) ↔ ∀ c ∈ s, isWhiteSpace c = true := by
  obtain ⟨w, hw, hs⟩ := padded_skipBlanks s
  rw [hs, skipBlanks_append hw, skipBlanks_skipBlanks, List.forall_mem_append]
  exact (and_iff_right fun c hc => isWhiteSpace_of_isBlank (hw c hc)).symm

end FleetQuery
