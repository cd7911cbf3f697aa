import FleetQuery.Proofs.Json.Reader
import Mathlib.Data.List.Perm.Basic

/-!
# Records in many spellings

A record may be spelled in many ways, as an object or as an array.  What they are is said for a list
of its fields, each with its key, the texts of its value, and whether it may be left out:

* `Kept fields ms` : `ms` are members for the fields in order, without some that may be left out;
* `Cut fields vs` : `vs` are texts for the values of the fields in order, up to a field from which
  on all may be left out;
* `IsRecord fields v` : the text `v` is an object of such members, in any order and among any
  members under other keys, or an array of such values.

A layout describes a record (`Describes`) if it reads the texts of every field for the value of the
record, and has this value as the default of the fields that may be left out.  Then all spellings of
the record are read as the record: `Describes.takes`.

An object is read into a draft, and the draft depends only on the keys that have been read
(`Layout.draftOf`).  A member for a field adds its key (`Describes.step_field`), and any other
member changes nothing (`Describes.step_other`), so neither the order nor the other members count.
-/

namespace FleetQuery

namespace Json

/-! ### Spellings -/

/-- A field of a record with its value, as it may be spelled. -/
structure RecordField where
  /-- Its key. -/
  key : String
  /-- The texts of its value. -/
  Text : List Char → Prop
  /-- It may be left out. -/
  Omissible : Prop

/-- Keys and texts for the fields in order, without some that may be left out. -/
inductive Kept : List RecordField → List (String × List Char) → Prop
  /-- No field is left. -/
  | nil : Kept [] []
  /-- The field is spelled. -/
  | keep {f : RecordField} {fs : List RecordField} {v : List Char}
      {ms : List (String × List Char)} : f.Text v → Kept fs ms →
      Kept (f :: fs) ((f.key, v) :: ms)
  /-- The field is left out. -/
  | drop {f : RecordField} {fs : List RecordField} {ms : List (String × List Char)} : f.Omissible →
      Kept fs ms → Kept (f :: fs) ms

/-- Texts for the fields in order, up to a field from which on all may be left out. -/
inductive Cut : List RecordField → List (List Char) → Prop
  /-- All further fields are left out. -/
  | stop {fs : List RecordField} : (∀ f ∈ fs, f.Omissible) → Cut fs []
  /-- The field is spelled. -/
  | keep {f : RecordField} {fs : List RecordField} {v : List Char} {vs : List (List Char)} :
      f.Text v → Cut fs vs → Cut (f :: fs) (v :: vs)

/-- The text spells the record with the given fields. -/
inductive IsRecord (fields : List RecordField) (v : List Char) : Prop
  /-- An object, with its members in any order and among members under other keys. -/
  | object {kept others members : List (String × List Char)} : Kept fields kept →
      (∀ m ∈ others, m.1 ∉ fields.map RecordField.key ∧ IsValue m.2) →
      members.Perm (kept ++ others) → IsObject v (keyed members) [] → IsRecord fields v
  /-- An array. -/
  | array {vs : List (List Char)} : Cut fields vs → IsArray v vs [] → IsRecord fields v

variable {αs : List Type} {l : Layout αs} {row : Row αs} {fs : List RecordField} {f : RecordField}
  {s t v rest : List Char} {k : String} {ks : List String} {m : String × List Char}
  {ms : List (String × List Char)}

theorem IsRecord.begins (h : IsRecord fs v) : Begins v := by
  cases h with
  | object _ _ _ h =>
    obtain ⟨v', rfl⟩ := h.exists_cons
    exact ⟨_, v', rfl, by decide, by decide⟩
  | array _ h =>
    obtain ⟨v', rfl⟩ := h.exists_cons
    exact ⟨_, v', rfl, by decide, by decide⟩

theorem Kept.mem_or_omissible (h : Kept fs ms) :
    ∀ f ∈ fs, f.key ∈ ms.map Prod.fst ∨ f.Omissible := by
  induction h with
  | nil => simp
  | keep _ _ ih =>
    rintro f' (_ | ⟨_, hf'⟩)
    · exact .inl List.mem_cons_self
    · exact (ih f' hf').imp_left (List.mem_cons_of_mem _)
  | drop hdrop _ ih =>
    rintro f' (_ | ⟨_, hf'⟩)
    · exact .inr hdrop
    · exact ih f' hf'

theorem Kept.exists_field (h : Kept fs ms) : ∀ m ∈ ms, ∃ f ∈ fs, f.key = m.1 ∧ f.Text m.2 := by
  induction h with
  | nil => simp
  | @keep f fs _ _ hv _ ih =>
    rintro m (_ | ⟨_, hm⟩)
    · exact ⟨f, List.mem_cons_self, rfl, hv⟩
    · obtain ⟨f', hf', hm⟩ := ih m hm
      exact ⟨f', List.mem_cons_of_mem f hf', hm⟩
  | @drop f _ _ _ _ ih =>
    intro m hm
    obtain ⟨f', hf', hm⟩ := ih m hm
    exact ⟨f', List.mem_cons_of_mem f hf', hm⟩

theorem Kept.sublist (h : Kept fs ms) : (ms.map Prod.fst).Sublist (fs.map RecordField.key) := by
  induction h with
  | nil => exact .slnil
  | keep _ _ ih => exact ih.cons_cons _
  | drop _ _ ih => exact ih.cons _

/-! ### Layouts -/

/-- The layout reads every text of a field for the value in the row, and has this value as the
default of a field that may be left out. -/
inductive Describes : {αs : List Type} → Layout αs → Row αs → List RecordField → Prop
  /-- There is no field. -/
  | nil : Describes .nil () []
  /-- This holds for a field and for the fields after it. -/
  | cons {α : Type} {αs : List Type} {slot : Slot α} {l : Layout αs} {a : α} {row : Row αs}
      {f : RecordField} {fs : List RecordField} : slot.key = f.key →
      (∀ v, f.Text v → Takes slot.codec.read v a) → (f.Omissible → slot.default? = some a) →
      Describes l row fs → Describes (.cons slot l) (a, row) (f :: fs)

/-- The draft of a row when some keys have been read. -/
def Layout.draftOf : {αs : List Type} → Layout αs → Row αs → List String → Draft αs
  | _, nil, _, _ => ()
  | _, cons slot l, (a, row), ks => (if slot.key ∈ ks then some a else none, l.draftOf row ks)

theorem Layout.draftOf_cons {α : Type} (slot : Slot α) (l : Layout αs) (a : α) (row : Row αs)
    (ks : List String) : (Layout.cons slot l).draftOf (a, row) ks =
      (if slot.key ∈ ks then some a else none, l.draftOf row ks) := rfl

theorem Layout.step_here {α : Type} {slot : Slot α} (h : slot.key = k) (l : Layout αs)
    (d : Draft αs) : (Layout.cons slot l).step (none, d) k = (do
      readColon
      let a ← slot.codec.read
      pure (some a, d)) :=
  if_pos (beq_iff_eq.2 h)

theorem Layout.step_later {α : Type} {slot : Slot α} (h : slot.key ≠ k) (l : Layout αs)
    (value? : Option α) (d : Draft αs) : (Layout.cons slot l).step (value?, d) k = (do
      let d ← l.step d k
      pure (value?, d)) :=
  if_neg fun heq => h (beq_iff_eq.1 heq)

theorem Layout.finish_cons {α : Type} {slot : Slot α} {a : α} {value? : Option α} {d : Draft αs}
    (h : value?.or slot.default? = some a) (hrow : l.finish d = .ok row) :
    (Layout.cons slot l).finish (value?, d) = .ok (a, row) := by
  have hvalue : (Layout.cons slot l).finish (some a, d) = .ok (a, row) :=
    congrArg (fun result : Except JsonFault (Row αs) => result >>= fun row => .ok (a, row)) hrow
  obtain ⟨key, codec, default?⟩ := slot
  cases value? with
  | some x =>
    obtain rfl := Option.some.inj h
    exact hvalue
  | none =>
    obtain rfl : default? = some a := h
    exact hvalue

namespace Describes

section Fields

variable {α : Type} {slot : Slot α} {a b : α} {Text : List Char → Prop}

theorem required (htext : ∀ v, Text v → Takes slot.codec.read v a) (h : Describes l row fs) :
    Describes (.cons slot l) (a, row) (⟨slot.key, Text, False⟩ :: fs) :=
  .cons rfl htext False.elim h

theorem omissible (htext : ∀ v, Text v → Takes slot.codec.read v a)
    (hdefault : slot.default? = some b) (h : Describes l row fs) :
    Describes (.cons slot l) (a, row) (⟨slot.key, Text, a = b⟩ :: fs) :=
  .cons rfl htext (fun heq => hdefault.trans (congrArg some heq.symm)) h

end Fields

theorem draftOf_nil (h : Describes l row fs) : l.draftOf row [] = l.blank := by
  induction h with
  | nil => rfl
  | cons _ _ _ _ ih => rw [Layout.draftOf_cons, ih, if_neg List.not_mem_nil, Layout.blank]

theorem draftOf_other (h : Describes l row fs) (hk : k ∉ fs.map RecordField.key)
    (ks : List String) : l.draftOf row (k :: ks) = l.draftOf row ks := by
  induction h with
  | nil => rfl
  | @cons _ _ slot l a row _ _ hkey _ _ _ ih =>
    rw [List.map_cons, List.mem_cons, not_or] at hk
    have hiff : slot.key ∈ k :: ks ↔ slot.key ∈ ks := by
      rw [List.mem_cons, hkey, or_iff_right (Ne.symm hk.1)]
    rw [Layout.draftOf_cons, Layout.draftOf_cons, ih hk.2]
    exact congrArg (·, l.draftOf row ks) (if_congr hiff rfl rfl)

theorem step_other (h : Describes l row fs) (hk : k ∉ fs.map RecordField.key) (hv : IsValue v)
    (hs : Padded s (':' :: t)) (ht : Padded t (v ++ rest)) (hrest : Stops rest) (d : Draft αs) :
    l.step d k s = .ok (d, rest) := by
  induction h with
  | nil =>
    have hpass : passValue t = .ok ((), rest) := by
      rw [passValue, skipValue_append hv ht hrest]
      rfl
    rw [Layout.step, reader_bind _ (readColon_eq hs), reader_bind _ hpass]
    rfl
  | @cons _ _ slot l _ _ _ _ hkey _ _ _ ih =>
    obtain ⟨value?, d⟩ := d
    rw [List.map_cons, List.mem_cons, not_or] at hk
    rw [Layout.step_later (fun heq => hk.1 (heq.symm.trans hkey)), reader_bind _ (ih hk.2 d)]
    rfl

/-- A member for a field that has not been read yet adds its key to the draft. -/
theorem step_field (h : Describes l row fs) (hnodup : (fs.map RecordField.key).Nodup) (hf : f ∈ fs)
    (hv : f.Text v) (hks : f.key ∉ ks) (hs : Padded s (':' :: t)) (ht : Padded t (v ++ rest))
    (hrest : Stops rest) :
    l.step (l.draftOf row ks) f.key s = .ok (l.draftOf row (f.key :: ks), rest) := by
  induction h with
  | nil => cases hf
  | @cons _ _ slot l a row f' fs hkey htext _ hrow ih =>
    rw [List.map_cons, List.nodup_cons] at hnodup
    rw [Layout.draftOf_cons, Layout.draftOf_cons]
    cases hf with
    | head =>
      rw [hkey, if_neg hks, if_pos List.mem_cons_self, Layout.step_here hkey,
        reader_bind _ (readColon_eq hs), reader_bind _ ((htext v hv).read_eq ht hrest),
        hrow.draftOf_other hnodup.1]
      rfl
    | tail _ hf =>
      have hne : slot.key ≠ f.key := by
        rw [hkey]
        exact fun heq => hnodup.1 (heq ▸ List.mem_map_of_mem hf)
      have hiff : slot.key ∈ f.key :: ks ↔ slot.key ∈ ks := by
        rw [List.mem_cons, or_iff_right hne]
      rw [Layout.step_later hne, reader_bind _ (ih hnodup.2 hf), if_congr hiff rfl rfl]
      rfl

/-- What has not been read and may be left out takes its default. -/
theorem finish_draftOf (h : Describes l row fs) (hks : ∀ f ∈ fs, f.key ∈ ks ∨ f.Omissible) :
    l.finish (l.draftOf row ks) = .ok row := by
  induction h with
  | nil => rfl
  | @cons _ _ slot l a row f fs hkey _ hdefault _ ih =>
    obtain ⟨hf, hfs⟩ := List.forall_mem_cons.1 hks
    have hvalue : (if slot.key ∈ ks then some a else none).or slot.default? = some a := by
      rw [hkey]
      by_cases hmem : f.key ∈ ks
      · rw [if_pos hmem, Option.some_or]
      · rw [if_neg hmem, Option.none_or, hdefault (hf.resolve_left hmem)]
    rw [Layout.draftOf_cons]
    exact Layout.finish_cons hvalue (ih hfs)

/-- A member of an object that spells the record: it is one for a field, or its key is that of no
field. -/
def Accepts (fs : List RecordField) (m : String × List Char) : Prop :=
  (∃ f ∈ fs, f.key = m.1 ∧ f.Text m.2) ∨ (m.1 ∉ fs.map RecordField.key ∧ IsValue m.2)

/-- Members are taken up in any order, if no field has two of them. -/
theorem steps (h : Describes l row fs) (hnodup : (fs.map RecordField.key).Nodup)
    (hms : ∀ m ∈ ms, Accepts fs m)
    (hpairwise : ms.Pairwise fun m m' => m.1 = m'.1 → m.1 ∉ fs.map RecordField.key)
    (hks : ∀ m ∈ ms, m.1 ∈ fs.map RecordField.key → m.1 ∉ ks) :
    Steps l.step (l.draftOf row ks) ms (l.draftOf row ((ms.map Prod.fst).reverse ++ ks)) := by
  induction ms generalizing ks with
  | nil => exact .nil
  | cons m ms ih =>
    obtain ⟨hm, hms⟩ := List.forall_mem_cons.1 hms
    obtain ⟨hfirst, hpairwise⟩ := List.pairwise_cons.1 hpairwise
    obtain ⟨hk, hks⟩ := List.forall_mem_cons.1 hks
    have hlater : ∀ m' ∈ ms, m'.1 ∈ fs.map RecordField.key → m'.1 ∉ m.1 :: ks := by
      intro m' hm' hkey
      rw [List.mem_cons, not_or]
      exact ⟨fun heq => hfirst m' hm' heq.symm (heq ▸ hkey), hks m' hm' hkey⟩
    have hrest := ih hms hpairwise hlater
    rw [List.map_cons, List.reverse_cons, List.append_assoc, List.singleton_append]
    refine .cons (fun hs ht hrest => ?_) hrest
    obtain ⟨f, hf, hkey, hv⟩ | ⟨hother, hv⟩ := hm
    · rw [← hkey] at hk ⊢
      exact h.step_field hnodup hf hv (hk (List.mem_map_of_mem hf)) hs ht hrest
    · rw [h.draftOf_other hother]
      exact h.step_other hother hv hs ht hrest _

/-! ### Objects -/

theorem readObject_eq (h : Describes l row fs) (hnodup : (fs.map RecordField.key).Nodup)
    {kept others members : List (String × List Char)} (hkept : Kept fs kept)
    (hothers : ∀ m ∈ others, m.1 ∉ fs.map RecordField.key ∧ IsValue m.2)
    (hperm : members.Perm (kept ++ others))
    (hobject : IsObject ('\x7b' :: s) (keyed members) rest) :
    ∃ d, readObjectBody l.step l.blank s = .ok (d, rest) ∧ l.finish d = .ok row := by
  have hkeys : ∀ m ∈ kept, m.1 ∈ fs.map RecordField.key := by
    intro m hm
    obtain ⟨f, hf, hkey, -⟩ := hkept.exists_field m hm
    exact hkey ▸ List.mem_map_of_mem hf
  have haccepts : ∀ m ∈ members, Accepts fs m := by
    intro m hm
    obtain hm | hm := List.mem_append.1 (hperm.mem_iff.1 hm)
    · exact .inl (hkept.exists_field m hm)
    · exact .inr (hothers m hm)
  have hpairwise : members.Pairwise fun m m' => m.1 = m'.1 → m.1 ∉ fs.map RecordField.key := by
    have hdistinct : kept.Pairwise fun m m' => m.1 ≠ m'.1 :=
      List.pairwise_map.1 (hkept.sublist.nodup hnodup)
    refine (hperm.pairwise_iff fun hother heq => heq ▸ hother heq.symm).2
      (List.pairwise_append.2 ⟨?_, ?_, ?_⟩)
    · exact hdistinct.imp fun hne heq => absurd heq hne
    · exact List.pairwise_of_forall_mem_list fun m hm _ _ _ => (hothers m hm).1
    · exact fun m _ m' hm' heq => heq ▸ (hothers m' hm').1
  have hsteps : Steps l.step (l.draftOf row []) members
      (l.draftOf row ((members.map Prod.fst).reverse ++ [])) :=
    h.steps hnodup haccepts hpairwise fun _ _ _ => List.not_mem_nil
  rw [h.draftOf_nil] at hsteps
  refine ⟨_, readObjectBody_eq hobject hsteps, h.finish_draftOf fun f hf => ?_⟩
  refine (hkept.mem_or_omissible f hf).imp_left fun hmem => ?_
  rw [List.append_nil, List.mem_reverse]
  exact (hperm.map Prod.fst).mem_iff.2 (List.map_append ▸ List.mem_append_left _ hmem)

/-! ### Arrays -/

theorem readInOrder_here {α : Type} {slot : Slot α} {a : α} {first : Bool} {u : List Char}
    (hat : atItem first s = .ok (true, t)) (ha : slot.codec.read t = .ok (a, u))
    (hrow : l.readInOrder false u = .ok (row, rest)) :
    (Layout.cons slot l).readInOrder first s = .ok ((a, row), rest) := by
  refine (reader_bind _ hat).trans ?_
  rw [if_pos rfl, Bool.not_true, Bool.and_false]
  refine (reader_bind _ ha).trans ?_
  exact (reader_bind _ hrow).trans rfl

theorem readInOrder_missing {α : Type} {slot : Slot α} {a : α} {first : Bool}
    (hat : atItem first s = .ok (false, t)) (ha : slot.default? = some a)
    (hrow : l.readInOrder first t = .ok (row, rest)) :
    (Layout.cons slot l).readInOrder first s = .ok ((a, row), rest) := by
  have hpair : (l.readInOrder first >>= fun row => pure ((a, row) : Row (α :: αs))) t =
      .ok ((a, row), rest) := reader_bind _ hrow
  refine (reader_bind _ hat).trans ?_
  rw [if_neg Bool.false_ne_true, Bool.not_false, Bool.and_true, ha]
  exact hpair

theorem readInOrder_stop (h : Describes l row fs) (hdrop : ∀ f ∈ fs, f.Omissible) (first : Bool)
    (hs : Padded s (']' :: rest)) :
    ∃ t, l.readInOrder first s = .ok (row, t) ∧ Padded t (']' :: rest) := by
  induction h generalizing s with
  | nil => exact ⟨s, rfl, hs⟩
  | cons _ _ hdefault _ ih =>
    obtain ⟨hf, hfs⟩ := List.forall_mem_cons.1 hdrop
    obtain ⟨t, hrow, ht⟩ := ih hfs (.refl (']' :: rest))
    exact ⟨t, readInOrder_missing (atItem_close hs) (hdefault hf) hrow, ht⟩

theorem readInOrder_further {vs : List (List Char)} (h : Describes l row fs) (hcut : Cut fs vs)
    (hs : Further IsItem ']' rest s vs) :
    ∃ t, l.readInOrder false s = .ok (row, t) ∧ Padded t (']' :: rest) := by
  induction hcut generalizing s αs with
  | stop hdrop =>
    cases hs with
    | none hclose => exact h.readInOrder_stop hdrop false hclose
  | keep hv _ ih =>
    cases hs with
    | more hcomma hitem hfurther =>
      cases h with
      | cons _ htext _ hrow =>
        have hv := htext _ hv
        obtain ⟨t, hread, ht⟩ := ih hrow hfurther
        exact ⟨t, readInOrder_here (atItem_next hcomma hv.begins hitem)
          (hv.read_eq (.refl _) (hfurther.stops (.inl rfl))) hread, ht⟩

theorem readArray_eq {vs : List (List Char)} (h : Describes l row fs) (hcut : Cut fs vs)
    (harray : IsArray ('[' :: s) vs rest) :
    ∃ t, l.readInOrder true s = .ok (row, t) ∧ Padded t (']' :: rest) := by
  cases hcut with
  | stop hdrop =>
    cases harray with
    | empty hclose => exact h.readInOrder_stop hdrop true hclose
  | keep hv hcut =>
    cases harray with
    | items hitem hfurther =>
      cases h with
      | cons _ htext _ hrow =>
        have hv := htext _ hv
        obtain ⟨t, hread, ht⟩ := hrow.readInOrder_further hcut hfurther
        exact ⟨t, readInOrder_here (atItem_first hv.begins hitem)
          (hv.read_eq (.refl _) (hfurther.stops (.inl rfl))) hread, ht⟩

/-! ### Records -/

/-- **Every spelling of a record is read as the record.** -/
theorem takes (h : Describes l row fs) (hnodup : (fs.map RecordField.key).Nodup)
    (hv : IsRecord fs v) : Takes l.read v row where
  begins := hv.begins
  read_eq := by
    intro s rest hs _
    cases hv with
    | object hkept hothers hperm hobject =>
      obtain ⟨v', rfl⟩ := hobject.exists_cons
      obtain ⟨d, hread, hfinish⟩ :=
        h.readObject_eq hnodup hkept hothers hperm (hobject.append rest)
      have hskip : skipBlanks s = '\x7b' :: (v' ++ rest) := (padded_cons_iff (by decide)).1 hs
      rw [Layout.read, hskip]
      refine (reader_bind _ hread).trans ?_
      rw [hfinish]
      rfl
    | array hcut harray =>
      obtain ⟨v', rfl⟩ := harray.exists_cons
      obtain ⟨t, hread, ht⟩ := h.readArray_eq hcut (harray.append rest)
      have hskip : skipBlanks s = '[' :: (v' ++ rest) := (padded_cons_iff (by decide)).1 hs
      rw [Layout.read, hskip]
      refine (reader_bind _ hread).trans ?_
      exact (reader_bind _ (closeArray_eq ht)).trans rfl

theorem takes_codec {ρ : Type} {ofRow : Row αs → ρ} {toRow : ρ → Row αs} {r : ρ}
    (h : Describes l (toRow r) fs) (hnodup : (fs.map RecordField.key).Nodup)
    (hr : ofRow (toRow r) = r) (hv : IsRecord fs v) : Takes (l.codec ofRow toRow).read v r where
  begins := hv.begins
  read_eq := by
    intro s rest hs hrest
    have hread := (h.takes hnodup hv).read_eq hs hrest
    refine (reader_bind _ hread).trans ?_
    rw [hr]
    rfl

end Describes

/-! ### Records that are written -/

/-- The layout writes every field as one of its texts. -/
inductive Writes : {αs : List Type} → Layout αs → Row αs → List RecordField → Prop
  /-- There is no field. -/
  | nil : Writes .nil () []
  /-- This holds for a field and for the fields after it. -/
  | cons {α : Type} {αs : List Type} {slot : Slot α} {l : Layout αs} {a : α} {row : Row αs}
      {f : RecordField} {fs : List RecordField} : slot.key = f.key →
      f.Text (slot.codec.write a).render → Writes l row fs →
      Writes (.cons slot l) (a, row) (f :: fs)

theorem Writes.kept (h : Writes l row fs) :
    Kept fs ((l.write row).map fun m => (m.1, m.2.render)) := by
  induction h with
  | nil => exact .nil
  | cons hkey htext _ ih =>
    rw [Layout.write, List.map_cons, hkey]
    exact .keep htext ih

theorem Writes.isRecord (h : Writes l row fs) : IsRecord fs (object (l.write row)).render := by
  have hothers : ∀ m ∈ ([] : List (String × List Char)),
      m.1 ∉ fs.map RecordField.key ∧ IsValue m.2 := by simp
  exact .object h.kept hothers (by rw [List.append_nil]) (isObject_render _)

end Json

end FleetQuery
