import FleetQuery.Proofs.Literal.Grammar
import Mathlib.Algebra.BigOperators.Group.List.Basic

/-!
# The order of components

A literal means the same in whatever order its components are written.  That they may also be
written without blanks between them rests on the tables of units: no unit contains a digit or a
blank, so no unit grows longer by what the next component begins with.

* `Scale.Component` : a count and a unit of the table;
* `Scale.Row` : the texts that write components in an order, with blanks around them;
* `Row.append` : **two rows one behind the other are one row**, with blanks between them or not;
* `Row.isLiteral`, `IsLiteral.exists_row` : rows are the literals without a bare tail;
* `outcome` : what reading a text gives, up to the place of a fault;
* `Row.outcome_read` : **the outcome is decided by the sum of the components**;
* `parse_orderFree` : **two literals are read one behind the other as the sum of their values, in
  either order, and the components of a duration can be rearranged.**

A bare tail is a count at the end of the text, and what is written behind it would go on with the
count or ask for its unit.  Sizes with a bare tail are therefore left out.
-/

namespace FleetQuery

/-- The last character is a digit: the text ends with a number that has no unit. -/
def endsInDigit (s : List Char) : Bool := s.getLast?.any isDigit

/-- What reading a literal gives, up to the place of a fault. -/
def outcome (r : Except LiteralError Nat) : Except LiteralFault Nat := r.mapError (·.fault)

/-- A value, if it is a signed 64-bit integer. -/
def bounded (n : Nat) : Except LiteralFault Nat :=
  if n ≤ 2 ^ 63 - 1 then .ok n else .error .tooLarge

namespace Scale

variable {scale : Scale} {s t w rest digits : List Char} {m n : Nat}

/-- A count and a unit of the table. -/
structure Component (scale : Scale) where
  /-- The digits of the count. -/
  digits : List Char
  /-- The unit. -/
  unit : String
  /-- The magnitude of the unit. -/
  magnitude : Nat
  /-- There are digits and nothing else. -/
  isCount : IsCount digits
  /-- The unit is in the table. -/
  listed : (unit, magnitude) ∈ scale.units

/-- The component as it is written. -/
def Component.text (c : scale.Component) : List Char := c.digits ++ c.unit.toList

/-- What the component adds to the sum. -/
def Component.amount (c : scale.Component) : Nat := decimal c.digits * c.magnitude

/-- The text consists of the components in this order, with blanks around them. -/
inductive Row (scale : Scale) : List scale.Component → List Char → Prop
  /-- No component. -/
  | nil {w : List Char} : (∀ c ∈ w, isBlank c = true) → Row scale [] w
  /-- Blanks, a component, and further components. -/
  | cons {w s : List Char} {cs : List scale.Component} (c : scale.Component) :
      (∀ b ∈ w, isBlank b = true) → Row scale cs s → Row scale (c :: cs) (w ++ (c.text ++ s))

variable {c : scale.Component} {cs ds : List scale.Component}

/-! ### Rows -/

theorem Row.head? (h : scale.Row cs s) : ∀ c ∈ s.head?, isDigit c = true ∨ isBlank c = true := by
  cases h with
  | nil hw => exact fun c hc => .inr (hw c (List.mem_of_mem_head? hc))
  | cons c hw _ =>
    refine head?_blanks_append hw (fun _ => .inr) fun d hd => .inl ?_
    obtain ⟨e, es, hdigits⟩ := List.exists_cons_of_ne_nil c.isCount.1
    rw [Component.text, hdigits] at hd
    obtain rfl : e = d := by simpa using hd
    exact c.isCount.2 e (by simp [hdigits])

theorem Row.blanks_append (hw : ∀ c ∈ w, isBlank c = true) (h : scale.Row cs s) :
    scale.Row cs (w ++ s) := by
  cases h with
  | nil hs => exact .nil (List.forall_mem_append.2 ⟨hw, hs⟩)
  | cons c hv hs =>
    rw [← List.append_assoc]
    exact .cons c (List.forall_mem_append.2 ⟨hw, hv⟩) hs

/-- **Two rows one behind the other are one row**, by induction on the first. -/
theorem Row.append (hs : scale.Row cs s) (ht : scale.Row ds t) :
    scale.Row (cs ++ ds) (s ++ t) := by
  induction hs with
  | nil hw => exact ht.blanks_append hw
  | cons c hw _ ih =>
    rw [List.append_assoc, List.append_assoc]
    exact .cons c hw ih

theorem skipBlanks_row (hw : ∀ c ∈ w, isBlank c = true) :
    skipBlanks (w ++ (c.text ++ s)) = c.text ++ s := by
  rw [skipBlanks_append hw, Component.text, List.append_assoc]
  exact c.isCount.skipBlanks_append _

/-! ### Rows and literals -/

/-- No unit contains a digit or a blank. -/
def Lettered (scale : Scale) : Prop :=
  ∀ u ∈ scale.units, u.1.toList.all (fun c => !isDigit c && !isBlank c) = true

theorem duration_lettered : duration.Lettered := by
  unfold Lettered
  decide

theorem size_lettered : size.Lettered := by
  unfold Lettered
  decide

/-- Before a digit, a blank or the end of the text, the unit of a component is the longest one. -/
theorem Lettered.isUnit (h : scale.Lettered) (c : scale.Component)
    (hrest : ∀ d ∈ rest.head?, isDigit d = true ∨ isBlank d = true) :
    scale.IsUnit c.unit.toList c.magnitude rest := by
  refine ⟨by simpa using c.listed, fun u hu hprefix => ?_⟩
  by_contra hlonger
  obtain ⟨t, ht⟩ : c.unit.toList <+: u.1.toList :=
    List.prefix_of_prefix_length_le (List.prefix_append _ _) hprefix (by omega)
  rw [← ht, List.prefix_append_right_inj] at hprefix
  -- a longer unit contains what comes next
  obtain - | ⟨d, t⟩ := t
  · simp [← ht] at hlonger
  · obtain ⟨r, rfl⟩ := hprefix
    have hd := List.all_eq_true.1 (h u hu) d (by simp [← ht])
    obtain ⟨hdigit, hblank⟩ : isDigit d = false ∧ isBlank d = false := by simpa using hd
    simpa [hdigit, hblank] using hrest d rfl

/-- **A row adds up to its components**, by induction on them. -/
theorem Row.sums (hl : scale.Lettered) (h : scale.Row cs s) :
    scale.Sums (skipBlanks s) (cs.map Component.amount).sum := by
  induction h with
  | nil hw =>
    rw [skipBlanks_eq_nil_iff.2 hw]
    exact .nil
  | @cons _ s _ c hw hs ih =>
    obtain ⟨v, hv, hsplit⟩ := padded_skipBlanks s
    have hunit := hl.isUnit c hs.head?
    rw [hsplit] at hunit
    rw [skipBlanks_row hw, Component.text, List.append_assoc, List.map_cons, List.sum_cons, hsplit]
    exact .component c.isCount hunit hv ih

theorem Row.isLiteral (hl : scale.Lettered) (h : scale.Row cs s) (hcs : cs ≠ []) :
    scale.IsLiteral s (cs.map Component.amount).sum := by
  refine isLiteral_iff.2 ⟨?_, h.sums hl⟩
  cases h with
  | nil => exact absurd rfl hcs
  | cons c hw =>
    rw [skipBlanks_row hw, Component.text, List.append_assoc]
    exact fun hnil => c.isCount.1 (List.append_eq_nil_iff.1 hnil).1

theorem endsInDigit_of_suffix (h : IsCount digits) (hs : digits <:+ s) : endsInDigit s = true := by
  obtain ⟨u, rfl⟩ := hs
  rw [endsInDigit, List.getLast?_append_of_ne_nil _ h.1, List.getLast?_eq_some_getLast h.1]
  exact h.2 _ (List.getLast_mem h.1)

/-- A literal with this text has no bare tail. -/
def Tailless (scale : Scale) (s : List Char) : Prop :=
  scale.bareTail? = none ∨ endsInDigit s = false

/-- **Without a bare tail a sum is a row**, by induction on the components. -/
theorem Sums.exists_row (h : scale.Sums s n) (htail : scale.Tailless s) :
    ∃ cs, scale.Row cs s ∧ (cs.map Component.amount).sum = n := by
  -- the end of the text is the end of every part of the sum
  replace htail : scale.bareTail? = none ∨ ∀ digits, IsCount digits → ¬ digits <:+ s := by
    refine Or.imp_right (fun hs digits hcount hsuffix => ?_) htail
    exact Bool.false_ne_true (hs.symm.trans (endsInDigit_of_suffix hcount hsuffix))
  induction h with
  | nil => exact ⟨[], .nil (by simp), rfl⟩
  | bareTail hcount hm =>
    rcases htail with hnone | hnot
    · rw [hnone] at hm
      cases hm
    · exact absurd (List.suffix_refl _) (hnot _ hcount)
  | @component digits name w s m n hcount hunit hw hs ih =>
    have hsuffix : s <:+ digits ++ (name ++ (w ++ s)) := ⟨digits ++ (name ++ w), by simp⟩
    obtain ⟨cs, hrow, rfl⟩ := ih <| htail.imp_right fun hnot digits hcount hend =>
      hnot digits hcount (hend.trans hsuffix)
    let c : scale.Component := ⟨digits, String.ofList name, m, hcount, hunit.1⟩
    refine ⟨c :: cs, ?_, rfl⟩
    simpa [c, Component.text] using Row.cons c (w := []) (by simp) (hrow.blanks_append hw)

/-- A literal without a bare tail is a row. -/
theorem IsLiteral.exists_row (h : scale.IsLiteral s n) (htail : scale.Tailless s) :
    ∃ cs ≠ [], scale.Row cs s ∧ (cs.map Component.amount).sum = n := by
  obtain ⟨t, ⟨w, hw, rfl⟩, hne, hsums⟩ := h
  have htail' : scale.Tailless t := by
    rwa [Tailless, endsInDigit, List.getLast?_append_of_ne_nil _ hne] at htail
  obtain ⟨cs, hrow, hsum⟩ := hsums.exists_row htail'
  refine ⟨cs, ?_, hrow.blanks_append hw, hsum⟩
  rintro rfl
  have hskip := hsums.skipBlanks_eq
  cases hrow with
  | nil ht => exact hne (hskip.symm.trans (skipBlanks_eq_nil_iff.2 ht))

/-! ### Reading rows -/

theorem Orderly.outcome_read (h : scale.Orderly) {input : String}
    (hn : scale.IsLiteral input.toList n) : outcome (scale.read input) = bounded n := by
  unfold bounded
  split_ifs with hfits
  · rw [h.read_eq_ok_iff.2 ⟨hn, hfits⟩]
    rfl
  · obtain ⟨e, he, hfault⟩ := h.read_tooLarge hn (Nat.lt_of_not_le hfits)
    rw [he, ← hfault]
    rfl

/-- **What reading a row gives is decided by the sum of its components.** -/
theorem Row.outcome_read (h : scale.Orderly) (hl : scale.Lettered) {input : String}
    (hrow : scale.Row cs input.toList) :
    outcome (scale.read input) =
      if cs = [] then .error .noValue else bounded (cs.map Component.amount).sum := by
  split_ifs with hcs
  · subst hcs
    cases hrow with
    | nil hblank =>
      rw [read_of_blank (skipBlanks_eq_nil_iff.2 hblank)]
      rfl
  · exact h.outcome_read (hrow.isLiteral hl hcs)

theorem Component.read_eq (h : scale.Orderly) (hl : scale.Lettered) (c : scale.Component)
    {input : String} (hinput : input.toList = c.text) (hamount : c.amount = n)
    (hfits : n ≤ maxInteger) : scale.read input = .ok n := by
  have hrow : scale.Row [c] input.toList := by
    simpa [hinput] using Row.cons c (w := []) (by simp) (.nil (w := []) (by simp))
  have hliteral := hrow.isLiteral hl (List.cons_ne_nil c [])
  rw [List.map_singleton, List.sum_singleton, hamount] at hliteral
  exact h.read_eq_ok_iff.2 ⟨hliteral, hfits⟩

/-- Rearranged components are read alike. -/
theorem Row.outcome_perm (h : scale.Orderly) (hl : scale.Lettered) {a b : String}
    (hperm : cs.Perm ds) (ha : scale.Row cs a.toList) (hb : scale.Row ds b.toList) :
    outcome (scale.read b) = outcome (scale.read a) := by
  have hnil : ds = [] ↔ cs = [] := ⟨fun h => (h ▸ hperm).eq_nil, fun h => (h ▸ hperm).nil_eq.symm⟩
  rw [ha.outcome_read h hl, hb.outcome_read h hl, (hperm.map Component.amount).sum_eq]
  simp only [hnil]

/-- **One behind the other, two literals without a bare tail are read as the sum of their
values.** -/
theorem Orderly.outcome_read_append (h : scale.Orderly) (hl : scale.Lettered) {a b w : String}
    {v v' : Nat} (ha : scale.read a = .ok v) (hb : scale.read b = .ok v')
    (htail : scale.Tailless a.toList) (htail' : scale.Tailless b.toList)
    (hw : ∀ c ∈ w.toList, isBlank c = true) :
    outcome (scale.read (a ++ w ++ b)) = bounded (v + v') := by
  obtain ⟨cs, hcs, hrow, rfl⟩ := (h.read_eq_ok_iff.1 ha).1.exists_row htail
  obtain ⟨ds, -, hrow', rfl⟩ := (h.read_eq_ok_iff.1 hb).1.exists_row htail'
  have happend : scale.Row (cs ++ ds) (a ++ w ++ b).toList := by
    simpa using hrow.append (hrow'.blanks_append hw)
  rw [happend.outcome_read h hl, if_neg (by simp [hcs]), List.map_append, List.sum_append]

end Scale

/-- Where the two texts are read, they are read one behind the other as the sum of their values, in
either order, with blanks between them or not; the sum is too large in both orders or in none. -/
def ReadTogether (parse : String → Except LiteralError Nat) (a b : String) : Prop :=
  ∀ v v' : Nat, parse a = .ok v → parse b = .ok v' →
    ∀ w : String, (∀ c ∈ w.toList, isBlank c = true) →
      outcome (parse (a ++ w ++ b)) = bounded (v + v') ∧
        outcome (parse (b ++ w ++ a)) = bounded (v + v')

theorem Scale.Orderly.readTogether {scale : Scale} (h : scale.Orderly) (hl : scale.Lettered)
    {a b : String} (htail : scale.Tailless a.toList) (htail' : scale.Tailless b.toList) :
    ReadTogether scale.read a b := by
  intro v v' ha hb w hw
  refine ⟨h.outcome_read_append hl ha hb htail htail' hw, ?_⟩
  rw [Nat.add_comm]
  exact h.outcome_read_append hl hb ha htail' htail hw

/-- **Order does not matter.**  Two durations are read one behind the other as the sum of their
values, in either order; so are two sizes, unless one of them ends in a number without unit.  Every
duration literal is a row of components, and every text that writes the same components in another
order is read alike. -/
theorem parse_orderFree (a b : String) :
    ReadTogether parseDuration a b ∧
    (endsInDigit a.toList = false → endsInDigit b.toList = false → ReadTogether parseSize a b) ∧
    (∀ n, Scale.duration.IsLiteral a.toList n →
      ∃ cs ≠ [], Scale.duration.Row cs a.toList ∧ (cs.map Scale.Component.amount).sum = n) ∧
    ∀ cs ds, cs.Perm ds → Scale.duration.Row cs a.toList → Scale.duration.Row ds b.toList →
      outcome (parseDuration b) = outcome (parseDuration a) := by
  refine ⟨?_, fun ha hb => ?_, fun n hn => hn.exists_row (.inl rfl), fun cs ds hperm ha hb => ?_⟩
  · exact Scale.duration_orderly.readTogether Scale.duration_lettered (.inl rfl) (.inl rfl)
  · exact Scale.size_orderly.readTogether Scale.size_lettered (.inr ha) (.inr hb)
  · exact ha.outcome_perm Scale.duration_orderly Scale.duration_lettered hperm hb

/-- The largest duration and one millisecond more are too large in either order, sizes are put
together without a blank, and an hour may stand behind half an hour. -/
theorem parse_orderFree_overflow :
    (outcome (parseDuration "9223372036854775807ms 1ms") = .error .tooLarge ∧
      outcome (parseDuration "1ms 9223372036854775807ms") = .error .tooLarge) ∧
    (outcome (parseSize "1KB2kb") = .ok 3024 ∧ outcome (parseSize "2kb1KB") = .ok 3024) ∧
    outcome (parseDuration "30m1h") = outcome (parseDuration "1h 30m") := by
  have hblank : ∀ c ∈ " ".toList, isBlank c = true := List.all_eq_true.1 (by decide)
  refine ⟨?_, ?_, ?_⟩
  · let largest : Scale.duration.Component := ⟨"9223372036854775807".toList, "ms", 1,
      ⟨by decide, List.all_eq_true.1 (by decide)⟩, by decide⟩
    let one : Scale.duration.Component :=
      ⟨['1'], "ms", 1, ⟨by decide, List.all_eq_true.1 (by decide)⟩, by decide⟩
    have hlargest : parseDuration "9223372036854775807ms" = .ok 9223372036854775807 :=
      largest.read_eq Scale.duration_orderly Scale.duration_lettered (by decide) (by decide)
        (by decide)
    have hone : parseDuration "1ms" = .ok 1 :=
      one.read_eq Scale.duration_orderly Scale.duration_lettered (by decide) (by decide) (by decide)
    simpa [bounded] using (parse_orderFree _ _).1 _ _ hlargest hone " " hblank
  · let binary : Scale.size.Component :=
      ⟨['1'], "KB", 1024, ⟨by decide, List.all_eq_true.1 (by decide)⟩, by decide⟩
    let metric : Scale.size.Component :=
      ⟨['2'], "kb", 1000, ⟨by decide, List.all_eq_true.1 (by decide)⟩, by decide⟩
    have hbinary : parseSize "1KB" = .ok 1024 :=
      binary.read_eq Scale.size_orderly Scale.size_lettered (by decide) (by decide) (by decide)
    have hmetric : parseSize "2kb" = .ok 2000 :=
      metric.read_eq Scale.size_orderly Scale.size_lettered (by decide) (by decide) (by decide)
    simpa [bounded] using
      (parse_orderFree _ _).2.1 (by decide) (by decide) _ _ hbinary hmetric "" (by simp)
  · let hour : Scale.duration.Component :=
      ⟨['1'], "h", 3600000, ⟨by decide, List.all_eq_true.1 (by decide)⟩, by decide⟩
    let half : Scale.duration.Component :=
      ⟨['3', '0'], "m", 60000, ⟨by decide, List.all_eq_true.1 (by decide)⟩, by decide⟩
    have hhour : "1h 30m".toList = hour.text ++ (" ".toList ++ (half.text ++ [])) := by decide
    have hhalf : "30m1h".toList = half.text ++ ([] ++ (hour.text ++ [])) := by decide
    have hnil : Scale.duration.Row [] [] := .nil (by simp)
    have hrow : Scale.duration.Row [hour, half] "1h 30m".toList :=
      hhour ▸ .cons (w := []) hour (by simp) (.cons half hblank hnil)
    have hrow' : Scale.duration.Row [half, hour] "30m1h".toList :=
      hhalf ▸ .cons (w := []) half (by simp) (.cons hour (by simp) hnil)
    exact (parse_orderFree _ _).2.2.2 _ _ (List.Perm.swap half hour []) hrow hrow'

end FleetQuery
