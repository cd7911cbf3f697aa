import FleetQuery.Entity.Container
import FleetQuery.Proofs.Filter.Comparison
import FleetQuery.Proofs.Filter.Language
import Mathlib.Data.List.DropRight

/-!
# Filters inside filters

After a whole filter any white space may stand, but before a closing parenthesis only blanks.  So an
accepted filter may be put into parentheses, and with them into a negation, a conjunction or a
disjunction, exactly if the white space at its end is blanks.

* `EndsInBlanks` : the white space at the end of a text is blanks;
* `Derives.visible` : the last token of a derivation does not end in white space, so the rest of a
  sentence is the white space at its end;
* `Sentence.group`, `Sentence.endsInBlanks` : a sentence may stand in parentheses, exactly if it
  ends in blanks;
* `parseFilter_embed` : **when an accepted filter may be embedded in a bigger one**, and how that
  one is read;
* `parseFilter_noBreakSpace` : an accepted filter that may not.
-/

namespace FleetQuery

/-- The white space at the end of a text is blanks. -/
def EndsInBlanks (s : List Char) : Prop := ∀ c ∈ s.rtakeWhile isWhiteSpace, isBlank c = true

theorem endsInBlanks_iff_all {s : List Char} :
    EndsInBlanks s ↔ (s.rtakeWhile isWhiteSpace).all isBlank = true := List.all_eq_true.symm

/-- The filter is read as `e`, and in its derivation no comparison costs more than `n`. -/
def AcceptedWithin (schema : Schema) (n : Nat) (input : String) (e : Expr) : Prop :=
  parseFilter schema input = .ok e ∧ ∀ t, Sentence schema input.toList t → t.Within n

variable {schema : Schema} {k : Nonterminal} {s m w x y : List Char} {l t : ParseTree} {e : Expr}
  {n : Nat}

/-! ### The end of a sentence -/

theorem isWhiteSpace_eq_false_of_isBareChar {c : Char} (h : isBareChar c = true) :
    isWhiteSpace c = false := by
  simp only [isBareChar, Bool.and_eq_true, Bool.not_eq_true'] at h
  exact h.1

/-- The text `s` goes on with `m` behind a character that is no white space. -/
def Visible (s m : List Char) : Prop := ∃ x c, s = x ++ c :: m ∧ isWhiteSpace c = false

theorem Visible.of_suffix (h : Visible s m) (hs : s <:+ y) : Visible y m := by
  obtain ⟨x, c, rfl, hc⟩ := h
  obtain ⟨w, rfl⟩ := hs
  exact ⟨w ++ x, c, by simp, hc⟩

theorem visible_of_ne_nil (hs : s ≠ []) (h : ∀ c ∈ s, isWhiteSpace c = false) :
    Visible (s ++ m) m := by
  refine ⟨s.dropLast, s.getLast hs, ?_, h _ (List.getLast_mem hs)⟩
  rw [List.append_cons, List.dropLast_append_getLast]

theorem IsPattern.visible {p : List Char} (h : IsPattern s p m) : Visible s m := by
  cases h with
  | @quoted q _ _ hq _ =>
    refine ⟨q :: p, q, rfl, ?_⟩
    rcases hq with rfl | rfl <;> decide
  | bare _ _ hrun =>
    exact visible_of_ne_nil (List.cons_ne_nil _ _)
      fun c hc => isWhiteSpace_eq_false_of_isBareChar (hrun.1 c hc)

theorem IsComparison.visible {c : Comparison} (h : IsComparison schema s c m) : Visible s m := by
  cases h with
  | test hname =>
    obtain ⟨c, cs, rfl, -⟩ := hname.exists_cons
    exact visible_of_ne_nil (List.cons_ne_nil _ _)
      fun c hc => isWhiteSpace_eq_false_of_isFieldChar (hname.2.1 c hc)
  | compare _ hsym _ hpad hpattern =>
    exact hpattern.visible.of_suffix (hpad.suffix.trans ((List.suffix_append _ _).trans
      (hsym.suffix.trans (List.suffix_append _ _))))

/-- **No derivation ends in white space**, by induction on it. -/
theorem Derives.visible (h : Derives schema k s t m) : Visible s m := by
  -- the last token of a derivation is that of its last part
  induction h with
  | first _ ih | plain _ ih => exact ih
  | link hl hsym _ _ ihr =>
    exact ihr.of_suffix ((List.suffix_cons _ _).trans (hsym.suffix.trans hl.suffix))
  | negation hsym _ ih => exact ih.of_suffix ((List.suffix_cons _ _).trans hsym.suffix)
  | @group _ _ _ rest _ hopen h hclose _ =>
    have hlast : Visible (')' :: rest) rest := ⟨[], ')', rfl, by decide⟩
    exact hlast.of_suffix (hclose.suffix.trans (h.suffix.trans
      ((List.suffix_cons _ _).trans hopen.suffix)))
  | comparison hpad h => exact h.visible.of_suffix hpad.suffix

theorem Visible.rtakeWhile_eq (h : Visible s m) (hm : ∀ c ∈ m, isWhiteSpace c = true) :
    s.rtakeWhile isWhiteSpace = m := by
  obtain ⟨x, c, rfl, hc⟩ := h
  rw [List.rtakeWhile, List.reverse_append, List.reverse_cons, List.append_assoc,
    List.takeWhile_append_of_pos (by simpa using hm), List.singleton_append,
    List.takeWhile_cons_of_neg (by simp [hc]), List.append_nil, List.reverse_reverse]

theorem Sentence.derives (h : Sentence schema s t) :
    Derives schema (.chain .or) s t (s.rtakeWhile isWhiteSpace) := by
  obtain ⟨rest, h, hrest⟩ := h
  rwa [h.visible.rtakeWhile_eq hrest]

/-! ### Sentences in parentheses -/

/-- A sentence that ends in blanks may stand in parentheses. -/
theorem Sentence.group (h : Sentence schema s l) (hs : EndsInBlanks s) :
    Phrase schema .not ('(' :: (s ++ [')'])) (.group l) := by
  obtain ⟨x, hx, hphrase⟩ := h.derives.phrase
  have hgroup := (hphrase.group (w := []) (by simp) hs).plain
  rwa [List.nil_append, ← List.append_assoc, ← hx] at hgroup

theorem exists_white (h : ¬ EndsInBlanks s) (b : List Char) :
    ∃ c u, Padded (s.rtakeWhile isWhiteSpace ++ b) (c :: u) ∧ isBlank c = false ∧
      isWhiteSpace c = true := by
  set rest := s.rtakeWhile isWhiteSpace with hrest
  obtain ⟨w, hw, hsplit⟩ := padded_skipBlanks rest
  cases hskip : skipBlanks rest with
  | nil =>
    refine absurd (fun c hc => hw c ?_) h
    rwa [← hrest, hsplit, hskip, List.append_nil] at hc
  | cons c u =>
    refine ⟨c, u ++ b, ⟨w, hw, ?_⟩, (longestRun_takeWhile isBlank rest).2 c ?_, ?_⟩
    · rw [hsplit, hskip]
      simp
    · exact Option.mem_def.2 (congrArg List.head? hskip)
    · refine List.mem_rtakeWhile_imp (l := s) ?_
      rw [← hrest, hsplit, hskip]
      simp

/-- Only sentences that end in blanks stand in parentheses. -/
theorem Sentence.endsInBlanks (h : Sentence schema s l) {b : List Char}
    (hd : Derives schema .not ('(' :: (s ++ ')' :: b)) t m) : EndsInBlanks s := by
  have hparen : Padded ('(' :: (s ++ ')' :: b)) ('(' :: (s ++ ')' :: b)) := ⟨[], by simp, rfl⟩
  cases hd with
  | negation hsym _ =>
    exact absurd (notNext_of_padded hparen (by decide) (by decide)) (hsym.not_notNext (by decide))
  | plain hatom =>
    cases hatom with
    | comparison hpad hc =>
      exact absurd (hc.notNext hpad (by decide)) (hparen.not_notNext (by decide))
    | @group _ s' m₁ _ t₁ hopen hinner hclose =>
      obtain rfl := hopen.cons_inj (by decide) hparen
      by_contra hblanks
      obtain ⟨c, u, hpad, hblank, hwhite⟩ := exists_white hblanks (')' :: b)
      have hnext : ∀ d, isWhiteSpace d = false →
          NotNext d (s.rtakeWhile isWhiteSpace ++ ')' :: b) := by
        intro d hd
        refine notNext_of_padded hpad hblank ?_
        rintro rfl
        rw [hwhite] at hd
        cases hd
      -- the inner disjunction is the sentence, so the white space has to be before the parenthesis
      obtain ⟨x, hx, hphrase⟩ := h.derives.phrase
      have hsentence := hphrase _ (boundary_of_isWhiteSpace hpad hblank hwhite)
      rw [← List.append_assoc, ← hx] at hsentence
      obtain ⟨-, rfl⟩ := hsentence.determined.chain_eq hinner (hnext '&' (by decide))
        (notNext_of_padded hclose (by decide) (by decide)) (hnext '|' (by decide))
        (notNext_of_padded hclose (by decide) (by decide))
      exact hclose.not_notNext (by decide) (hnext ')' (by decide))

/-! ### Operands -/

theorem Derives.exists_operand (h : Derives schema k s t m) :
    ∃ t m, Derives schema .not s t m := by
  induction h with
  | first _ ih | link _ _ _ ih => exact ih
  | negation hsym h => exact ⟨_, _, .negation hsym h⟩
  | plain h => exact ⟨_, _, .plain h⟩
  | group hopen h hclose => exact ⟨_, _, .plain (.group hopen h hclose)⟩
  | comparison hpad h => exact ⟨_, _, .plain (.comparison hpad h)⟩

/-- Two operands are joined to a chain, if the second one pays for its place. -/
theorem Phrase.exists_joined (k : Chain) {r : ParseTree} (hx : Phrase schema .not x l)
    (hy : Phrase schema .not y r) (hw : ∀ c ∈ w, isBlank c = true) (hl : l.Within nestingLimit)
    (hr : ∃ n, nestingLimit = n + 1 ∧ r.Within n) :
    ∃ t, Sentence schema (x ++ (w ++ k.symbol :: y)) t ∧ t.Within nestingLimit ∧
      t.expr = k.combine l.expr r.expr := by
  have hlinks := (hx _ boundary_nil).links_not k
  refine ⟨.link k l r, (hx.operand.first.link hw hy.operand).disjunction.sentence, ?_, rfl⟩
  exact ParseTree.within_link.2 ⟨hl, hlinks ▸ hr⟩

theorem exists_parseChain {r : Expr × List Char} (h : parseChain schema .or n s = .ok r)
    (k : Chain) : ∃ r', parseChain schema k n s = .ok r' := by
  cases k with
  | and =>
    obtain ⟨r', hr', -⟩ := except_bind_eq_ok.1 h
    exact ⟨r', hr'⟩
  | or => exact ⟨r, h⟩

theorem Phrase.exists_operand_of_parseChain (k : Chain) {r : Expr × List Char}
    (hx : Phrase schema .not x l) (hw : ∀ c ∈ w, isBlank c = true) (hl : l.Within nestingLimit)
    (h : parseChain schema .or nestingLimit (x ++ (w ++ k.symbol :: y)) = .ok r) :
    ∃ t m, Derives schema .not y t m := by
  have hsym : Padded (w ++ k.symbol :: y) (k.symbol :: y) := ⟨w, hw, rfl⟩
  obtain ⟨r', h⟩ := exists_parseChain h k
  obtain ⟨u, hu, hparse⟩ :=
    (hx.operand _ (boundary_of_link hsym)).reads.operand (Chain.closes_of_padded hsym) hl
  rw [parseChain, hparse, except_ok_bind] at h
  dsimp only at h
  rw [nestingLimit, parseLinks_link (hu.trans ((padded_cons_iff k.isBlank_symbol).1 hsym))] at h
  obtain ⟨_, hoperand, -⟩ := except_bind_eq_ok.1 h
  obtain ⟨t, m, hd, -⟩ := (readersSound schema _).operand hoperand
  exact hd.exists_operand

/-! ### Whole filters -/

variable {i j input : String} {f g : Expr}

theorem AcceptedWithin.exists_sentence (h : AcceptedWithin schema n i f) :
    ∃ t, Sentence schema i.toList t ∧ t.Within n ∧ t.expr = f := by
  obtain ⟨t, ht, rfl, -⟩ := exists_sentence_of_parseFilter h.1
  exact ⟨t, ht, h.2 t ht, rfl⟩

/-- Reading with `n` free levels finds out what a filter costs. -/
theorem acceptedWithin_of_parseChain (hn : n ≤ nestingLimit)
    (h : parseChain schema .or n i.toList = .ok (f, m)) (hm : m.all isWhiteSpace = true) :
    AcceptedWithin schema n i f := by
  obtain ⟨t, rest, hd, hrest, rfl, hwithin⟩ := (readersSound schema n).chain h
  have hsentence : Sentence schema i.toList t := by
    refine ⟨rest, hd, ?_⟩
    rw [← forall_isWhiteSpace_skipBlanks, hrest, forall_isWhiteSpace_skipBlanks]
    exact List.all_eq_true.1 hm
  refine ⟨hsentence.parseFilter_eq (hwithin.mono hn), fun t' ht' => ?_⟩
  rwa [hsentence.unique ht']

theorem eq_ok_iff_of_imp {ε α : Type} {r : Except ε α} {a : α} {P : Prop} (h : P → r = .ok a)
    (h' : ∀ b, r = .ok b → P) (b : α) : r = .ok b ↔ b = a ∧ P := by
  constructor
  · intro hb
    have hP := h' b hb
    exact ⟨Except.ok.inj (hb.symm.trans (h hP)), hP⟩
  · rintro ⟨rfl, hP⟩
    exact h hP

theorem exists_operand_of_parseFilter (h : parseFilter schema input = .ok e) :
    ∃ t m, Derives schema .not input.toList t m := by
  obtain ⟨t, ⟨rest, hd, -⟩, -⟩ := exists_sentence_of_parseFilter h
  exact hd.exists_operand

/-- Two filters in parentheses, joined by a symbol. -/
theorem parseFilter_join_eq_ok_iff (k : Chain) (hi : AcceptedWithin schema 254 i f)
    (hj : AcceptedWithin schema 254 j g)
    (hinput : input.toList = '(' :: (i.toList ++ [')']) ++
      ([' '] ++ k.symbol :: ([' '] ++ '(' :: (j.toList ++ [')'])))) (e : Expr) :
    parseFilter schema input = .ok e ↔
      e = k.combine f g ∧ EndsInBlanks i.toList ∧ EndsInBlanks j.toList := by
  obtain ⟨l, hl, hwl, rfl⟩ := hi.exists_sentence
  obtain ⟨r, hr, hwr, rfl⟩ := hj.exists_sentence
  have hblank : ∀ c ∈ [' '], isBlank c = true := by simp [isBlank]
  have hgroup : (ParseTree.group l).Within nestingLimit :=
    ParseTree.within_group.2 ⟨255, rfl, hwl.mono (by decide)⟩
  refine eq_ok_iff_of_imp ?_ (fun e he => ?_) e
  · rintro ⟨hblanks, hblanks'⟩
    obtain ⟨t, ht, hwt, hexpr⟩ := (hl.group hblanks).exists_joined k
      ((hr.group hblanks').pad hblank) hblank hgroup
      ⟨255, rfl, ParseTree.within_group.2 ⟨254, rfl, hwr⟩⟩
    rw [← hinput] at ht
    rw [ht.parseFilter_eq hwt, hexpr]
    rfl
  · obtain ⟨t, m, hd⟩ := exists_operand_of_parseFilter he
    rw [hinput, List.cons_append, List.append_assoc] at hd
    have hblanks := hl.endsInBlanks hd
    obtain ⟨rest, hparse, -⟩ := FleetQuery.parseFilter_eq_ok_iff.1 he
    rw [hinput] at hparse
    obtain ⟨t', m', hd'⟩ :=
      (hl.group hblanks).exists_operand_of_parseChain k hblank hgroup hparse
    exact ⟨hblanks, hr.endsInBlanks (hd'.of_skipBlanks_eq (skipBlanks_append hblank).symm)⟩

/-- A filter in parentheses, negated. -/
theorem parseFilter_not_eq_ok_iff (hi : AcceptedWithin schema 254 i f)
    (hinput : input.toList = '!' :: '(' :: (i.toList ++ [')'])) (e : Expr) :
    parseFilter schema input = .ok e ↔ e = .not f ∧ EndsInBlanks i.toList := by
  obtain ⟨l, hl, hwl, rfl⟩ := hi.exists_sentence
  refine eq_ok_iff_of_imp (fun hblanks => ?_) (fun e he => ?_) e
  · have hsentence := ((hl.group hblanks).negation (w := []) (by simp)).operand.first.sentence
    rw [List.nil_append, ← hinput] at hsentence
    rw [hsentence.parseFilter_eq]
    · rfl
    · exact ParseTree.within_not.2 ⟨255, rfl, ParseTree.within_group.2 ⟨254, rfl, hwl⟩⟩
  · obtain ⟨t, m, hd⟩ := exists_operand_of_parseFilter he
    have hsym : Padded input.toList ('!' :: '(' :: (i.toList ++ [')'])) := ⟨[], by simp, hinput⟩
    cases hd with
    | negation hsym' hd' =>
      obtain rfl := hsym.cons_inj (by decide) hsym'
      exact hl.endsInBlanks hd'
    | plain hatom => exact absurd hatom.notNext_atom (hsym.not_notNext (by decide))

/-- **Embedding an accepted filter in a bigger one.**  Two accepted filters none of whose
comparisons costs more than 254 levels may be put into parentheses, and those joined by `&` or by
`|` or negated, exactly if the white space at their ends is blanks; the bigger filter is then read
as the conjunction, the disjunction or the negation of what they are read as. -/
theorem parseFilter_embed (hi : AcceptedWithin schema 254 i f)
    (hj : AcceptedWithin schema 254 j g) :
    (∀ e, parseFilter schema ("(" ++ i ++ ") & (" ++ j ++ ")") = .ok e ↔
      e = .and f g ∧ EndsInBlanks i.toList ∧ EndsInBlanks j.toList) ∧
    (∀ e, parseFilter schema ("(" ++ i ++ ") | (" ++ j ++ ")") = .ok e ↔
      e = .or f g ∧ EndsInBlanks i.toList ∧ EndsInBlanks j.toList) ∧
    (∀ e, parseFilter schema ("!(" ++ i ++ ")") = .ok e ↔ e = .not f ∧ EndsInBlanks i.toList) := by
  refine ⟨parseFilter_join_eq_ok_iff .and hi hj (by simp [Chain.symbol]),
    parseFilter_join_eq_ok_iff .or hi hj (by simp [Chain.symbol]),
    parseFilter_not_eq_ok_iff hi (by simp)⟩

/-- Two filters that leave nothing out: blanks and a line feed at the end, both sorts of chains, a
group and a negation. -/
theorem parseFilter_embed_chains :
    let i := "running | !name~'a b'&exit>1 \n"
    let j := "(paused)"
    let f : Expr := .or (.leaf ⟨.named "running", .is, ""⟩)
      (.and (.not (.leaf ⟨.named "name", .like, "a b"⟩)) (.leaf ⟨.named "exit", .gt, "1"⟩))
    let g : Expr := .leaf ⟨.named "paused", .is, ""⟩
    AcceptedWithin Container.schema 254 i f ∧ AcceptedWithin Container.schema 254 j g ∧
      parseFilter Container.schema ("(" ++ i ++ ") & (" ++ j ++ ")") = .ok (.and f g) ∧
      parseFilter Container.schema ("(" ++ i ++ ") | (" ++ j ++ ")") = .ok (.or f g) ∧
      parseFilter Container.schema ("!(" ++ i ++ ")") = .ok (.not f) := by
  intro i j f g
  have hi : AcceptedWithin Container.schema 254 "running | !name~'a b'&exit>1 \n" f :=
    acceptedWithin_of_parseChain (m := [' ', '\n']) (by decide) rfl (by decide)
  have hj : AcceptedWithin Container.schema 254 "(paused)" g :=
    acceptedWithin_of_parseChain (m := []) (by decide) rfl (by decide)
  have hblanks : EndsInBlanks i.toList ∧ EndsInBlanks j.toList :=
    ⟨endsInBlanks_iff_all.2 (by decide), endsInBlanks_iff_all.2 (by decide)⟩
  obtain ⟨hand, hor, hnot⟩ := parseFilter_embed hi hj
  exact ⟨hi, hj, (hand _).2 ⟨rfl, hblanks⟩, (hor _).2 ⟨rfl, hblanks⟩, (hnot _).2 ⟨rfl, hblanks.1⟩⟩

/-- A no-break space may end a filter, and may not stand before a closing parenthesis. -/
theorem parseFilter_noBreakSpace :
    let e : Expr := .leaf ⟨.named "running", .is, ""⟩
    AcceptedWithin Container.schema 254 "running\u00a0" e ∧
      AcceptedWithin Container.schema 254 "running" e ∧
      parseFilter Container.schema ("(" ++ "running\u00a0" ++ ") & (" ++ "running" ++ ")") =
        .error ⟨.malformed .expectedClose, 8, "(running\u00a0) & (running)"⟩ ∧
      parseFilter Container.schema ("(" ++ "running\u00a0" ++ ") | (" ++ "running" ++ ")") =
        .error ⟨.malformed .expectedClose, 8, "(running\u00a0) | (running)"⟩ ∧
      parseFilter Container.schema ("!(" ++ "running\u00a0" ++ ")") =
        .error ⟨.malformed .expectedClose, 9, "!(running\u00a0)"⟩ := by
  intro e
  have hi : AcceptedWithin Container.schema 254 "running\u00a0" e :=
    acceptedWithin_of_parseChain (m := ['\u00a0']) (by decide) rfl (by decide)
  have hj : AcceptedWithin Container.schema 254 "running" e :=
    acceptedWithin_of_parseChain (m := []) (by decide) rfl (by decide)
  exact ⟨hi, hj, rfl, rfl, rfl⟩

end FleetQuery
