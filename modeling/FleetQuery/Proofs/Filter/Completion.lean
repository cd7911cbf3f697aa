import FleetQuery.Entity.Container
import FleetQuery.Entity.Image
import FleetQuery.Proofs.Filter.Comparison
import FleetQuery.Proofs.Filter.Reading
import FleetQuery.Proofs.Filter.Schema
import FleetQuery.Proofs.Text.Located

/-!
# Where faults are reported

What stands before the place of a fault can be completed to a filter that is accepted, so no place
is blamed that lies behind the first one where the filter went wrong.  The nesting limit is the
exception: it is reported behind the symbol that exceeds it.

* `Schema.Usable` : the schema resolves some name, and all its rules accept some operator;
* `Completable schema k n p` : the nonterminal `k` derives a text that begins with `p`, within `n`
  levels;
* `Blames` : what stands before the place of a fault is completable;
* `readersBlame` : the readers blame such places;
* `exists_completion` : **every refused filter goes on to an accepted one from the reported place**,
  unless it is refused for its depth.

A prefix of a completable text is completable, so one completion at the last token of a comparison
serves for the tokens before it.  Around it, negations and chains need nothing more, and groups are
closed one after the other.
-/

namespace FleetQuery

/-- The schema resolves some name, and all its rules accept some operator. -/
structure Schema.Usable (schema : Schema) : Prop where
  /-- There is a name of a field. -/
  name : ∃ name field rule, IsFieldName name [] ∧
    schema.resolve? (String.ofList name) = some (field, rule)
  /-- Every rule accepts an operator. -/
  operators : ∀ rule ∈ schema.rules, rule.operators ≠ []

variable {schema : Schema} {k : Nonterminal} {j : Chain} {n : Nat} {s m p q name w x : List Char}
  {l tree : ParseTree} {field : Field} {rule : FieldRule} {op : Operator} {e : Expr} {stop : Stop}

theorem Schema.Usable.exists_allows (hs : schema.Usable)
    (h : schema.resolve? (String.ofList name) = some (field, rule)) :
    ∃ op, rule.allows op = true := by
  obtain ⟨op, hop⟩ := List.exists_mem_of_ne_nil _ (hs.operators rule (rule_of_resolve? h).1)
  exact ⟨op, by simpa [FieldRule.allows] using hop⟩

/-! ### Completable texts -/

/-- The nonterminal derives a text that begins with `p`, blanks at its end apart, and no comparison
costs more than `n`. -/
def Completable (schema : Schema) (k : Nonterminal) (n : Nat) (p : List Char) : Prop :=
  ∃ y x w tree, p ++ y = x ++ w ∧ (∀ c ∈ w, isBlank c = true) ∧ Phrase schema k x tree ∧
    tree.Within n

theorem Phrase.completable (h : Phrase schema k x tree) (hn : tree.Within n)
    (hw : ∀ c ∈ w, isBlank c = true) : Completable schema k n (x ++ w) :=
  ⟨[], x, w, tree, by simp, hw, h, hn⟩

namespace Completable

theorem of_append (h : Completable schema k n (p ++ q)) : Completable schema k n p := by
  obtain ⟨y, x, w, tree, hp, h⟩ := h
  exact ⟨q ++ y, x, w, tree, by simpa using hp, h⟩

theorem of_append_nil (h : Completable schema k n p) : Completable schema k n [] :=
  of_append (p := []) h

theorem plain (h : Completable schema .atom n p) : Completable schema .not n p := by
  obtain ⟨y, x, w, tree, hp, hw, h, hn⟩ := h
  exact ⟨y, x, w, tree, hp, hw, h.plain, hn⟩

theorem first (h : Completable schema j.operand n p) : Completable schema (.chain j) n p := by
  obtain ⟨y, x, w, tree, hp, hw, h, hn⟩ := h
  exact ⟨y, x, w, tree, hp, hw, h.first, hn⟩

theorem pad {v : List Char} (hv : ∀ c ∈ v, isBlank c = true) (h : Completable schema k n p) :
    Completable schema k n (v ++ p) := by
  obtain ⟨y, x, w, tree, hp, hw, h, hn⟩ := h
  exact ⟨y, v ++ x, w, tree, by simp [hp], hw, h.pad hv, hn⟩

theorem negation {v : List Char} (hv : ∀ c ∈ v, isBlank c = true)
    (h : Completable schema .not n p) : Completable schema .not (n + 1) (v ++ '!' :: p) := by
  obtain ⟨y, x, w, tree, hp, hw, h, hn⟩ := h
  exact ⟨y, v ++ '!' :: x, w, .not tree, by simp [hp], hw, h.negation hv,
    ParseTree.within_not.2 ⟨n, rfl, hn⟩⟩

/-- A group is closed behind its completion. -/
theorem group {v : List Char} (hv : ∀ c ∈ v, isBlank c = true)
    (h : Completable schema (.chain .or) n p) :
    Completable schema .not (n + 1) (v ++ '(' :: p) := by
  obtain ⟨y, x, w, tree, hp, hw, h, hn⟩ := h
  refine ⟨y ++ [')'], v ++ '(' :: (x ++ (w ++ [')'])), [], .group tree, ?_, by simp,
    (h.group hv hw).plain, ParseTree.within_group.2 ⟨n, rfl, hn⟩⟩
  rw [← List.append_assoc x, ← hp]
  simp

/-- A chain is completed in its last operand. -/
theorem link {v : List Char} (hl : Phrase schema (.chain j) x l)
    (hln : l.Within (n + (l.links j + 1))) (hv : ∀ c ∈ v, isBlank c = true)
    (h : Completable schema j.operand n p) :
    Completable schema (.chain j) (n + (l.links j + 1)) (x ++ (v ++ j.symbol :: p)) := by
  obtain ⟨y, x', w, tree, hp, hw, h, hn⟩ := h
  exact ⟨y, _, w, _, by simp [hp], hw, hl.link hv h, ParseTree.within_link.2 ⟨hln, n, rfl, hn⟩⟩

theorem quoted {v : List Char} {c : Char} (hname : IsFieldName name [])
    (hresolve : schema.resolve? (String.ofList name) = some (field, rule))
    (hallows : rule.allows op = true) (hop : op ≠ .is) (hw : ∀ c ∈ w, isBlank c = true)
    (hv : ∀ c ∈ v, isBlank c = true) (hc : c = '\'' ∨ c = '"') (hp : c ∉ p) :
    Completable schema .atom n (name ++ (w ++ (op.symbol.toList ++ (v ++ c :: p)))) := by
  have hphrase := Phrase.quoted hname hresolve hallows hop hw hv hc hp
  exact ⟨[c], _, [], _, by simp, by simp, hphrase, by simp⟩

theorem fieldName (hname : IsFieldName name [])
    (hresolve : schema.resolve? (String.ofList name) = some (field, rule))
    (hallows : rule.allows op = true) (hw : ∀ c ∈ w, isBlank c = true) :
    Completable schema .atom n (name ++ w) := by
  by_cases hop : op = .is
  · subst hop
    exact (Phrase.test hname hresolve hallows).completable (by simp) hw
  · have hquoted := quoted (n := n) (p := []) hname hresolve hallows hop hw (v := []) (by simp)
      (.inl rfl) (by simp)
    rw [← List.append_assoc] at hquoted
    exact hquoted.of_append

end Completable

/-! ### The places of faults -/

/-- What stands before the place of a fault is completable, unless the fault is the depth. -/
def Blames (schema : Schema) (k : Nonterminal) (n : Nat) (s : List Char) (stop : Stop) : Prop :=
  stop.fault ≠ .malformed .nestedTooDeeply → ∃ p, s = p ++ stop.rest ∧ Completable schema k n p

/-- Blame is handed on by whatever completes the text before it. -/
theorem Blames.imp {k' : Nonterminal} {n' : Nat} {v : List Char} (h : Blames schema k n s stop)
    (hp : ∀ p, Completable schema k n p → Completable schema k' n' (v ++ p)) :
    Blames schema k' n' (v ++ s) stop := by
  intro hfault
  obtain ⟨p, rfl, hcompletable⟩ := h hfault
  exact ⟨v ++ p, by simp, hp p hcompletable⟩

namespace Blames

theorem plain (h : Blames schema .atom n s stop) : Blames schema .not n s stop :=
  h.imp (v := []) fun _ hp => hp.plain

theorem first (h : Blames schema j.operand n s stop) : Blames schema (.chain j) n s stop :=
  h.imp (v := []) fun _ hp => hp.first

theorem pad (hw : ∀ c ∈ w, isBlank c = true) (h : Blames schema k n s stop) :
    Blames schema k n (w ++ s) stop := h.imp fun _ hp => hp.pad hw

theorem negation (hw : ∀ c ∈ w, isBlank c = true) (h : Blames schema .not n s stop) :
    Blames schema .not (n + 1) (w ++ '!' :: s) stop := by
  have := h.imp (v := w ++ ['!']) fun p hp => by simpa using hp.negation hw
  simpa using this

theorem group (hw : ∀ c ∈ w, isBlank c = true) (h : Blames schema (.chain .or) n s stop) :
    Blames schema .not (n + 1) (w ++ '(' :: s) stop := by
  have := h.imp (v := w ++ ['(']) fun p hp => by simpa using hp.group hw
  simpa using this

theorem link {s₀ : List Char} (hl : Derives schema (.chain j) s₀ l m)
    (hln : l.Within (n + (l.links j + 1))) (hsym : Padded m (j.symbol :: s))
    (h : Blames schema j.operand n s stop) :
    Blames schema (.chain j) (n + (l.links j + 1)) s₀ stop := by
  obtain ⟨x, rfl, hphrase⟩ := hl.phrase
  obtain ⟨w, hw, rfl⟩ := hsym
  have := h.imp (v := x ++ (w ++ [j.symbol])) fun p hp => by simpa using hp.link hphrase hln hw
  simpa using this

end Blames

theorem checkOperator_eq_error {text : String} (h : checkOperator rule text op s = .error stop) :
    stop.rest = s := by
  unfold checkOperator at h
  split_ifs at h
  cases h
  rfl

theorem Schema.Usable.completable_nil (hs : schema.Usable) : Completable schema .atom n [] := by
  obtain ⟨name, field, rule, hname, hresolve⟩ := hs.name
  obtain ⟨op, hop⟩ := hs.exists_allows hresolve
  exact (Completable.fieldName hname hresolve hop (w := []) (by simp)).of_append_nil

theorem Schema.Usable.blames_start (hs : schema.Usable) (h : stop.rest = s) :
    Blames schema .atom n s stop := fun _ => ⟨[], h.symm, hs.completable_nil⟩

theorem blames_pattern {u v : List Char} (hname : IsFieldName name [])
    (hresolve : schema.resolve? (String.ofList name) = some (field, rule))
    (hallows : rule.allows op = true) (hop : op ≠ .is) (hw : ∀ c ∈ w, isBlank c = true)
    (hv : ∀ c ∈ v, isBlank c = true) (h : pattern u = .error stop) :
    Blames schema .atom n (name ++ (w ++ (op.symbol.toList ++ (v ++ u)))) stop := by
  intro _
  rcases pattern_eq_error h with rfl | ⟨rfl, c, p, hc, hp, rfl⟩
  · have hopened := Completable.quoted (n := n) (p := []) hname hresolve hallows hop hw hv
      (.inl rfl) (by simp)
    refine ⟨name ++ (w ++ (op.symbol.toList ++ v)), by simp, ?_⟩
    exact Completable.of_append (q := ['\'']) (by simpa using hopened)
  · exact ⟨_, by simp, Completable.quoted hname hresolve hallows hop hw hv hc hp⟩

/-- A comparison blames its beginning for its field, and the place behind the tokens that it has for
everything else. -/
theorem blames_comparison (hs : schema.Usable) (h : comparison schema s = .error stop) :
    Blames schema .atom n s stop := by
  unfold comparison at h
  split at h
  · cases h
    exact hs.blames_start rfl
  rename_i name after hfield
  obtain ⟨rfl, hname⟩ := fieldName?_eq_some_iff.1 hfield
  have hname' : IsFieldName name [] := hname.before (by simp)
  obtain ⟨w, hw, hafter⟩ := padded_skipBlanks after
  dsimp only at h
  split at h
  · cases h
    exact hs.blames_start rfl
  rename_i field rule hresolve
  split at h
  · rcases except_bind_eq_error.1 h with hcheck | ⟨_, _, hok⟩
    · exact hs.blames_start (checkOperator_eq_error hcheck)
    · cases hok
  rename_i op after' hop
  obtain ⟨hsym, hop⟩ := operator?_eq_some_iff.1 hop
  rcases except_bind_eq_error.1 h with hcheck | ⟨_, hcheck, hrest⟩
  · -- an operator that the rule accepts could stand here
    intro _
    obtain ⟨op', hop'⟩ := hs.exists_allows hresolve
    refine ⟨name ++ w, ?_, Completable.fieldName hname' hresolve hop' hw⟩
    rw [checkOperator_eq_error hcheck, List.append_assoc, ← hafter]
  rcases except_bind_eq_error.1 hrest with hpattern | ⟨_, _, hok⟩
  · obtain ⟨v, hv, hafter'⟩ := padded_skipBlanks after'
    rw [hafter, hsym, hafter']
    exact blames_pattern hname' hresolve (checkOperator_eq_ok_iff.1 hcheck) hop.1 hw hv hpattern
  · cases hok

/-! ### The readers -/

/-- What the readers blame with `n` free levels; a chain that already has `i` links may cost
`n + i`. -/
structure ReadersBlame (schema : Schema) (n : Nat) : Prop where
  /-- An operand of a conjunction. -/
  not {s : List Char} {stop : Stop} :
    parseNot schema n s = .error stop → Blames schema .not n s stop
  /-- The further operands of a chain. -/
  links {j : Chain} {s₀ s m : List Char} {l : ParseTree} {stop : Stop} :
    Derives schema (.chain j) s₀ l m → skipBlanks m = skipBlanks s → l.Within (n + l.links j) →
      parseLinks schema j n l.expr s = .error stop →
      Blames schema (.chain j) (n + l.links j) s₀ stop

namespace ReadersBlame

theorem chain_of_operand (H : ReadersBlame schema n)
    (hoperand : parseOperand schema j n s = .error stop → Blames schema j.operand n s stop)
    (h : parseChain schema j n s = .error stop) : Blames schema (.chain j) n s stop := by
  rcases except_bind_eq_error.1 h with h | ⟨⟨e, s₁⟩, h₁, h⟩
  · exact (hoperand h).first
  · obtain ⟨t, m, hd, hm, rfl, hw⟩ := (readersSound schema n).operand h₁
    have hlinks := hd.links_operand
    have := H.links (.first hd) hm (hlinks ▸ hw) h
    rwa [hlinks] at this

theorem operand (H : ReadersBlame schema n) (h : parseOperand schema j n s = .error stop) :
    Blames schema j.operand n s stop := by
  cases j with
  | and => exact H.not h
  | or => exact H.chain_of_operand (j := .and) H.not h

theorem chain (H : ReadersBlame schema n) (h : parseChain schema j n s = .error stop) :
    Blames schema (.chain j) n s stop := H.chain_of_operand H.operand h

end ReadersBlame

theorem blames_tooDeep (s : List Char) (h : tooDeep m = .error stop) :
    Blames schema k n s stop := by
  cases h
  exact fun hfault => absurd rfl hfault

theorem blames_closeGroup {s' : List Char} {t : ParseTree}
    (hd : Derives schema (.chain .or) s' t m) (hn : t.Within n)
    (hm : skipBlanks m = skipBlanks s) (h : closeGroup e s = .error stop) :
    Blames schema (.chain .or) n s' stop := by
  intro _
  obtain ⟨x, rfl, hphrase⟩ := hd.phrase
  obtain ⟨w, hw, hskip⟩ := padded_skipBlanks m
  have hrest : stop.rest = skipBlanks s := by
    unfold closeGroup at h
    split at h
    · cases h
    · cases h
      rfl
  refine ⟨x ++ w, ?_, hphrase.completable hn hw⟩
  rw [hrest, ← hm, List.append_assoc, ← hskip]

theorem blames_parseNot (hs : schema.Usable) (ih : ∀ k, n = k + 1 → ReadersBlame schema k)
    (h : parseNot schema n s = .error stop) : Blames schema .not n s stop := by
  by_cases hneg : ∃ s', skipBlanks s = '!' :: s'
  · obtain ⟨s', hskip⟩ := hneg
    cases n with
    | zero =>
      rw [parseNot, hskip] at h
      exact blames_tooDeep s h
    | succ n =>
      rw [parseNot_negation hskip] at h
      obtain ⟨w, hw, rfl⟩ := hskip ▸ padded_skipBlanks s
      rcases except_bind_eq_error.1 h with h | ⟨_, _, hok⟩
      · exact ((ih n rfl).not h).negation hw
      · cases hok
  by_cases hgroup : ∃ s', skipBlanks s = '(' :: s'
  · obtain ⟨s', hskip⟩ := hgroup
    cases n with
    | zero =>
      rw [parseNot, hskip] at h
      exact blames_tooDeep s h
    | succ n =>
      rw [parseNot_group hskip] at h
      obtain ⟨w, hw, rfl⟩ := hskip ▸ padded_skipBlanks s
      refine Blames.group hw ?_
      rcases except_bind_eq_error.1 h with h | ⟨⟨e, s₁⟩, h₁, hclose⟩
      · exact (ih n rfl).chain h
      · obtain ⟨t, m, hd, hm, rfl, hn⟩ := (readersSound schema n).chain h₁
        exact blames_closeGroup hd hn hm hclose
  rw [parseNot_comparison (not_exists.1 hneg) (not_exists.1 hgroup)] at h
  obtain ⟨w, hw, hsplit⟩ := padded_skipBlanks s
  rw [hsplit]
  exact (blames_comparison hs h).plain.pad hw

theorem blames_parseLinks (ih : ∀ k, n = k + 1 → ReadersBlame schema k) {s₀ : List Char}
    (hl : Derives schema (.chain j) s₀ l m) (hm : skipBlanks m = skipBlanks s)
    (hw : l.Within (n + l.links j)) (h : parseLinks schema j n l.expr s = .error stop) :
    Blames schema (.chain j) (n + l.links j) s₀ stop := by
  by_cases hlink : ∃ s', skipBlanks s = j.symbol :: s'
  · obtain ⟨s', hskip⟩ := hlink
    cases n with
    | zero =>
      rw [parseLinks_tooDeep hskip] at h
      exact blames_tooDeep s₀ h
    | succ n =>
      rw [parseLinks_link hskip] at h
      have hsym : Padded m (j.symbol :: s') := (padded_cons_iff j.isBlank_symbol).2 (hm.trans hskip)
      -- the link that was read moves one level from the free ones to those of the chain
      have hlevels : n + 1 + l.links j = n + (l.links j + 1) := by omega
      rw [hlevels] at hw ⊢
      rcases except_bind_eq_error.1 h with h | ⟨⟨e', s₁⟩, h₁, h₂⟩
      · exact ((ih n rfl).operand h).link hl hw hsym
      · obtain ⟨r, m', hr, hm', rfl, hwr⟩ := (readersSound schema n).operand h₁
        have hwithin : (ParseTree.link j l r).Within (n + (ParseTree.link j l r).links j) := by
          rw [ParseTree.links_link]
          exact ParseTree.within_link.2 ⟨hw, n, rfl, hwr⟩
        rw [← ParseTree.links_link j l r]
        exact (ih n rfl).links (.link hl hsym hr) hm' hwithin h₂
  · rw [parseLinks_stop (not_exists.1 hlink)] at h
    cases h

/-- **The readers blame places before which the text is completable**, by induction on the free
levels. -/
theorem readersBlame (hs : schema.Usable) (n : Nat) : ReadersBlame schema n :=
  levels_induction (fun _ ih => ⟨blames_parseNot hs ih, blames_parseLinks ih⟩) n

/-! ### Whole filters -/

theorem Completable.exists_parseFilter (h : Completable schema (.chain .or) nestingLimit p) :
    ∃ t e, parseFilter schema (String.ofList p ++ t) = .ok e := by
  obtain ⟨y, x, w, tree, hp, hw, h, hn⟩ := h
  have hsentence := h.sentence_append fun c hc => isWhiteSpace_of_isBlank (hw c hc)
  refine ⟨String.ofList y, tree.expr, Sentence.parseFilter_eq ?_ hn⟩
  rw [String.toList_append, String.toList_ofList, String.toList_ofList, hp]
  exact hsentence

/-- White space behind a derivation of the whole text is not to blame. -/
theorem Derives.exists_parseFilter {t : ParseTree} (h : Derives schema (.chain .or) s t m)
    (hn : t.Within nestingLimit) :
    ∃ p, s = p ++ trimLeft m ∧ parseFilter schema (String.ofList p) = .ok t.expr := by
  obtain ⟨x, rfl, hphrase⟩ := h.phrase
  refine ⟨x ++ m.takeWhile isWhiteSpace, ?_, Sentence.parseFilter_eq ?_ hn⟩
  · rw [List.append_assoc, trimLeft, List.takeWhile_append_dropWhile]
  · rw [String.toList_ofList]
    exact hphrase.sentence_append (longestRun_takeWhile isWhiteSpace m).1

/-- **What stands before the place of a fault is completable** to an accepted filter. -/
theorem Schema.Usable.completable_of_parseFilter (hs : schema.Usable) {input : String}
    {err : FilterError} (h : parseFilter schema input = .error err)
    (hfault : err.fault ≠ .malformed .nestedTooDeeply) :
    ∃ p, p <+: input.toList ∧ utf8Length p = err.position ∧
      ∃ t e, parseFilter schema (String.ofList p ++ t) = .ok e := by
  unfold parseFilter at h
  split at h
  · rename_i stop hparse
    obtain rfl := Except.error.inj h
    obtain ⟨p, hp, hcompletable⟩ := (readersBlame hs nestingLimit).chain hparse hfault
    exact ⟨p, ⟨_, hp.symm⟩, by rw [Located.before_eq _ hp], hcompletable.exists_parseFilter⟩
  · rename_i e rest hparse
    split at h
    · cases h
    · rename_i c u htrim
      obtain rfl := Except.error.inj h
      obtain ⟨t, m, hd, hm, rfl, hn⟩ := (readersSound schema nestingLimit).chain hparse
      obtain ⟨p, hp, hparse⟩ := hd.exists_parseFilter hn
      rw [← trimLeft_skipBlanks, hm, trimLeft_skipBlanks, htrim] at hp
      exact ⟨p, ⟨_, hp.symm⟩, by rw [Located.before_eq _ hp], "", _, by simpa using hparse⟩

theorem Container.usable : Container.schema.Usable where
  name := ⟨"running".toList, .named "running", ⟨.exact "running", [.is]⟩,
    (fieldName?_eq_some_iff (s := "running".toList)).1 rfl |>.2, rfl⟩
  operators := by decide

theorem Image.usable : Image.schema.Usable where
  name := ⟨"id".toList, .named "id", ⟨.exact "id", [.eq, .like]⟩,
    (fieldName?_eq_some_iff (s := "id".toList)).1 rfl |>.2, rfl⟩
  operators := by decide

/-- **No place is blamed that lies behind the first one where the filter went wrong.**  A filter on
containers or images that is refused, and not for its depth, goes on to an accepted one from the
reported place. -/
theorem exists_completion {schema : Schema} {input : String} {err : FilterError}
    (hschema : schema = Container.schema ∨ schema = Image.schema)
    (h : parseFilter schema input = .error err)
    (hfault : err.fault ≠ .malformed .nestedTooDeeply) :
    ∃ p, p <+: input.toList ∧ utf8Length p = err.position ∧
      ∃ t e, parseFilter schema (String.ofList p ++ t) = .ok e := by
  have hs : schema.Usable := by
    rcases hschema with rfl | rfl
    · exact Container.usable
    · exact Image.usable
  exact hs.completable_of_parseFilter h hfault

/-- An operator that is not allowed, in an open group, a negation and a chain. -/
theorem exists_completion_illegalOperator :
    let input := "(running | !name~'é' & exit >= 3"
    let err : FilterError := ⟨.illegalOperator "exit" .gte, 29, input⟩
    parseFilter Container.schema input = .error err ∧
      err.fault ≠ .malformed .nestedTooDeeply ∧
      ∃ p, p <+: input.toList ∧ utf8Length p = err.position ∧
        ∃ t e, parseFilter Container.schema (String.ofList p ++ t) = .ok e :=
  ⟨rfl, by decide, exists_completion (.inl rfl) rfl (by decide)⟩

end FleetQuery
