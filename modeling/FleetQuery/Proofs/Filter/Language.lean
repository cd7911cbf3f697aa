import FleetQuery.Proofs.Filter.Reading
import Mathlib.Logic.Relation

/-!
# The language of filters

The grammar is unambiguous, and `parseFilter` accepts exactly its sentences within the nesting
limit:

* `Derives.determined` : a derivation of an operand fixes its tree and what it leaves; of two
  derivations of a chain from one text, one prolongs the other;
* `Sentence.unique` : a text is a sentence with at most one tree;
* `parseFilter_eq_ok_iff_sentence` : **the accepted filters are the sentences of the grammar**
  in which no comparison costs more than the nesting limit, and each is read as its only tree.

A chain is compared link by link.  `LinkStep` adds one link at the end of a chain, so a longer chain
is reached from a shorter one by a sequence of steps, and no other chain is reached from one that no
link follows.
-/

namespace FleetQuery

open Relation

variable {schema : Schema} {k : Chain} {s m m' rest : List Char} {t t' : ParseTree}

/-! ### Steps along a chain -/

/-- One more operand of a chain, read to its end: from the chain read so far and the text after it
to the longer chain and the text after that. -/
def LinkStep (schema : Schema) (k : Chain) (a b : ParseTree × List Char) : Prop :=
  ∃ u r, Padded a.2 (k.symbol :: u) ∧ Derives schema k.operand u r b.2 ∧ k.Closes b.2 ∧
    b.1 = .link k a.1 r

/-- Of two elements, one is reached from the other. -/
def Comparable {α : Type} (r : α → α → Prop) (a b : α) : Prop :=
  ReflTransGen r a b ∨ ReflTransGen r b a

theorem Comparable.eq {α : Type} {r : α → α → Prop} {a b : α} (h : Comparable r a b)
    (ha : ∀ c, ¬ r a c) (hb : ∀ c, ¬ r b c) : a = b := by
  have stuck : ∀ {x y}, ReflTransGen r x y → (∀ c, ¬ r x c) → x = y := by
    intro x y hxy hx
    rcases ReflTransGen.cases_head hxy with rfl | ⟨c, hc, -⟩
    · rfl
    · exact absurd hc (hx c)
  rcases h with h | h
  · exact stuck h ha
  · exact (stuck h hb).symm

theorem Comparable.step {α : Type} {r : α → α → Prop} {a a' b : α} (h : Comparable r a b)
    (ha : r a a') (huniq : ∀ c, r a c → c = a') : Comparable r a' b := by
  rcases h with h | h
  · rcases ReflTransGen.cases_head h with rfl | ⟨c, hc, hcb⟩
    · exact .inr (.single ha)
    · exact .inl (huniq c hc ▸ hcb)
  · exact .inr (h.tail ha)

theorem not_linkStep (h : NotNext k.symbol m) (b : ParseTree × List Char) :
    ¬ LinkStep schema k (t, m) b := by
  rintro ⟨u, r, hsym, -⟩
  exact h u ((padded_cons_iff k.isBlank_symbol).1 hsym)

/-- A chain begins with an operand that is read to its end, and goes on link by link. -/
theorem Derives.exists_linkSteps {n : Nonterminal} (h : Derives schema n s t m)
    (hn : n = .chain k) (hm : k.Closes m) :
    ∃ t₀ m₀, Derives schema k.operand s t₀ m₀ ∧ k.Closes m₀ ∧
      ReflTransGen (LinkStep schema k) (t₀, m₀) (t, m) := by
  induction h with
  | first h _ =>
    cases hn
    exact ⟨_, _, h, hm, .refl⟩
  | link _ hsym hr ih =>
    cases hn
    obtain ⟨t₀, m₀, h₀, hm₀, hsteps⟩ := ih rfl (Chain.closes_of_padded hsym)
    exact ⟨t₀, m₀, h₀, hm₀, hsteps.tail ⟨_, _, hsym, hr, hm, rfl⟩⟩
  | negation | plain | group | comparison => cases hn

/-! ### Unambiguity -/

/-- What a derivation says about every other derivation of the same nonterminal from the same
text. -/
def Determined (schema : Schema) :
    Nonterminal → List Char → ParseTree → List Char → Prop
  | .chain k, s, t, m => k.Closes m → ∀ t' m', Derives schema (.chain k) s t' m' →
      k.Closes m' → Comparable (LinkStep schema k) (t, m) (t', m')
  | k, s, t, m => ∀ t' m', Derives schema k s t' m' → t' = t ∧ m' = m

/-- Chains of one text that their symbol does not follow are the same. -/
theorem Determined.chain_eq (h : Determined schema (.chain k) s t m)
    (h' : Derives schema (.chain k) s t' m') (hm : k.Closes m) (hm' : k.Closes m')
    (hend : NotNext k.symbol m) (hend' : NotNext k.symbol m') : t' = t ∧ m' = m := by
  obtain ⟨ht, hm⟩ := Prod.mk.inj ((h hm t' m' h' hm').eq (not_linkStep hend) (not_linkStep hend'))
  exact ⟨ht.symm, hm.symm⟩

theorem Determined.operand_eq (h : Determined schema k.operand s t m)
    (h' : Derives schema k.operand s t' m') (hm : k.Closes m) (hm' : k.Closes m') :
    t' = t ∧ m' = m := by
  cases k with
  | and => exact h t' m' h'
  | or => exact Determined.chain_eq (k := .and) h h' trivial trivial hm hm'

theorem Derives.notNext_atom (h : Derives schema .atom s t m) : NotNext '!' s := by
  cases h with
  | group hopen _ _ => exact notNext_of_padded hopen (by decide) (by decide)
  | comparison hpad h => exact h.notNext hpad (by decide)

theorem Padded.not_notNext {c : Char} {u : List Char} (h : Padded s (c :: u))
    (hc : isBlank c = false) : ¬ NotNext c s := fun hn => hn u ((padded_cons_iff hc).1 h)

/-- **A derivation determines every other one from the same text**, by induction on it: operands
are the same, and of two chains one prolongs the other. -/
theorem Derives.determined {k : Nonterminal} (h : Derives schema k s t m) :
    Determined schema k s t m := by
  induction h with
  | first h ih =>
    intro hm t' m' h' hm'
    obtain ⟨t₀, m₀, h₀, hm₀, hsteps⟩ := h'.exists_linkSteps rfl hm'
    obtain ⟨rfl, rfl⟩ := ih.operand_eq h₀ hm hm₀
    exact .inl hsteps
  | @link k s m₁ u m l r hl hsym hr ihl ihr =>
    intro hm t' m' h' hm'
    have hchain := ihl (Chain.closes_of_padded hsym) t' m' h' hm'
    refine hchain.step ⟨u, r, hsym, hr, hm, rfl⟩ ?_
    -- the link that follows the chain is the only one
    rintro ⟨t₂, m₂⟩ ⟨u', r', hsym', hr', hm₂, rfl⟩
    obtain rfl := hsym.cons_inj k.isBlank_symbol hsym'
    obtain ⟨rfl, rfl⟩ := ihr.operand_eq hr' hm hm₂
    rfl
  | negation hsym h ih =>
    intro t' m' h'
    cases h' with
    | negation hsym' h' =>
      obtain rfl := hsym.cons_inj (by decide) hsym'
      obtain ⟨rfl, rfl⟩ := ih _ _ h'
      exact ⟨rfl, rfl⟩
    | plain h' => exact absurd h'.notNext_atom (hsym.not_notNext (by decide))
  | plain h ih =>
    intro t' m' h'
    cases h' with
    | negation hsym' _ => exact absurd h.notNext_atom (hsym'.not_notNext (by decide))
    | plain h' => exact ih _ _ h'
  | group hopen h hclose ih =>
    intro t' m' h'
    cases h' with
    | group hopen' h' hclose' =>
      obtain rfl := hopen.cons_inj (by decide) hopen'
      obtain ⟨rfl, rfl⟩ := ih.chain_eq h' (notNext_of_padded hclose (by decide) (by decide))
        (notNext_of_padded hclose' (by decide) (by decide))
        (notNext_of_padded hclose (by decide) (by decide))
        (notNext_of_padded hclose' (by decide) (by decide))
      exact ⟨rfl, hclose.cons_inj (by decide) hclose'⟩
    | comparison hpad' h' =>
      exact absurd (h'.notNext hpad' (by decide)) (hopen.not_notNext (by decide))
  | comparison hpad h =>
    intro t' m' h'
    cases h' with
    | group hopen' _ _ =>
      exact absurd (h.notNext hpad (by decide)) (hopen'.not_notNext (by decide))
    | comparison hpad' h' =>
      obtain rfl := (h.padded_iff.1 hpad).symm.trans (h'.padded_iff.1 hpad')
      obtain ⟨rfl, rfl⟩ := h.unique h'
      exact ⟨rfl, rfl⟩

/-- **The grammar is unambiguous.** -/
theorem Sentence.unique (h : Sentence schema s t) (h' : Sentence schema s t') : t' = t := by
  obtain ⟨m, hd, hm⟩ := h
  obtain ⟨m', hd', hm'⟩ := h'
  exact (hd.determined.chain_eq hd' (notNext_of_isWhiteSpace hm (by decide))
    (notNext_of_isWhiteSpace hm' (by decide)) (notNext_of_isWhiteSpace hm (by decide))
    (notNext_of_isWhiteSpace hm' (by decide))).1

/-- **The accepted filters are the sentences of the grammar** in which no comparison costs more
than 256 levels, and a filter is read as the tree of its sentence, of which there is only one. -/
theorem parseFilter_eq_ok_iff_sentence (schema : Schema) (input : String) :
    (∀ e, parseFilter schema input = .ok e ↔
      ∃ t, Sentence schema input.toList t ∧ (∀ c ∈ t.costs, c ≤ 256) ∧ t.expr = e) ∧
    ∀ t t', Sentence schema input.toList t → Sentence schema input.toList t' → t = t' := by
  refine ⟨fun e => ⟨fun h => ?_, ?_⟩, fun t t' h h' => h'.unique h⟩
  · obtain ⟨t, ht, he, hw⟩ := exists_sentence_of_parseFilter h
    exact ⟨t, ht, hw, he⟩
  · rintro ⟨t, ht, hw, rfl⟩
    exact ht.parseFilter_eq hw

end FleetQuery
