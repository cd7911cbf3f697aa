import FleetQuery.Proofs.Filter.Combinator

/-!
# Recursive descent with a level counter

The grammar of filters, read by combinators with one counter of levels for the whole descent.  Going
down raises the counter; every chain, negation and group puts it back when it ends, however it ends.
A run is a relation between a part of the descent, its text, the counter before it, its outcome and
the counter after it:

* `Runs` : the runs, one rule for each way through the descent;
* `Runs.tells` : **a run tells what the reader with the free levels says, and puts the counter
  back**;
* `exists_runs` : **every part runs on every text**, by induction on the levels above the counter;
* `Descends.finish_eq` : **what is made of a run on a whole filter is what `parseFilter` says**, and
  no failure without a name is left to be reported.
-/

namespace FleetQuery

namespace Descent

variable {schema : Schema} {s rest : List Char} {d d' : Nat} {e : Expr}

open Outcome

/-! ### Parts and their runs -/

/-- The parts of the descent. -/
inductive Part
  /-- A whole chain. -/
  | chain (k : Chain)
  /-- The further operands of a chain whose first operands are `left`. -/
  | links (k : Chain) (left : Expr)
  /-- A negation, or what may be negated. -/
  | not
  /-- A group or a comparison. -/
  | atom
  deriving DecidableEq, Repr

/-- The operands of a chain. -/
def Part.operand : Chain → Part
  | .and => .not
  | .or => .chain .and

/-- Nothing was read. -/
def NotRead : Outcome Expr → Prop
  | .ok _ _ => False
  | _ => True

/-- There is no level left. -/
def deepFailure (rest : List Char) : Failure := ⟨.found (.malformed .nestedTooDeeply), rest⟩

/-- The end of a group. -/
def close (rest : List Char) (e : Expr) : Outcome Expr :=
  ((symbol ')' rest).named .expectedClose).cut.map fun _ => e

/-- `Runs schema p s d x d'` : on the text `s`, with the counter at `d`, the part `p` ends with the
outcome `x` and the counter at `d'`. -/
inductive Runs (schema : Schema) : Part → List Char → Nat → Outcome Expr → Nat → Prop
  /-- A chain whose first operand was not read. -/
  | noOperand {k s d x d₁} : Runs schema (.operand k) s d x d₁ → NotRead x →
      Runs schema (.chain k) s d x d
  /-- A chain puts the counter back, whatever its links do. -/
  | chain {k s d rest e d₁ x d₂} : Runs schema (.operand k) s d (.ok rest e) d₁ →
      Runs schema (.links k e) rest d₁ x d₂ → Runs schema (.chain k) s d x d
  /-- The chain ends where its symbol is missing. -/
  | lastLink {k e s d f} : symbol k.symbol s = .error f → Runs schema (.links k e) s d (.ok s e) d
  /-- A link that lies too deep. -/
  | deepLink {k e s d rest c} : symbol k.symbol s = .ok rest c → nestingLimit < d + 1 →
      Runs schema (.links k e) s d (.failure (deepFailure rest)) d
  /-- Behind its symbol an operand may not be missing. -/
  | noLink {k e s d rest c x d₁} : symbol k.symbol s = .ok rest c → d + 1 ≤ nestingLimit →
      Runs schema (.operand k) rest (d + 1) x d₁ → NotRead x →
      Runs schema (.links k e) s d x.cut d₁
  /-- A link goes down one level, and stays there for the links behind it. -/
  | link {k e s d rest c rest' e' d₁ x d₂} : symbol k.symbol s = .ok rest c → d + 1 ≤ nestingLimit →
      Runs schema (.operand k) rest (d + 1) (.ok rest' e') d₁ →
      Runs schema (.links k (k.combine e e')) rest' d₁ x d₂ → Runs schema (.links k e) s d x d₂
  /-- A negation that lies too deep. -/
  | deepNegation {s d rest c} : symbol '!' s = .ok rest c → nestingLimit < d + 1 →
      Runs schema .not s d (.failure (deepFailure rest)) d
  /-- A negation puts the counter back. -/
  | negation {s d rest c x d₁} : symbol '!' s = .ok rest c → d + 1 ≤ nestingLimit →
      Runs schema .not rest (d + 1) x d₁ → Runs schema .not s d (x.cut.map .not) d
  /-- What is not negated. -/
  | plain {s d f x d₁} : symbol '!' s = .error f → Runs schema .atom s d x d₁ →
      Runs schema .not s d x d₁
  /-- A group that lies too deep. -/
  | deepGroup {s d rest c} : symbol '(' s = .ok rest c → nestingLimit < d + 1 →
      Runs schema .atom s d (.orElse (.failure (deepFailure rest)) (comparison schema s)) d
  /-- A group puts the counter back; if it could be left, a comparison would be tried. -/
  | group {s d rest c x d₁} : symbol '(' s = .ok rest c → d + 1 ≤ nestingLimit →
      Runs schema (.chain .or) rest (d + 1) x d₁ →
      Runs schema .atom s d ((x.cut.andThen close).orElse (comparison schema s)) d
  /-- Without a parenthesis there is no group, and a comparison is tried. -/
  | comparison {s d f} : symbol '(' s = .error f →
      Runs schema .atom s d (comparison schema s) d

/-! ### The readers of the parts -/

/-- The reader of a part, with a number of free levels. -/
def Part.read (schema : Schema) : Part → Nat → List Char → Parsed
  | chain k, n, s => parseChain schema k n s
  | links k e, n, s => parseLinks schema k n e s
  | not, n, s => parseNot schema n s
  | atom, n, s => parseNot schema n s

theorem symbol_eq_ok {c c' : Char} (h : symbol c s = .ok rest c') : skipBlanks s = c :: rest := by
  unfold symbol char at h
  split at h
  · cases h
  · rename_i x t hs
    split_ifs at h with hx
    obtain ⟨rfl, -⟩ := Outcome.ok.inj h
    rw [hs, hx]

theorem symbol_eq_error {c : Char} {f : Failure} (h : symbol c s = .error f) : NotNext c s := by
  rintro u hu
  rw [symbol, hu, char_self] at h
  cases h

theorem symbol_of_next {c : Char} (h : skipBlanks s = c :: rest) : symbol c s = .ok rest c := by
  rw [symbol, h, char_self]

theorem symbol_of_notNext {c : Char} (h : NotNext c s) :
    symbol c s = .error ⟨.primitive .char, skipBlanks s⟩ := by
  refine char_of_head? fun x hx hxc => ?_
  obtain ⟨u, hu⟩ := List.head?_eq_some_iff.1 hx
  exact h u (hxc ▸ hu)

theorem read_operand (k : Chain) (n : Nat) (s : List Char) :
    (Part.operand k).read schema n s = parseOperand schema k n s := by
  cases k <;> rfl

theorem read_chain (k : Chain) (n : Nat) (s : List Char) :
    (Part.chain k).read schema n s =
      (Part.operand k).read schema n s >>= fun r => (Part.links k r.1).read schema n r.2 := by
  rw [read_operand]
  rfl

theorem read_link {k : Chain} {n : Nat} (h : skipBlanks s = k.symbol :: rest) :
    (Part.links k e).read schema (n + 1) s =
      (Part.operand k).read schema n rest >>= fun r =>
        (Part.links k (k.combine e r.1)).read schema n r.2 := by
  rw [read_operand]
  exact parseLinks_link h

/-! ### What a run tells -/

/-- The counter is put back, except behind the links of a chain, which the chain puts back. -/
def Part.Leaves : Part → Nat → Nat → Prop
  | links _ _, d, d' => d ≤ d' ∧ d' ≤ nestingLimit
  | chain _, d, d' | not, d, d' | atom, d, d' => d' = d

theorem Part.eq_of_leaves {k : Chain} (h : (operand k).Leaves d d') : d' = d := by
  cases k <;> exact h

theorem Part.operand_ne_atom (k : Chain) : operand k ≠ .atom := by
  cases k <;> exact Part.noConfusion

theorem tells_bind_of_notRead {x : Outcome Expr} {y : Parsed} {f : Expr × List Char → Parsed}
    (h : x.Tells y) (hx : NotRead x) : x.Tells (y >>= f) := by
  cases x with
  | ok rest e => exact hx.elim
  | error g | failure g =>
    obtain ⟨hnamed, rfl⟩ := h
    exact ⟨hnamed, rfl⟩
  | incomplete => exact h

theorem NotRead.cut {x : Outcome Expr} (h : NotRead x) : NotRead x.cut := by
  cases x <;> exact h

theorem tells_close (rest : List Char) (e : Expr) : (close rest e).Tells (closeGroup e rest) := by
  unfold close closeGroup
  split
  · rename_i t ht
    rw [symbol_of_next ht]
    rfl
  · rename_i ht
    rw [symbol_of_notNext ht]
    exact ⟨named_expected _ _, rfl⟩

theorem tells_deepFailure (rest : List Char) :
    (.failure (deepFailure rest) : Outcome Expr).Tells (tooDeep rest) :=
  ⟨named_found _ _, rfl⟩

theorem final_close (rest : List Char) (e : Expr) : (close rest e).Final := by
  refine (final_cut _).andThen fun _ _ f h => ?_
  cases h

/-- **A run tells what the reader with the free levels says, and puts the counter back**, by
induction on the run. -/
theorem Runs.tells {p : Part} {x : Outcome Expr} (h : Runs schema p s d x d')
    (hd : d ≤ nestingLimit) (hatom : p = .atom → NotNext '!' s) :
    x.Tells (p.read schema (nestingLimit - d) s) ∧ p.Leaves d d' := by
  -- a level of the counter is a free level of the reader
  have hfree : ∀ {d : Nat}, d + 1 ≤ nestingLimit →
      nestingLimit - d = nestingLimit - (d + 1) + 1 := by
    intro d hd
    omega
  have hnone : ∀ {d : Nat}, nestingLimit < d + 1 → nestingLimit - d = 0 := by
    intro d hd
    omega
  induction h with
  | noOperand hrun hx ih =>
    obtain ⟨htells, -⟩ := ih hd fun h => absurd h (Part.operand_ne_atom _)
    rw [read_chain]
    exact ⟨tells_bind_of_notRead htells hx, rfl⟩
  | chain hrun hlinks ih ihlinks =>
    obtain ⟨hread, hleaves⟩ := ih hd fun h => absurd h (Part.operand_ne_atom _)
    obtain rfl := Part.eq_of_leaves hleaves
    obtain ⟨htells, -⟩ := ihlinks hd Part.noConfusion
    rw [read_chain, hread]
    exact ⟨htells, rfl⟩
  | lastLink h =>
    rw [Part.read, parseLinks_stop (symbol_eq_error h)]
    exact ⟨rfl, le_refl _, hd⟩
  | deepLink h hdeep =>
    rw [hnone hdeep, Part.read, parseLinks_tooDeep (symbol_eq_ok h)]
    exact ⟨tells_deepFailure _, le_refl _, hd⟩
  | noLink h hlevel hrun hx ih =>
    obtain ⟨htells, hleaves⟩ := ih hlevel fun h => absurd h (Part.operand_ne_atom _)
    obtain rfl := Part.eq_of_leaves hleaves
    rw [hfree hlevel, read_link (symbol_eq_ok h)]
    exact ⟨tells_bind_of_notRead htells.cut hx.cut, Nat.le_succ _, hlevel⟩
  | link h hlevel hrun hlinks ih ihlinks =>
    obtain ⟨hread, hleaves⟩ := ih hlevel fun h => absurd h (Part.operand_ne_atom _)
    obtain rfl := Part.eq_of_leaves hleaves
    obtain ⟨htells, hle, hlimit⟩ := ihlinks hlevel Part.noConfusion
    rw [hfree hlevel, read_link (symbol_eq_ok h), hread]
    exact ⟨htells, Nat.le_of_succ_le hle, hlimit⟩
  | deepNegation h hdeep =>
    rw [hnone hdeep, Part.read, parseNot, symbol_eq_ok h]
    exact ⟨tells_deepFailure _, rfl⟩
  | negation h hlevel hrun ih =>
    obtain ⟨htells, -⟩ := ih hlevel Part.noConfusion
    rw [hfree hlevel, Part.read, parseNot_negation (symbol_eq_ok h)]
    exact ⟨htells.cut.andThen fun _ _ => rfl, rfl⟩
  | plain h hrun ih => exact ih hd fun _ => symbol_eq_error h
  | deepGroup h hdeep =>
    rw [hnone hdeep, Part.read, parseNot, symbol_eq_ok h]
    exact ⟨tells_deepFailure _, rfl⟩
  | group h hlevel hrun ih =>
    obtain ⟨htells, -⟩ := ih hlevel Part.noConfusion
    rw [hfree hlevel, Part.read, parseNot_group (symbol_eq_ok h),
      ((final_cut _).andThen final_close).orElse_eq]
    exact ⟨htells.cut.andThen tells_close, rfl⟩
  | comparison h =>
    rw [Part.read, parseNot_comparison (hatom rfl) (symbol_eq_error h)]
    exact ⟨tells_comparison schema _, rfl⟩

/-! ### Every part runs -/

theorem notRead_or_ok (x : Outcome Expr) : NotRead x ∨ ∃ rest e, x = .ok rest e := by
  cases x with
  | ok rest e => exact .inr ⟨rest, e, rfl⟩
  | error | failure | incomplete => exact .inl trivial

theorem symbol_cases (c : Char) (s : List Char) : (∃ rest, symbol c s = .ok rest c) ∨
    ∃ f, symbol c s = .error f := by
  by_cases h : ∃ rest, skipBlanks s = c :: rest
  · obtain ⟨rest, hrest⟩ := h
    exact .inl ⟨rest, symbol_of_next hrest⟩
  · exact .inr ⟨_, symbol_of_notNext (not_exists.1 h)⟩

/-- With the counter at `d`, every part runs on every text. -/
def AllRun (schema : Schema) (d : Nat) : Prop :=
  ∀ p s, ∃ x d', Runs schema p s d x d'

theorem exists_runs_atom (ih : d + 1 ≤ nestingLimit → AllRun schema (d + 1)) (s : List Char) :
    ∃ x d', Runs schema .atom s d x d' := by
  rcases symbol_cases '(' s with ⟨rest, hnext⟩ | ⟨f, hnext⟩
  · rcases Nat.lt_or_ge nestingLimit (d + 1) with hdeep | hlevel
    · exact ⟨_, _, .deepGroup hnext hdeep⟩
    · obtain ⟨x, d', hrun⟩ := ih hlevel (.chain .or) rest
      exact ⟨_, _, .group hnext hlevel hrun⟩
  · exact ⟨_, _, .comparison hnext⟩

theorem exists_runs_not (ih : d + 1 ≤ nestingLimit → AllRun schema (d + 1)) (s : List Char) :
    ∃ x d', Runs schema .not s d x d' := by
  rcases symbol_cases '!' s with ⟨rest, hnext⟩ | ⟨f, hnext⟩
  · rcases Nat.lt_or_ge nestingLimit (d + 1) with hdeep | hlevel
    · exact ⟨_, _, .deepNegation hnext hdeep⟩
    · obtain ⟨x, d', hrun⟩ := ih hlevel .not rest
      exact ⟨_, _, .negation hnext hlevel hrun⟩
  · obtain ⟨x, d', hrun⟩ := exists_runs_atom ih s
    exact ⟨_, _, .plain hnext hrun⟩

theorem exists_runs_links (ih : d + 1 ≤ nestingLimit → AllRun schema (d + 1)) (k : Chain) (e : Expr)
    (s : List Char) : ∃ x d', Runs schema (.links k e) s d x d' := by
  rcases symbol_cases k.symbol s with ⟨rest, hnext⟩ | ⟨f, hnext⟩
  · rcases Nat.lt_or_ge nestingLimit (d + 1) with hdeep | hlevel
    · exact ⟨_, _, .deepLink hnext hdeep⟩
    · obtain ⟨x, d₁, hrun⟩ := ih hlevel (.operand k) rest
      rcases notRead_or_ok x with hx | ⟨rest', e', rfl⟩
      · exact ⟨_, _, .noLink hnext hlevel hrun hx⟩
      · -- the operand has put the counter back, so the induction hypothesis is about its level
        obtain ⟨-, hleaves⟩ := hrun.tells hlevel fun h => absurd h (Part.operand_ne_atom k)
        obtain rfl := Part.eq_of_leaves hleaves
        obtain ⟨y, d₂, hlinks⟩ := ih hlevel (.links k (k.combine e e')) rest'
        exact ⟨_, _, .link hnext hlevel hrun hlinks⟩
  · exact ⟨_, _, .lastLink hnext⟩

theorem exists_runs_chain (hd : d ≤ nestingLimit) {k : Chain}
    (hoperand : ∃ x d', Runs schema (.operand k) s d x d')
    (hlinks : ∀ e rest, ∃ x d', Runs schema (.links k e) rest d x d') :
    ∃ x d', Runs schema (.chain k) s d x d' := by
  obtain ⟨x, d₁, hrun⟩ := hoperand
  rcases notRead_or_ok x with hx | ⟨rest, e, rfl⟩
  · exact ⟨_, _, .noOperand hrun hx⟩
  · obtain ⟨-, hleaves⟩ := hrun.tells hd fun h => absurd h (Part.operand_ne_atom k)
    obtain rfl := Part.eq_of_leaves hleaves
    obtain ⟨y, d₂, hrest⟩ := hlinks e rest
    exact ⟨_, _, .chain hrun hrest⟩

theorem allRun_step (hd : d ≤ nestingLimit) (ih : d + 1 ≤ nestingLimit → AllRun schema (d + 1)) :
    AllRun schema d := by
  have hand : ∀ s, ∃ x d', Runs schema (.chain .and) s d x d' := fun s =>
    exists_runs_chain hd (exists_runs_not ih s) (exists_runs_links ih .and)
  intro p s
  cases p with
  | chain k =>
    cases k with
    | and => exact hand s
    | or => exact exists_runs_chain hd (hand s) (exists_runs_links ih .or)
  | links k e => exact exists_runs_links ih k e s
  | not => exact exists_runs_not ih s
  | atom => exact exists_runs_atom ih s

/-- **Every part runs on every text**, by induction on the levels above the counter. -/
theorem exists_runs (schema : Schema) (hd : d ≤ nestingLimit) : AllRun schema d := by
  induction h : nestingLimit - d generalizing d with
  | zero => exact allRun_step hd fun hlevel => by omega
  | succ n ih => exact allRun_step hd fun hlevel => ih hlevel (by omega)

/-! ### Whole filters -/

/-- A whole filter is read with the outcome `x`; the counter begins at zero. -/
def Descends (schema : Schema) (input : String) (x : Outcome Expr) : Prop :=
  ∃ d, Runs schema (.chain .or) input.toList 0 x d

/-- What is made of an outcome: white space may follow the expression, and a fault is placed where
the text that was left begins. -/
def Outcome.finish (input : String) : Outcome Expr → Except FilterError Expr
  | .ok rest e =>
    match trimLeft rest with
    | [] => .ok e
    | c :: rest => .error (.before (.malformed (.unexpected c)) (c :: rest) input)
  | .error f | .failure f => .error (.before f.reason.fault f.rest input)
  | .incomplete => .error (.before (.malformed (.stated "incomplete expression")) [] input)

/-- Nothing is left to be reported that has no name: neither a primitive reader alone nor a lack of
text. -/
def Outcome.Told (x : Outcome Expr) : Prop :=
  x ≠ .incomplete ∧ ∀ f, x = .error f ∨ x = .failure f → f.Named

theorem Descends.tells {input : String} {x : Outcome Expr} (h : Descends schema input x) :
    x.Tells (parseChain schema .or nestingLimit input.toList) := by
  obtain ⟨d, hrun⟩ := h
  exact (hrun.tells (Nat.zero_le _) Part.noConfusion).1

/-- **What is made of a run on a whole filter is what `parseFilter` says.** -/
theorem Descends.finish_eq {input : String} {x : Outcome Expr} (h : Descends schema input x) :
    x.finish input = parseFilter schema input := by
  have htells := h.tells
  unfold parseFilter
  cases x with
  | ok rest e =>
    rw [show parseChain schema .or nestingLimit input.toList = .ok (e, rest) from htells]
    rfl
  | error f | failure f =>
    rw [htells.2]
    rfl
  | incomplete => exact htells.elim

theorem Descends.told {input : String} {x : Outcome Expr} (h : Descends schema input x) :
    x.Told := by
  have htells := h.tells
  refine ⟨?_, fun f hf => ?_⟩
  · rintro rfl
    exact htells
  · rcases hf with rfl | rfl
    · exact htells.1
    · exact htells.1

/-- Every text is read with some outcome. -/
theorem exists_descends (schema : Schema) (input : String) : ∃ x, Descends schema input x := by
  obtain ⟨x, d, hrun⟩ := exists_runs schema (Nat.zero_le nestingLimit) (.chain .or) input.toList
  exact ⟨x, d, hrun⟩

end Descent

end FleetQuery
