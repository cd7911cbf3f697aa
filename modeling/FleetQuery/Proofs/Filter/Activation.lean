import FleetQuery.Proofs.Filter.Embedding
import FleetQuery.Proofs.Filter.Refusal
import Mathlib.Logic.Function.Iterate

/-!
# Activations of the descent

The descent moment by moment.  A part that calls another one waits for its outcome on a stack.  All
activations share one counter of levels; a chain, a negation and a group remember what it was when
they began.  A negation and a group are opened once they have taken their level: behind a symbol for
which there is none, nothing is called.

* `Moment`, `Moment.next` : what is done, which activations wait, and the counter.  An outcome that
  nobody waits for stays as it is;
* `Runs.reaches` : a run of a part is gone through moment by moment, on top of whatever waits;
* `Moment.Sound.next`, `Moment.Sound.after` : the counter stays within the limit, and **every
  activation that was opened holds a level of it**;
* `Runs.onRest` : what is left of a text that was read is shorter, by induction on the run;
* `exists_returns` : **every part comes to an end on every text, puts the counter back whatever its
  outcome, and never goes beyond the limit meanwhile.**
-/

namespace FleetQuery

namespace Descent

open Outcome

/-! ### Moments -/

/-- An activation that waits for the part that it called. -/
inductive Frame
  /-- A chain waits for its first operand. -/
  | first (k : Chain)
  /-- A chain whose first operands are `left` waits for the next one. -/
  | further (k : Chain) (left : Expr)
  /-- A chain waits for its end, to put the counter back. -/
  | chain (saved : Nat)
  /-- A negation waits for what it negates. -/
  | negation (saved : Nat)
  /-- A group at the front of `start` waits for what it holds. -/
  | group (start : List Char) (saved : Nat)
  deriving DecidableEq, Repr

/-- What is done at a moment. -/
inductive Control
  /-- A part is called on a text. -/
  | call (p : Part) (s : List Char)
  /-- The activation that waits is given an outcome. -/
  | answer (x : Outcome Expr)
  deriving DecidableEq, Repr

/-- A moment of the descent. -/
structure Moment where
  /-- What is done. -/
  control : Control
  /-- The activations that wait, the one that was called last at the front. -/
  waiting : List Frame
  /-- The counter of levels. -/
  counter : Nat
  deriving DecidableEq, Repr

/-- The counter when the activation goes on; those that remember it put it back. -/
def Frame.restore (d : Nat) : Frame → Nat
  | first _ | further _ _ => d
  | chain saved | negation saved | group _ saved => saved

/-- How the activation goes on with the outcome that it waited for. -/
def Frame.resume (schema : Schema) (x : Outcome Expr) : Frame → Control
  | first k =>
    match x with
    | .ok rest e => .call (.links k e) rest
    | x => .answer x
  | further k left =>
    match x.cut with
    | .ok rest e => .call (.links k (k.combine left e)) rest
    | x => .answer x
  | chain _ => .answer x
  | negation _ => .answer (x.cut.map .not)
  | group start _ => .answer ((x.cut.andThen close).orElse (comparison schema start))

/-- Behind the symbol `c`, go down one level to call `p`, for which `f` waits; without the symbol,
go on with `missing`. -/
def descend (c : Char) (s : List Char) (f : Frame) (p : Part) (missing : Control)
    (waiting : List Frame) (d : Nat) : Moment :=
  match symbol c s with
  | .ok rest _ =>
    if nestingLimit < d + 1 then ⟨.answer (.failure (deepFailure rest)), waiting, d⟩
    else ⟨.call p rest, f :: waiting, d + 1⟩
  | .error _ => ⟨missing, waiting, d⟩
  | .failure g => ⟨.answer (.failure g), waiting, d⟩
  | .incomplete => ⟨.answer .incomplete, waiting, d⟩

/-- How a part begins.  What is not negated is handed on to the atom, and nothing waits for it. -/
def Part.start (schema : Schema) (s : List Char) (waiting : List Frame) (d : Nat) : Part → Moment
  | chain k => ⟨.call (.operand k) s, .first k :: .chain d :: waiting, d⟩
  | links k left =>
    descend k.symbol s (.further k left) (.operand k) (.answer (.ok s left)) waiting d
  | not => descend '!' s (.negation d) .not (.call .atom s) waiting d
  | atom => descend '(' s (.group s d) (.chain .or) (.answer (comparison schema s)) waiting d

/-- The next moment. -/
def Moment.next (schema : Schema) : Moment → Moment
  | ⟨.call p s, waiting, d⟩ => p.start schema s waiting d
  | ⟨.answer x, [], d⟩ => ⟨.answer x, [], d⟩
  | ⟨.answer x, f :: waiting, d⟩ => ⟨f.resume schema x, waiting, f.restore d⟩

/-- The moment that is `n` steps later. -/
def Moment.after (schema : Schema) (n : Nat) (m : Moment) : Moment := (Moment.next schema)^[n] m

/-- After some steps the moment is `m'`. -/
def Reaches (schema : Schema) (m m' : Moment) : Prop := ∃ n, m.after schema n = m'

variable {schema : Schema} {s t rest : List Char} {d d' base : Nat} {c c' : Char} {e : Expr}
  {p : Part} {x : Outcome Expr} {f : Frame} {waiting : List Frame} {missing : Control}
  {m m' m'' : Moment}

theorem Reaches.refl (m : Moment) : Reaches schema m m := ⟨0, rfl⟩

theorem Reaches.trans (h : Reaches schema m m') (h' : Reaches schema m' m'') :
    Reaches schema m m'' := by
  obtain ⟨n, rfl⟩ := h
  obtain ⟨n', rfl⟩ := h'
  exact ⟨n' + n, Function.iterate_add_apply _ n' n m⟩

theorem Reaches.head (h : Reaches schema (m.next schema) m') : Reaches schema m m' :=
  Reaches.trans ⟨1, rfl⟩ h

theorem Reaches.call (hstart : p.start schema s waiting d = m) (h : Reaches schema m m') :
    Reaches schema ⟨.call p s, waiting, d⟩ m' := by
  subst hstart
  exact .head h

theorem Reaches.answer {control : Control} (hresume : f.resume schema x = control)
    (h : Reaches schema ⟨control, waiting, f.restore d⟩ m') :
    Reaches schema ⟨.answer x, f :: waiting, d⟩ m' := by
  subst hresume
  exact .head h

/-! ### Going down -/

theorem descend_refused (h : symbol c s = .ok rest c') (hd : nestingLimit < d + 1) :
    descend c s f p missing waiting d =
      ⟨.answer (.failure (deepFailure rest)), waiting, d⟩ := by
  rw [descend, h]
  exact if_pos hd

theorem descend_entered (h : symbol c s = .ok rest c') (hd : d + 1 ≤ nestingLimit) :
    descend c s f p missing waiting d = ⟨.call p rest, f :: waiting, d + 1⟩ := by
  rw [descend, h]
  exact if_neg (Nat.not_lt.2 hd)

theorem descend_missing {g : Failure} (h : symbol c s = .error g) :
    descend c s f p missing waiting d = ⟨missing, waiting, d⟩ := by
  rw [descend, h]

theorem descend_cases (c : Char) (s : List Char) (f : Frame) (p : Part) (missing : Control)
    (waiting : List Frame) (d : Nat) :
    (∃ rest, d + 1 ≤ nestingLimit ∧
      descend c s f p missing waiting d = ⟨.call p rest, f :: waiting, d + 1⟩) ∨
      ∃ control, descend c s f p missing waiting d = ⟨control, waiting, d⟩ := by
  rcases symbol_cases c s with ⟨rest, h⟩ | ⟨g, h⟩
  · rcases Nat.lt_or_ge nestingLimit (d + 1) with hdeep | hlevel
    · exact .inr ⟨_, descend_refused h hdeep⟩
    · exact .inl ⟨rest, hlevel, descend_entered h hlevel⟩
  · exact .inr ⟨_, descend_missing h⟩

/-! ### A run, moment by moment -/

theorem resume_first_of_notRead {k : Chain} (hx : NotRead x) :
    (Frame.first k).resume schema x = .answer x := by
  cases x with
  | ok rest e => exact hx.elim
  | error | failure | incomplete => rfl

theorem resume_further_of_notRead {k : Chain} (hx : NotRead x) :
    (Frame.further k e).resume schema x = .answer x.cut := by
  cases x with
  | ok rest e => exact hx.elim
  | error | failure | incomplete => rfl

/-- **A run of a part is gone through moment by moment, on top of whatever waits**, by induction on
the run. -/
theorem Runs.reaches (h : Runs schema p s d x d') (waiting : List Frame) :
    Reaches schema ⟨.call p s, waiting, d⟩ ⟨.answer x, waiting, d'⟩ := by
  induction h generalizing waiting with
  | noOperand hrun hx ih =>
    exact .call rfl
      ((ih _).trans (.answer (resume_first_of_notRead hx) (.answer rfl (.refl _))))
  | chain hrun hlinks ih ihlinks =>
    exact .call rfl ((ih _).trans (.answer rfl ((ihlinks _).trans (.answer rfl (.refl _)))))
  | lastLink h => exact .call (descend_missing h) (.refl _)
  | deepLink h hdeep | deepNegation h hdeep | deepGroup h hdeep =>
    exact .call (descend_refused h hdeep) (.refl _)
  | noLink h hlevel hrun hx ih =>
    exact .call (descend_entered h hlevel)
      ((ih _).trans (.answer (resume_further_of_notRead hx) (.refl _)))
  | link h hlevel hrun hlinks ih ihlinks =>
    exact .call (descend_entered h hlevel) ((ih _).trans (.answer rfl (ihlinks _)))
  | negation h hlevel hrun ih | group h hlevel hrun ih =>
    exact .call (descend_entered h hlevel) ((ih _).trans (.answer rfl (.refl _)))
  | plain h hrun ih => exact .call (descend_missing h) (ih _)
  | comparison h => exact .call (descend_missing h) (.refl _)

/-! ### The counter meanwhile -/

/-- The activation was opened, by a `!` or by a `(`. -/
def Frame.isOpened : Frame → Bool
  | negation _ | group _ _ => true
  | first _ | further _ _ | chain _ => false

/-- How many of the activations that wait were opened. -/
def opened (waiting : List Frame) : Nat := waiting.countP Frame.isOpened

theorem opened_cons (f : Frame) (waiting : List Frame) :
    opened (f :: waiting) = opened waiting + f.isOpened.toNat := by
  rw [opened, List.countP_cons]
  cases f.isOpened <;> rfl

/-- With the counter at `d`, the activation at the front goes on with no more than that, and with a
level less if it was opened; so do the others with what is put back before them, and the last one
leaves at least `base`. -/
def Held (base : Nat) : List Frame → Nat → Prop
  | [], d => base ≤ d
  | f :: waiting, d => f.restore d + f.isOpened.toNat ≤ d ∧ Held base waiting (f.restore d)

/-- The counter is within the limit, and the activations that wait hold their levels of it. -/
structure Moment.Sound (base : Nat) (m : Moment) : Prop where
  /-- The activations that wait. -/
  held : Held base m.waiting m.counter
  /-- The counter. -/
  le_limit : m.counter ≤ nestingLimit

theorem Frame.restore_mono (f : Frame) (h : d ≤ d') : f.restore d ≤ f.restore d' := by
  cases f with
  | first | further => exact h
  | chain | negation | group => exact le_refl _

theorem Held.mono (h : Held base waiting d) (hd : d ≤ d') : Held base waiting d' := by
  induction waiting generalizing d d' with
  | nil => exact le_trans h hd
  | cons f waiting ih =>
    obtain ⟨hf, hwaiting⟩ := h
    refine ⟨?_, ih hwaiting (f.restore_mono hd)⟩
    cases f with
    | first | further => exact le_refl _
    | chain | negation | group => exact le_trans hf hd

theorem Held.opened_le (h : Held base waiting d) : base + opened waiting ≤ d := by
  induction waiting generalizing d with
  | nil => exact h
  | cons f waiting ih =>
    obtain ⟨hf, hwaiting⟩ := h
    have hbelow := ih hwaiting
    rw [opened_cons]
    omega

theorem Moment.Sound.descend (h : Moment.Sound base ⟨.call p s, waiting, d⟩) {p' : Part}
    (hpush : Held base (f :: waiting) (d + 1)) :
    (descend c s f p' missing waiting d).Sound base := by
  rcases descend_cases c s f p' missing waiting d with ⟨rest, hlevel, hgo⟩ | ⟨control, hgo⟩
  · rw [hgo]
    exact ⟨hpush, hlevel⟩
  · rw [hgo]
    exact ⟨h.held, h.le_limit⟩

theorem Moment.Sound.call (h : Moment.Sound base ⟨.call p s, waiting, d⟩) (schema : Schema) :
    (p.start schema s waiting d).Sound base := by
  cases p with
  | chain k => exact ⟨⟨le_refl _, le_refl _, h.held⟩, h.le_limit⟩
  | links k left =>
    -- the chain puts the level of the link back in the end, so below it there is only more
    exact h.descend ⟨le_refl _, h.held.mono (Nat.le_succ d)⟩
  | not | atom => exact h.descend ⟨le_refl _, h.held⟩

theorem Moment.Sound.answer (h : Moment.Sound base ⟨.answer x, f :: waiting, d⟩)
    (control : Control) : Moment.Sound base ⟨control, waiting, f.restore d⟩ :=
  ⟨h.held.2, le_trans (le_trans (Nat.le_add_right _ _) h.held.1) h.le_limit⟩

/-- **What a moment hands on to the next one**: no counter beyond the limit, and a level for every
activation that was opened. -/
theorem Moment.Sound.next (h : m.Sound base) (schema : Schema) : (m.next schema).Sound base := by
  obtain ⟨control, waiting, d⟩ := m
  cases control with
  | call p s => exact h.call schema
  | answer x =>
    cases waiting with
    | nil => exact h
    | cons f waiting => exact h.answer _

/-- **What holds at one moment holds at every later one**, by induction on the steps between. -/
theorem Moment.Sound.after (h : m.Sound base) (schema : Schema) (n : Nat) :
    (m.after schema n).Sound base := by
  induction n with
  | zero => exact h
  | succ n ih =>
    rw [Moment.after, Function.iterate_succ_apply']
    exact ih.next schema

/-! ### The text -/

/-- `rest` is a shorter end of `s`. -/
def Behind (s rest : List Char) : Prop := rest <:+ s ∧ rest.length < s.length

theorem Behind.of_suffix (h : Behind t rest) (hts : t <:+ s) : Behind s rest :=
  ⟨h.1.trans hts, lt_of_lt_of_le h.2 hts.length_le⟩

theorem Behind.trans_suffix (h : Behind s t) (ht : rest <:+ t) : Behind s rest :=
  ⟨ht.trans h.1, lt_of_le_of_lt ht.length_le h.2⟩

theorem behind_symbol (h : symbol c s = .ok rest c') : Behind s rest := by
  have hskip := symbol_eq_ok h
  have hcons : Behind (c :: rest) rest := ⟨List.suffix_cons c rest, Nat.lt_succ_self _⟩
  exact hcons.of_suffix (hskip ▸ (padded_skipBlanks s).suffix)

/-- The parts that are called by themselves; the links of a chain are read in it only. -/
def functions : List Part := [.chain .or, .chain .and, .not, .atom]

theorem Part.operand_mem (k : Chain) : operand k ∈ functions := by
  cases k <;> decide

/-- What a part leaves of its text is shorter; only the links of a chain may leave all of it. -/
def Part.Shortens : Part → List Char → List Char → Prop
  | links _ _, s, rest => rest <:+ s
  | chain _, s, rest | not, s, rest | atom, s, rest => Behind s rest

theorem Part.behind_of_shortens (hp : p ∈ functions) (h : p.Shortens s rest) : Behind s rest := by
  cases p with
  | links => simp [functions] at hp
  | chain | not | atom => exact h

theorem NotRead.onRest {P : List Char → Prop} (h : NotRead x) : x.OnRest P := by
  cases x with
  | ok rest e => exact h.elim
  | error | failure | incomplete => trivial

theorem onRest_close (e : Expr) (rest : List Char) : (close rest e).OnRest (Behind rest) := by
  unfold close
  rcases symbol_cases ')' rest with ⟨t, h⟩ | ⟨g, h⟩
  · rw [h]
    exact behind_symbol h
  · rw [h]
    obtain ⟨reason, place⟩ := g
    cases reason <;> trivial

/-- A comparison has a field name, so it is not read from nothing. -/
theorem onRest_comparison (schema : Schema) (s : List Char) :
    (comparison schema s).OnRest (Behind s) := by
  have htells := tells_comparison schema s
  cases h : comparison schema s with
  | error | failure | incomplete => trivial
  | ok rest e =>
    rw [h] at htells
    change FleetQuery.comparison schema (skipBlanks s) = .ok (e, rest) at htells
    have hsuffix : rest <:+ skipBlanks s := by
      have := stays_comparison schema (skipBlanks s)
      rwa [htells] at this
    obtain ⟨comparison, m, -, hread, hm⟩ := isComparison_of_comparison htells
    obtain ⟨front, y, hvisible, -⟩ := hread.visible
    refine Behind.of_suffix ⟨hsuffix, lt_of_le_of_ne hsuffix.length_le fun hlength => ?_⟩
      (padded_skipBlanks s).suffix
    -- if nothing was taken, the whole text would have to stand behind the last token
    obtain rfl := hsuffix.eq_of_length hlength
    rw [skipBlanks_skipBlanks] at hm
    have hle := (padded_skipBlanks m).suffix.length_le
    have hlt := congrArg List.length hvisible
    rw [List.length_append, List.length_cons, ← hm] at hlt
    omega

/-- **What is left of a text that was read is shorter**, by induction on the run. -/
theorem Runs.onRest (h : Runs schema p s d x d') : x.OnRest (p.Shortens s) := by
  induction h with
  | noOperand hrun hx => exact hx.onRest
  | chain hrun hlinks ih ihlinks =>
    exact ihlinks.imp fun _ => (Part.behind_of_shortens (Part.operand_mem _) ih).trans_suffix
  | lastLink => exact List.suffix_refl _
  | deepLink | deepNegation | deepGroup => trivial
  | noLink h hlevel hrun hx => exact hx.cut.onRest
  | link h hlevel hrun hlinks ih ihlinks =>
    -- the symbol was taken, and the operand after it
    have htaken := (Part.behind_of_shortens (Part.operand_mem _) ih).of_suffix (behind_symbol h).1
    exact ihlinks.imp fun _ hrest => hrest.trans htaken.1
  | negation h hlevel hrun ih =>
    exact ih.cut.andThen fun _ _ hrest => Behind.of_suffix hrest (behind_symbol h).1
  | plain h hrun ih => exact ih
  | group h hlevel hrun ih =>
    rw [((final_cut _).andThen final_close).orElse_eq]
    exact ih.cut.andThen fun rest e hrest =>
      (onRest_close e rest).imp fun _ hclose =>
        (hrest.trans_suffix hclose.1).of_suffix (behind_symbol h).1
  | comparison => exact onRest_comparison _ _

/-! ### Every part comes to an end -/

/-- A part that is called by itself puts the counter back. -/
theorem Runs.counter_eq (h : Runs schema p s d x d') (hp : p ∈ functions) : d' = d := by
  cases h with
  | noOperand | chain | deepNegation | negation | deepGroup | group | comparison => rfl
  | plain _ hatom => cases hatom <;> rfl
  | lastLink | deepLink | noLink | link => simp [functions] at hp

/-- The part, called on `s` with the counter at `d`, ends with the outcome `x`. -/
structure Returns (schema : Schema) (p : Part) (s : List Char) (d : Nat) (x : Outcome Expr) :
    Prop where
  /-- Whatever waits is given the outcome and finds the counter as it was, so what is read next is
  not charged for the part. -/
  ends : ∀ waiting, Reaches schema ⟨.call p s, waiting, d⟩ ⟨.answer x, waiting, d⟩
  /-- The outcome tells what the reader with the free levels says; the reader of atoms would read a
  negation too. -/
  tells : (p = .atom → NotNext '!' s) → x.Tells (p.read schema (nestingLimit - d) s)
  /-- What is left of a text that was read is a shorter end of it. -/
  behind : ∀ rest e, x = .ok rest e → rest <:+ s ∧ rest.length < s.length
  /-- At every moment the counter is within the limit, and above `d` by at least a level for every
  activation that was opened. -/
  meanwhile : ∀ n, let now := Moment.after schema n ⟨.call p s, [], d⟩
    d + opened now.waiting ≤ now.counter ∧ now.counter ≤ nestingLimit

theorem Runs.returns (h : Runs schema p s d x d') (hp : p ∈ functions) (hd : d ≤ nestingLimit) :
    Returns schema p s d x where
  ends waiting := by
    obtain rfl := h.counter_eq hp
    exact h.reaches waiting
  tells hatom := (h.tells hd hatom).1
  behind rest e hx := by
    have hrest := h.onRest
    rw [hx] at hrest
    exact Part.behind_of_shortens hp hrest
  meanwhile n := by
    have hsound : Moment.Sound d ⟨.call p s, [], d⟩ := ⟨le_refl d, hd⟩
    have hnow := hsound.after schema n
    exact ⟨hnow.held.opened_le, hnow.le_limit⟩

/-- **Every part comes to an end on every text, puts the counter back whatever its outcome, and
never goes beyond the limit meanwhile.**  A whole filter is read so from zero, with the result of
`parseFilter`. -/
theorem exists_returns (schema : Schema) (hd : d ≤ nestingLimit) :
    (∀ p ∈ functions, ∀ s, ∃ x, Returns schema p s d x) ∧
      ∀ input, ∃ x, Returns schema (.chain .or) input.toList 0 x ∧
        x.finish input = parseFilter schema input := by
  constructor
  · intro p hp s
    obtain ⟨x, d', hrun⟩ := exists_runs schema hd p s
    exact ⟨x, hrun.returns hp hd⟩
  · intro input
    obtain ⟨x, d', hrun⟩ := exists_descends schema input
    exact ⟨x, hrun.returns (by decide) (Nat.zero_le _), Descends.finish_eq ⟨d', hrun⟩⟩

/-- A negated group takes the last two levels and puts them back. -/
theorem exists_returns_lastLevels :
    let s := "!(running) & paused".toList
    let x : Outcome Expr := .ok " & paused".toList (.not (.leaf ⟨.named "running", .is, ""⟩))
    let inside := Moment.after Container.schema 6 ⟨.call .not s, [], 254⟩
    254 ≤ nestingLimit ∧ Part.not ∈ functions ∧ Returns Container.schema .not s 254 x ∧
      opened inside.waiting = 2 ∧ inside.counter = nestingLimit := by
  intro s _ _
  have hlimit : 254 ≤ nestingLimit := by decide
  have hmem : Part.not ∈ functions := by decide
  refine ⟨hlimit, hmem, ?_, by decide +kernel, by decide +kernel⟩
  obtain ⟨x, hx⟩ := (exists_returns Container.schema hlimit).1 .not hmem s
  have htells := hx.tells Part.noConfusion
  have hread : Part.not.read Container.schema (nestingLimit - 254) s =
      .ok (.not (.leaf ⟨.named "running", .is, ""⟩), " & paused".toList) := rfl
  rw [hread] at htells
  rwa [htells.eq_ok] at hx

end Descent

end FleetQuery
