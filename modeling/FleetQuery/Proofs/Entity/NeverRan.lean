import FleetQuery.Proofs.Entity.Fields
import FleetQuery.Proofs.Match.Threshold

/-!
# Containers that never ran

A container that never ran has the exit code -1 and no time at which it finished.  Nothing is to
be learnt from such values, and a filter that only asks for them does not match:

* `Expr.Positive` : the expressions without negations;
* `Expr.Positive.evaluate` : such an expression has the answer of one of its comparisons;
* `Live.IsBlank` : the live values that no pattern matches: a plain no, and the age of a time that
  is not set or is still to come, as no duration is negative;
* `Clock.Ahead` : a time that is not set, or in year 1 or before, or later than whatever the clock
  gives;
* `Matcher.unmatched_of_neverRan` : **filters without negations that only ask for the exit code and
  the times of a container that never ran, or for the time of an image that was never created, do
  not match**: the answer is no, or a pattern is at fault.
-/

namespace FleetQuery

open Answering

variable {S D ι κ σ : Type}

/-! ### Expressions without negations -/

namespace Expr

/-- There are no negations in the expression. -/
def Positive : Expr → Prop
  | and l r | or l r => l.Positive ∧ r.Positive
  | not _ => False
  | leaf _ => True

theorem positive_junction {stop : Bool} {l r : Expr} :
    (junction stop l r).Positive ↔ l.Positive ∧ r.Positive := by
  cases stop <;> exact Iff.rfl

/-- **Without negations, an expression has the answer of one of its comparisons**, so what is known
of their answers is known of its answer, as long as the comparisons preserve what is known of the
state. -/
theorem Positive.evaluate {ask : Comparison → Answering σ Bool} {I : σ → Prop}
    {P : Except QueryError Bool → Prop} {e : Expr} (he : e.Positive)
    (hask : ∀ c ∈ e.leaves, ∀ s, I s → P ((ask c).runFrom s).1 ∧ I ((ask c).runFrom s).2)
    {s : σ} (hs : I s) :
    P ((e.evaluate ask).runFrom s).1 ∧ I ((e.evaluate ask).runFrom s).2 := by
  induction e using induction_junction generalizing s with
  | leaf c => exact hask c List.mem_cons_self s hs
  | not e => exact he.elim
  | junction stop l r ihl ihr =>
    rw [leaves_combine, List.forall_mem_append] at hask
    obtain ⟨hl, hr⟩ := positive_junction.mp he
    have hleft := ihl hl hask.1 hs
    rw [runFrom_evaluate_junction]
    revert hleft
    rcases (l.evaluate ask).runFrom s with ⟨err | b, s'⟩ <;> intro hleft
    · exact hleft
    · by_cases hb : b = stop
      · simpa only [hb, if_true] using hleft
      · simpa only [hb, if_false] using ihr hr hask.2 hleft.2

end Expr

/-! ### Blank values -/

/-- An answer that is no match. -/
inductive Unmatched : Except QueryError Bool → Prop
  /-- The answer is no. -/
  | no : Unmatched (.ok false)
  /-- A pattern is at fault. -/
  | fault {err : QueryError} : err.isPatternError = true → Unmatched (.error err)

namespace Live

/-- No pattern matches the live value at the instant `now`. -/
def IsBlank (now : Instant) : Live → Prop
  | flag answer => answer = false
  | age since? => ∀ t ∈ since?, now.since t < 0
  | text _ | integer _ | size _ | texts _ | label _ => False

theorem IsBlank.not_matched {now : Instant} {live : Live} {op : Operator} (h : live.IsBlank now)
    (hop : op ∈ live.operators) (pattern : String) : live.compare now op pattern ≠ .ok true := by
  intro hmatch
  cases live with
  | flag answer =>
    obtain rfl : answer = false := h
    cases hmatch
  | age since? =>
    -- the pattern is a duration, so it stands for no negative number
    obtain ⟨n, hn⟩ := exists_standsFor_of_compare hmatch trivial
    have hnatural : 0 ≤ n := by
      obtain ⟨milliseconds, -, -, rfl⟩ := hn
      omega
    have hage : ∃ t ∈ since?, n ≤ now.since t := by
      simp only [operators, List.mem_cons, List.not_mem_nil, or_false] at hop
      rcases hop with rfl | rfl
      · obtain ⟨t, ht, hage⟩ := Option.map_eq_some_iff.mp (hn.eq_iff.mp hmatch)
        exact ⟨t, ht, hage.ge⟩
      · obtain ⟨_, hquantity, hlt⟩ := hn.gt_iff.mp hmatch
        obtain ⟨t, ht, rfl⟩ := Option.map_eq_some_iff.mp hquantity
        exact ⟨t, ht, hlt.le⟩
    obtain ⟨t, ht, hle⟩ := hage
    have hahead := h t ht
    omega
  | text _ | integer _ | size _ | texts _ | label _ => exact h.elim

/-- **No pattern matches a blank value.** -/
theorem IsBlank.unmatched {now : Instant} {live : Live} {op : Operator} (h : live.IsBlank now)
    (hop : op ∈ live.operators) (pattern : String) : Unmatched (live.compare now op pattern) := by
  cases hanswer : live.compare now op pattern with
  | error err => exact .fault (isPatternError_of_compare hop hanswer)
  | ok answer =>
    cases answer with
    | false => exact .no
    | true => exact absurd hanswer (h.not_matched hop pattern)

end Live

/-! ### Times that are ahead -/

namespace Clock

/-- The instants that the clock gives from a state on. -/
inductive Gives (clock : Clock κ) : κ → Instant → Prop
  /-- The instant that it gives now. -/
  | now {k : κ} : Gives clock k (clock k).1
  /-- Those that it gives afterwards. -/
  | later {k : κ} {t : Instant} : Gives clock (clock k).2 t → Gives clock k t

/-- The time is not set, or it is in year 1 or before, or it is later than whatever the clock gives,
leap seconds apart. -/
def Ahead (clock : Clock κ) (k : κ) (t? : Option Instant) : Prop :=
  ∀ t ∈ t?, t.date.year ≤ 1 ∨
    t.isLeap = false ∧ ∀ now, clock.Gives k now → now.isLeap = false ∧ now < t

variable {clock : Clock κ} {k : κ} {now : Instant} {t? : Option Instant}

theorem Ahead.isBlank (h : clock.Ahead k t?) (hnow : clock.Gives k now) :
    (Live.age (Instant.nonZero? t?)).IsBlank now := by
  intro t ht
  obtain ⟨ht, hyear⟩ := Option.filter_eq_some_iff.mp ht
  rcases h t ht with hzero | ⟨hleap, hahead⟩
  · exact absurd hzero (by simpa using hyear)
  · obtain ⟨hleap', hlt⟩ := hahead now hnow
    have hticks := (Instant.ticks_lt_iff hleap' hleap).mpr hlt
    rw [Instant.since_eq hleap hleap']
    omega

end Clock

/-! ### Blank fields -/

/-- The value of the field is in the details, and it is blank there. -/
def View.IsBlank (view : View S D) (now : Instant) (d : D) (field : Field) : Prop :=
  ∃ live, view.reading? field = some (.details live) ∧ (live d).IsBlank now

/-- **Accepted filters without negations do not match blank fields.** -/
theorem View.Honest.unmatched_of_isBlank {view : View S D} (hview : view.Honest) {input : String}
    {e : Expr} (he : parseFilter view.schema input = .ok e) (hpositive : e.Positive)
    {inspect : String → Inspecting ι D} {clock : Clock κ} {k : κ} {x : Entity S D} {i : ι} {d : D}
    (hd : x.record view inspect i = .ok d)
    (hblank : ∀ c ∈ e.leaves, ∀ now, clock.Gives k now → view.IsBlank now d c.field) :
    Unmatched ((Entity.holdsAt view inspect clock e).runFrom (k, x, i)).1 := by
  rw [(Entity.holdsAt_answer e k x i).1, hd]
  -- wherever the clock is, it gives nothing that it does not give from the start
  refine (hpositive.evaluate (I := fun k' => ∀ now, clock.Gives k' now → clock.Gives k now) ?_
    fun _ hnow => hnow).1
  intro c hc k' hk'
  obtain ⟨live, hreading, hlive⟩ := hblank c hc (clock k').1 (hk' _ .now)
  have hserves := hview.serves_of_accepts (accepts_of_mem_leaves he hc)
  rw [View.Serves, hreading] at hserves
  rw [View.runFrom_answerAt, View.answer, hreading]
  exact ⟨hlive.unmatched (hserves d) c.pattern, fun now hnow => hk' now (.later hnow)⟩

/-! ### Containers and images -/

/-- The container never ran, and what times it has are ahead. -/
structure ContainerDetails.NeverRan (d : ContainerDetails) (clock : Clock κ) (k : κ) : Prop where
  /-- The exit code of a container that never ran. -/
  exit : d.state.exitCode = -1
  /-- It is not created yet, as far as its details tell. -/
  created : clock.Ahead k d.created?
  /-- Nor did it finish. -/
  finished : clock.Ahead k d.state.finishedAt?

theorem ContainerDetails.NeverRan.isBlank {d : ContainerDetails} {clock : Clock κ} {k : κ}
    (h : d.NeverRan clock k) {field : Field}
    (hfield : field ∈ [Field.named "exit", .named "created", .named "exited"]) {now : Instant}
    (hnow : clock.Gives k now) : Container.view.IsBlank now d field := by
  simp only [List.mem_cons, List.not_mem_nil, or_false] at hfield
  rcases hfield with rfl | rfl | rfl
  · refine ⟨_, rfl, ?_⟩
    rw [h.exit]
    exact rfl
  · exact ⟨_, rfl, h.created.isBlank hnow⟩
  · exact ⟨_, rfl, h.finished.isBlank hnow⟩

/-- **What never ran is not matched.**  Whatever the clock and the inspector, a filter without
negations that only asks for the exit code, the creation and the end of a container does not match
one that never ran, if its details can be fetched; nor does one that only asks for the creation of
an image match one that is not created yet.  The answer is no, or a pattern is at fault. -/
theorem Matcher.unmatched_of_neverRan (inspector : Inspector ι) (clock : Clock κ) (k : κ) (i : ι)
    (input : String) (m : Matcher) (hpositive : m.expr.Positive) :
    (Matcher.parse Container.schema input = .ok m →
      (∀ c ∈ m.expr.leaves, c.field ∈ [Field.named "exit", .named "created", .named "exited"]) →
      ∀ (x : Entity ContainerSummary ContainerDetails) (d : ContainerDetails),
        x.record Container.view inspector.inspectContainer i = .ok d → d.NeverRan clock k →
        Unmatched ((Entity.holdsAt Container.view inspector.inspectContainer clock m.expr).runFrom
          (k, x, i)).1) ∧
    (Matcher.parse Image.schema input = .ok m →
      (∀ c ∈ m.expr.leaves, c.field = .named "created") →
      ∀ (x : Entity ImageSummary ImageDetails) (d : ImageDetails),
        x.record Image.view inspector.inspectImage i = .ok d → clock.Ahead k d.created? →
        Unmatched ((Entity.holdsAt Image.view inspector.inspectImage clock m.expr).runFrom
          (k, x, i)).1) := by
  constructor
  · intro hm hfields x d hd hnever
    obtain ⟨e, he, rfl⟩ := Matcher.exists_of_parse hm
    exact Container.honest.unmatched_of_isBlank he hpositive hd
      fun c hc now hnow => hnever.isBlank (hfields c hc) hnow
  · intro hm hfields x d hd hahead
    obtain ⟨e, he, rfl⟩ := Matcher.exists_of_parse hm
    refine Image.honest.unmatched_of_isBlank he hpositive hd fun c hc now hnow => ?_
    rw [hfields c hc]
    exact ⟨_, rfl, hahead.isBlank hnow⟩

/-- A container of the year 1 that finishes tomorrow, and an image of tomorrow; the exit code of the
one is compared with a word, and so is the time of the other, which finds the pattern at fault. -/
theorem Matcher.unmatched_of_neverRan_tomorrow :
    let zero : Instant := ⟨⟨1, 1, 1, by decide⟩, 0, 0, by decide⟩
    let noon : Instant := ⟨⟨2024, 2, 28, by decide⟩, 43200, 0, by decide⟩
    let night : Instant := ⟨⟨2024, 2, 28, by decide⟩, 86399, 999999999, by decide⟩
    let tomorrow : Instant := ⟨⟨2024, 2, 29, by decide⟩, 0, 0, by decide⟩
    let clock : Clock Bool := fun late => (if late then night else noon, true)
    let d : ContainerDetails :=
      { id := "a", created? := some zero,
        state := { exitCode := -1, finishedAt? := some tomorrow } }
    let d' : ImageDetails := { id := "b", created? := some tomorrow }
    let inspector : Inspector Unit :=
      Snapshot.inspector { containerDetails := [d], imageDetails := [d'] }
    ∃ m m', Matcher.parse Container.schema "exit=x | created>0h & (exited=0h | exit>-2)" = .ok m ∧
      Matcher.parse Image.schema "created>1ms | created=soon" = .ok m' ∧
      m.expr.Positive ∧ m'.expr.Positive ∧ d.NeverRan clock false ∧
      Unmatched ((Entity.holdsAt Container.view inspector.inspectContainer clock m.expr).runFrom
        (false, { summary := { id := "a" } }, ())).1 ∧
      Unmatched ((Entity.holdsAt Image.view inspector.inspectImage clock m'.expr).runFrom
        (false, { summary := { id := "b" } }, ())).1 := by
  intro zero noon night tomorrow clock d d' inspector
  have hgives : ∀ k now, clock.Gives k now → now = noon ∨ now = night := by
    intro k now hnow
    induction hnow with
    | @now k => cases k <;> simp [clock]
    | later _ ih => exact ih
  have htomorrow : clock.Ahead false (some tomorrow) := by
    rintro _ ⟨⟩
    refine .inr ⟨by decide, fun now hnow => ?_⟩
    rcases hgives _ _ hnow with rfl | rfl <;> decide
  have hzero : clock.Ahead false (some zero) := by
    rintro _ ⟨⟩
    exact .inl (by decide)
  have hnever : d.NeverRan clock false := ⟨rfl, hzero, htomorrow⟩
  refine ⟨_, _, rfl, rfl, ?positive, ?positive', hnever, ?container, ?image⟩
  case positive => exact ⟨trivial, trivial, trivial, trivial⟩
  case positive' => exact ⟨trivial, trivial⟩
  case container =>
    refine (Matcher.unmatched_of_neverRan inspector clock false ()
      "exit=x | created>0h & (exited=0h | exit>-2)" _ ?_).1 rfl (by decide) _ d rfl hnever
    exact ⟨trivial, trivial, trivial, trivial⟩
  case image =>
    refine (Matcher.unmatched_of_neverRan inspector clock false ()
      "created>1ms | created=soon" _ ?_).2 rfl (by decide) _ d' rfl htomorrow
    exact ⟨trivial, trivial⟩

end FleetQuery
