import FleetQuery.Entity.Kind
import FleetQuery.Filter.Parser
import FleetQuery.Match.Evaluate
import FleetQuery.Match.Live
import FleetQuery.Snapshot.Inspector

/-!
# Entities under a filter

An entity is matched with what its listing says about it, and its details are fetched when a
field first needs them, and kept.  A `View` says, for one kind of entity, where the value of each
field comes from; `Entity.askM` answers one comparison, and `View.scanM` goes through a listing.
They run in any monad that inspections and the clock need; `Entity.ask` and `View.scan` are their
runs with a given instant and an inspector that keeps a state.
-/

namespace FleetQuery

/-- Where the value of a field comes from. -/
inductive Reading (S D : Type)
  /-- From the summary. -/
  | summary (live : S → Live)
  /-- From the details. -/
  | details (live : D → Live)

/-- The fields of one kind of entity, with summaries in `S` and details in `D`. -/
structure View (S D : Type) where
  /-- The id of an entity. -/
  id : S → String
  /-- The fields and operators that filters may use. -/
  schema : Schema
  /-- Where the value of a field comes from; nowhere, if there is no such field. -/
  reading? : Field → Option (Reading S D)

/-- An entity that is being matched. -/
structure Entity (S D : Type) where
  /-- What its listing says. -/
  summary : S
  /-- Its details, once they have been fetched. -/
  details? : Option D := none
  deriving DecidableEq, Repr

namespace Entity

variable {S D : Type}

/-- The details have been fetched. -/
def isInspected (e : Entity S D) : Bool := e.details?.isSome

section Monads

variable {m : Type → Type} [Monad m]

/-- The details of an entity, fetched if they are not yet there.  A failure leaves the entity as
it was. -/
def detailsM (view : View S D) (inspect : String → ExceptT SourceError m D) :
    ExceptT QueryError (StateT (Entity S D) m) D := do
  let e ← get
  match e.details? with
  | some d => pure d
  | none =>
    match ← liftM (inspect (view.id e.summary)).run with
    | .ok d => do
      set { e with details? := some d }
      pure d
    | .error err => throw (.source err)

/-- Answer one comparison. -/
def askM (view : View S D) (inspect : String → ExceptT SourceError m D) (clock : m Instant)
    (c : Comparison) : ExceptT QueryError (StateT (Entity S D) m) Bool := do
  match view.reading? c.field with
  | none => throw (.invalidField c.field.display)
  | some (.summary live) =>
    let e ← get
    compare (live e.summary)
  | some (.details live) =>
    let d ← detailsM view inspect
    compare (live d)
where
  /-- Compare a value; the entity stays as it is. -/
  compare (live : Live) : ExceptT QueryError (StateT (Entity S D) m) Bool :=
    ExceptT.mk (liftM (live.compareM clock c.op c.pattern).run)

/-- Match an entity with an expression. -/
def holdsM (view : View S D) (inspect : String → ExceptT SourceError m D) (clock : m Instant)
    (e : Expr) : ExceptT QueryError (StateT (Entity S D) m) Bool :=
  e.evaluate (askM view inspect clock)

end Monads

variable {ι : Type}

/-- An action on an entity, with the state of the inspector next to the entity. -/
def withInspector {α : Type} (action : ExceptT QueryError (StateT (Entity S D) (StateM ι)) α) :
    Answering (Entity S D × ι) α :=
  ExceptT.mk fun (e, i) =>
    let ((result, e), i) := (action.run.run e).run i
    (result, e, i)

/-- Answer one comparison at the instant `now`. -/
def ask (view : View S D) (inspect : String → Inspecting ι D) (now : Instant) (c : Comparison) :
    Answering (Entity S D × ι) Bool :=
  withInspector (askM view inspect (pure now) c)

/-- Match an entity with an expression at the instant `now`. -/
def holds (view : View S D) (inspect : String → Inspecting ι D) (now : Instant) (e : Expr) :
    Answering (Entity S D × ι) Bool :=
  withInspector (holdsM view inspect (pure now) e)

end Entity

namespace View

variable {S D : Type} {m : Type → Type} [Monad m]

/-- Match one listed entity, with nothing fetched yet. -/
def matchListedM (view : View S D) (inspect : String → ExceptT SourceError m D)
    (clock : m Instant) (e : Expr) (summary : S) : ExceptT QueryError m Bool :=
  ExceptT.mk do
    let (result, _) ← (Entity.holdsM view inspect clock e).run.run { summary }
    return result

/-- The ids of the listed entities that match, in order; the first failure ends the scan. -/
def scanM (view : View S D) (inspect : String → ExceptT SourceError m D) (clock : m Instant)
    (e : Expr) : List S → ExceptT QueryError m (List String)
  | [] => pure []
  | summary :: rest => do
    let matched ← view.matchListedM inspect clock e summary
    let ids ← view.scanM inspect clock e rest
    pure (if matched then view.id summary :: ids else ids)

variable {ι : Type}

/-- Match one listed entity at the instant `now`. -/
def matchListed (view : View S D) (inspect : String → Inspecting ι D) (now : Instant) (e : Expr)
    (summary : S) : Answering ι Bool :=
  view.matchListedM inspect (pure now) e summary

/-- The ids of the listed entities that match at the instant `now`. -/
def scan (view : View S D) (inspect : String → Inspecting ι D) (now : Instant) (e : Expr)
    (summaries : List S) : Answering ι (List String) :=
  view.scanM inspect (pure now) e summaries

end View

end FleetQuery
