import FleetQuery.Log.Event
import FleetQuery.Text.Blank
import FleetQuery.Text.Integer

/-!
# Log filters

Which events are logged.  A filter is a list of directives with commas between them.  A directive
names the start of a target, in brackets a span or a field, and after `=` the least grave level
that is logged; a level alone is for all targets, and a target alone is for all levels.  Of the
directives that are about an event the narrowest one decides (`LogFilter.decisive?`), and where
there is none the event is not logged.
-/

namespace FleetQuery

/-- The least grave level that is logged; without one, nothing is. -/
abbrev LogThreshold := Option LogLevel

namespace LogThreshold

/-- The thresholds with their names, by number. -/
def named : List (String × LogThreshold) :=
  ("off", none) :: LogLevel.all.map fun level => (level.name, some level)

/-- The threshold with a number, which may have a plus sign. -/
def ofNumber? (s : List Char) : Option LogThreshold := do
  let n ← readNatural? (match s with | '+' :: ds => ds | ds => ds)
  (named[n]?).map (·.2)

/-- The threshold with a number or with a name in any case. -/
def read? (s : List Char) : Option LogThreshold :=
  (ofNumber? s).or (named.lookup (String.ofList (s.map Char.toLower)))

/-- The threshold lets a level through. -/
def admits (threshold : LogThreshold) (level : LogLevel) : Bool :=
  threshold.any fun least => level.rank ≤ least.rank

end LogThreshold

/-- A directive of a log filter. -/
structure LogDirective where
  /-- The start of the targets that it is about. -/
  target : String := ""
  /-- The field that events need to have. -/
  field? : Option String := none
  /-- It is about what happens inside a span; the program has no spans. -/
  inSpan : Bool := false
  /-- The least grave level that is logged. -/
  threshold : LogThreshold := some .trace
  deriving DecidableEq, Repr

namespace LogDirective

/-- A character that a directive without brackets can start with. -/
def isStart (c : Char) : Bool :=
  c.isAlphanum || c == '-' || c == ':' || c == '_' || 0x80 ≤ c.toNat

/-- The directive with the level in `level`; without a text, with every level. -/
def upTo? (d : LogDirective) (level : List Char) : Option LogDirective :=
  if level.isEmpty then some { d with threshold := some .trace }
  else (LogThreshold.read? level).map fun threshold => { d with threshold }

/-- The number of characters before the first one that passes a test. -/
def distance (stop : Char → Bool) (s : List Char) : Nat := (s.takeWhile (!stop ·)).length

/-- What follows the brackets, which end at `i`: nothing or a level. -/
def afterBrackets? (s body : List Char) (d : LogDirective) (i : Nat) : Option LogDirective :=
  match body.drop i with
  | [] => some d
  | '=' :: _ => d.upTo? (s.drop (i + 1))
  | _ => none

/-- What stands in the brackets, which start before `i`: a span, or a field in braces, or
both. -/
def brackets? (s body : List Char) (target : String) (i : Nat) : Option LogDirective :=
  let j := i + distance (fun c => c == ']' || c == '\x7b') (body.drop i)
  match body.drop j with
  | ']' :: _ => afterBrackets? s body { target, inSpan := true } (j + 1)
  | '\x7b' :: inner =>
    let k := j + 1 + distance (· == '\x7d') inner
    let field := (s.take k).drop (j + 1)
    match body.drop k with
    | '\x7d' :: ']' :: _ =>
      if field.isEmpty then none
      else
        let name := String.ofList (field.takeWhile (· != '='))
        let inSpan := i < j || field.contains '='
        afterBrackets? s body { target, field? := some name, inSpan } (k + 2)
    | _ => none
  | _ => none

/-- The directive that a text stands for.  Its marks are looked for between the white space at its
two ends, but its parts are cut, at the same distances, out of the whole text: so no level may
have white space around the directive. -/
def read? (s : List Char) : Option LogDirective := do
  let body := trim s
  let first ← body.head?
  if !isStart first && first != '[' then none
  else
    let i := distance (fun c => c == '=' || c == '[') body
    let target := String.ofList (s.take i)
    match body.drop i with
    | [] =>
      match LogThreshold.read? s with
      | some threshold => some { threshold }
      | none => some { target := String.ofList s }
    | '=' :: _ => upTo? { target } (s.drop (i + 1))
    | _ => brackets? s body target (i + 1)

/-- The directive is about an event. -/
def concerns (d : LogDirective) (e : LogEvent) : Bool :=
  !d.inSpan && d.target.toList.isPrefixOf e.target.toList && d.field?.all e.hasField

/-- The directive is narrower than another one that is about the same event: its target is
longer, or it alone names a field, or its field is the later one. -/
def isNarrower (d d' : LogDirective) : Bool :=
  d'.target.length < d.target.length ||
    (d.target.length == d'.target.length &&
      match d.field?, d'.field? with
      | some name, some name' => decide (name' < name)
      | some _, none => true
      | none, _ => false)

end LogDirective

/-- Which events are logged. -/
structure LogFilter where
  /-- The directives, in order. -/
  directives : List LogDirective
  deriving DecidableEq, Repr

namespace LogFilter

/-- The texts of the directives in a text. -/
def pieces (s : String) : List (List Char) :=
  ((s.splitOn ",").map String.toList).filter (!·.isEmpty)

/-- The filter that a text stands for, if all its directives are well formed. -/
def read? (s : String) : Option LogFilter := ((pieces s).mapM LogDirective.read?).map mk

/-- The filter of the well formed directives in a text. -/
def salvage (s : String) : LogFilter := ⟨(pieces s).filterMap LogDirective.read?⟩

/-- The directive that decides about an event: the narrowest that is about it, and the last one
of several. -/
def decisive? (f : LogFilter) (e : LogEvent) : Option LogDirective :=
  (f.directives.filter (·.concerns e)).foldl narrower none
where
  /-- The narrower one of a directive and the next one. -/
  narrower : Option LogDirective → LogDirective → Option LogDirective
    | none, d => some d
    | some best, d => some (if best.isNarrower d then best else d)

/-- The event is logged. -/
def enables (f : LogFilter) (e : LogEvent) : Bool :=
  match f.decisive? e with
  | some d => d.threshold.admits e.level
  | none => false

end LogFilter

end FleetQuery
