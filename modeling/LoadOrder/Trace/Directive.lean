/-
  LoadOrder/Trace/Directive.lean
  ==============================
  **Which events are written.**

  One text says which events are wanted.  It is a list of directives, parted by
  commas, and a directive sets the level up to which it wants events:

  * `warn` or `2` sets it for all events,
  * `plugindeck::session=debug` for the parts of the program whose names begin so
    (and `plugindeck::session` alone wants all their events),
  * `[{plugin}]=info` for events that carry such a value,
  * `[task]=info` for events during a stretch of work that has this name,
  * `[{plugin=F.*}]=info` for events during one that has such a value, which must
    read as a pattern or a number.

  Of the directives that concern an event the most specific one decides, not the
  first and not the widest, so one part can be silenced under a wide directive and
  another opened.  A directive that cannot be read is left out, with a complaint.
  Where no directive is left, errors are wanted.
-/
import LoadOrder.Text.Alphanumeric
import LoadOrder.Text.Search
import LoadOrder.Trace
import LoadOrder.Trace.Expectation

namespace LoadOrder

/-! ### Limits -/

/-- The limits by name, each at the place of its number.  Under the first one no event
    is written. -/
def limitNames : List (String × Option Level) :=
  [("off", none), ("error", some .error), ("warn", some .warn), ("info", some .info),
   ("debug", some .debug), ("trace", some .trace)]

/-- A number that is written in digits, with or without a plus. -/
def readNumber? (word : List Char) : Option Nat :=
  let digits := match word with
    | '+' :: rest => rest
    | _ => word
  if digits ≠ [] && digits.all Char.isDigit then
    some (digits.foldl (fun n d => 10 * n + (d.toNat - '0'.toNat)) 0)
  else none

/-- The limit of a name, in any case of its letters, or of a number. -/
def readLimit? (word : List Char) : Option (Option Level) :=
  match readNumber? word with
  | some n => (limitNames.map fun l => l.2)[n]?
  | none => limitNames.lookup (String.ofList (word.map Char.toLower))

/-! ### Directives -/

/-- A wish for events up to a limit: all events, or those from the parts whose names
    begin with `origin`, during a stretch of work named `task`, with a value of some name.
    A value may be asked to read in a certain way, which again is a wish about the
    stretch of work that has it. -/
structure Directive where
  origin : Option String := none
  task : Option String := none
  value : Option (String × Option String) := none
  limit : Option Level
deriving DecidableEq, Repr

namespace Directive

/-- Whether a wish is about an event.  No event of this program happens within a named
    stretch of work, so a wish for one is about none. -/
def concerns (d : Directive) (e : Event) : Bool :=
  d.task.isNone
    && (match d.origin with
        | none => true
        | some origin => origin.toList.isPrefixOf e.origin.toList)
    && (match d.value with
        | none => true
        | some (name, none) => e.valueNames.contains name
        | some (_, some _) => false)

/-- Whether a wish is more specific than another one about the same event.  The longer
    name of a part counts most, then whether a value is named.  Between two values the
    order of their names decides. -/
def outweighs (d other : Directive) : Bool :=
  let length (origin : Option String) : Nat := match origin with
    | none => 0
    | some origin => origin.toList.length + 1
  decide (length other.origin < length d.origin)
    || (length d.origin == length other.origin
      && match d.value, other.value with
        | some v, some w => decide (w.1 < v.1)
        | some _, none => true
        | none, _ => false)

/-- The wish that decides about an event: none outweighs it, and of equals it is the
    last one. -/
def decisive? (directives : List Directive) (e : Event) : Option Directive :=
  (directives.filter fun d => d.concerns e).foldl
    (fun best d => match best with
      | none => some d
      | some best => if best.outweighs d then some best else some d)
    none

end Directive

/-! ### Reading a directive -/

inductive DirectiveFault where
  | malformed
  | unknownLevel
  | expectation (fault : Pattern.Fault)
deriving DecidableEq, Repr

def DirectiveFault.text : DirectiveFault → String
  | .malformed => "invalid filter directive"
  | .unknownLevel =>
    "error parsing level filter: expected one of \"off\", \"error\", \"warn\", \"info\", "
      ++ "\"debug\", \"trace\", or a number 0-5"
  | .expectation fault => "invalid field filter: " ++ fault.text

namespace Directive

/-- Where a piece of a directive lies: what was read before it.  The blanks around a
    directive are passed over to find its pieces, but each piece is then taken out of the
    whole text at the same distance from the start.  So blanks in front move every piece,
    and a directive with blanks around it rarely means what it seems to. -/
structure Reading where
  whole : List Char
  before : List Char := []

/-- The piece that is as long as the one that was found. -/
def Reading.piece (r : Reading) (found : List Char) : List Char :=
  Text.takeBytes (Text.byteCount found) (Text.dropBytes (Text.byteCount r.before) r.whole)

/-- All from here on. -/
def Reading.rest (r : Reading) : List Char := Text.dropBytes (Text.byteCount r.before) r.whole

def Reading.past (r : Reading) (found : List Char) : Reading :=
  { r with before := r.before ++ found }

/-- The limit at the end of a directive.  Without one all events are wanted. -/
def Reading.limit (r : Reading) : List Char → Except DirectiveFault (Option Level)
  | [] => .ok (some .trace)
  | '=' :: _ =>
    let word := (r.past ['=']).rest
    if word = [] then .ok (some .trace)
    else
      match readLimit? word with
      | some limit => .ok limit
      | none => .error .unknownLevel
  | _ => .error .malformed

/-- The limit behind a closing bracket. -/
def Reading.ending (r : Reading) : List Char → Except DirectiveFault (Option Level)
  | ']' :: rest => (r.past [']']).limit rest
  | _ => .error .malformed

/-- The name of a value, and how it should read if that is said. -/
def readValue (piece : List Char) : Except DirectiveFault (String × Option String) :=
  match Text.cutAt '=' piece with
  | [] => .ok ("", none)
  | [name] => .ok (String.ofList name, none)
  | name :: expectation :: _ =>
    match Expectation.fault? expectation with
    | none => .ok (String.ofList name, some (String.ofList expectation))
    | some fault => .error (.expectation fault)

/-- The part of a directive between square brackets, and the limit after it.  `r` stands
    behind the opening bracket.  A value is judged where it ends, so a fault in it counts
    before all that may be wrong further on. -/
def Reading.scope (r : Reading) (origin : Option String) (text : List Char) :
    Except DirectiveFault Directive :=
  let task := text.takeWhile fun c => c != ']' && c != '\x7b'
  match text.drop task.length with
  | '\x7b' :: inside =>
    let r' := r.past (task ++ ['\x7b'])
    let value := inside.takeWhile fun c => c != '\x7d'
    match inside.drop value.length with
    | [] => .error .malformed
    | _ :: rest =>
      if value = [] then .error .malformed
      else do
        let wish ← readValue (r'.piece value)
        let limit ← (r'.past (value ++ ['\x7d'])).ending rest
        return {
          origin
          task := if task = [] then none else some (String.ofList (r.piece task))
          value := some wish
          limit }
  | rest =>
    ((r.past task).ending rest).map fun limit =>
      { origin, task := some (String.ofList (r.piece task)), limit }

def beginsName (c : Char) : Bool := c == '-' || c == ':' || c == '_' || Text.isAlphanumeric c

def read (text : List Char) : Except DirectiveFault Directive :=
  let seen := Text.trimBack (Text.trimFront text)
  let name := seen.takeWhile fun c => c != '=' && c != '['
  match seen with
  | [] => .error .malformed
  | '[' :: inside => Reading.scope ⟨text, ['[']⟩ none inside
  | first :: _ =>
    if !beginsName first then .error .malformed
    else
      let r : Reading := ⟨text, []⟩
      let origin := String.ofList (r.piece name)
      match seen.drop name.length with
      | [] =>
        match readLimit? text with
        | some limit => .ok { limit }
        | none => .ok { origin := some (String.ofList text), limit := some .trace }
      | '[' :: inside => (r.past (name ++ ['['])).scope (some origin) inside
      | rest => ((r.past name).limit rest).map fun limit => { origin := some origin, limit }

end Directive

/-! ### All wishes -/

/-- What is wanted of a log, and the complaints about what could not be read. -/
structure LogFilter where
  directives : List Directive
  complaints : List String
deriving DecidableEq, Repr

namespace LogFilter

def silent : LogFilter := ⟨[], []⟩

def readable (pieces : List (List Char)) : List Directive :=
  pieces.filterMap fun p => match Directive.read p with
    | .ok d => some d
    | .error _ => none

def unreadable (pieces : List (List Char)) : List String :=
  pieces.filterMap fun p => match Directive.read p with
    | .ok _ => none
    | .error fault => some ("ignoring `" ++ String.ofList p ++ "`: " ++ fault.text)

/-- Reads a list of directives.  Empty ones do not count. -/
def read (text : String) : LogFilter :=
  let pieces := (Text.cutAt ',' text.toList).filter fun p => p != []
  let directives := readable pieces
  { directives := if directives = [] then [{ limit := some .error }] else directives
    complaints := unreadable pieces }

def admits (f : LogFilter) (e : Event) : Bool :=
  match (Directive.decisive? f.directives e).bind fun d => d.limit with
  | none => false
  | some limit => decide (e.level.rank ≤ limit.rank)

def lines (f : LogFilter) (withOrigin : Bool) (events : List Event) : List String :=
  (events.filter f.admits).map (Event.line withOrigin)

/-- Where nothing is wanted no line is written. -/
theorem lines_silent (withOrigin : Bool) (events : List Event) :
    silent.lines withOrigin events = [] := by
  induction events with
  | nil => rfl
  | cons _ _ ih => exact ih

end LogFilter

end LoadOrder
