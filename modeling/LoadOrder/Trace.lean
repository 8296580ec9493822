/-
  LoadOrder/Trace.lean
  ====================
  **What the program tells about its own work.**

  Every step that a user may want to follow later leaves an event.  Which events
  are written, and where, is decided when the program ends a command
  (`Trace/Directive.lean`); the steps themselves only collect them.  An event
  knows how much it matters and which part of the program it comes from, and it
  is written as one line: the level, the part if the line goes to a file, a
  message, and named values.

  A message is put together from texts of other people, so it is disarmed before
  it reaches a terminal.  A value is written as it is, or quoted.
-/
import LoadOrder.Text.Disarmed

namespace LoadOrder

/-! ### Levels -/

/-- How much an event matters, the most first. -/
inductive Level where
  | error
  | warn
  | info
  | debug
  | trace
deriving DecidableEq, Repr

def Level.rank : Level → Nat
  | .error => 1
  | .warn => 2
  | .info => 3
  | .debug => 4
  | .trace => 5

/-- A level as it stands in front of a line. -/
def Level.mark : Level → String
  | .error => "ERROR"
  | .warn => " WARN"
  | .info => " INFO"
  | .debug => "DEBUG"
  | .trace => "TRACE"

/-! ### Events -/

inductive Event where
  | snapshotLoaded (path : String) (plugins : Nat)
  | noted (level : Level) (text : String)
  | toggled (toggle : String) (value : Bool)
  | passComplete (shown hiddenPlugins hiddenMessages : Nat)
  | queryStarted (plugin : String)
  | notInLoadOrder (plugin : String)
  | countersSynced (plugin : String) (changes : Nat)
  | counterClamped (counter : String) (value add sub : Nat)
deriving DecidableEq, Repr

namespace Event

def level : Event → Level
  | snapshotLoaded _ _ => .info
  | noted level _ => level
  | toggled _ _ => .debug
  | passComplete _ _ _ => .debug
  | queryStarted _ => .info
  | notInLoadOrder _ => .debug
  | countersSynced _ _ => .debug
  | counterClamped _ _ _ _ => .warn

/-- The part of the program that an event comes from, as it is written. -/
def origin : Event → String
  | snapshotLoaded _ _ => "plugindeck::snapshot"
  | noted _ _ => "plugindeck::session"
  | toggled _ _ => "plugindeck::session"
  | passComplete _ _ _ => "plugindeck::session"
  | queryStarted _ => "plugindeck::conflicts"
  | notInLoadOrder _ => "plugindeck::conflicts"
  | countersSynced _ _ => "plugindeck::sync"
  | counterClamped _ _ _ _ => "plugindeck::counters"

def message : Event → String
  | snapshotLoaded _ _ => "snapshot loaded"
  | noted _ text => text
  | toggled _ _ => "filter toggled"
  | passComplete _ _ _ => "filter pass complete"
  | queryStarted _ => "conflict query started"
  | notInLoadOrder _ => "conflict data for plugin not in load order"
  | countersSynced _ _ => "plugin counters synced"
  | counterClamped _ _ _ _ => "counter underflow clamped"

/-- The named values of an event, as they are written. -/
def values : Event → List (String × String)
  | snapshotLoaded path plugins => [("path", path), ("plugins", toString plugins)]
  | noted _ _ => []
  | toggled toggle value => [("toggle", toggle), ("value", if value then "true" else "false")]
  | passComplete shown hiddenPlugins hiddenMessages =>
    [("shown", toString shown), ("hidden_plugins", toString hiddenPlugins),
     ("hidden_messages", toString hiddenMessages)]
  | queryStarted plugin => [("plugin", Text.quoted plugin)]
  | notInLoadOrder plugin => [("plugin", plugin)]
  | countersSynced plugin changes => [("plugin", plugin), ("changes", toString changes)]
  | counterClamped counter value add sub =>
    [("counter", Text.quoted counter), ("value", toString value), ("add", toString add),
     ("sub", toString sub)]

/-- The names under which an event can be asked for: those of its values, and the
    message. -/
def valueNames (e : Event) : List String := "message" :: e.values.map fun v => v.1

/-- The line of an event; `withOrigin` says whether it names the part. -/
def line (withOrigin : Bool) (e : Event) : String :=
  e.level.mark ++ " " ++ (if withOrigin then e.origin ++ ": " else "") ++ Text.disarmed e.message
    ++ String.join (e.values.map fun v => " " ++ v.1 ++ "=" ++ v.2)

end Event

end LoadOrder
