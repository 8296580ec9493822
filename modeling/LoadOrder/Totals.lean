/-
  LoadOrder/Totals.lean
  =====================
  **The totals above the list, and how they follow a change.**

  The totals can be counted from the plugins at any time (`Totals.ofPlugins`), but
  the program does not: it moves them by the difference that each change makes.
  A change of messages carries the tally before and after; a change of the dirty
  mark moves the count by one, whatever stood there before.  No total falls below
  zero, and one that would is reported.

  The number of shown messages is only right directly after a filter pass
  (`Totals.reconcile`); in between it follows the changes like the others.
-/
import LoadOrder.Plugin.Basic
import LoadOrder.Trace

namespace LoadOrder

/-! ### Tallies and totals -/

/-- The messages of one plugin, counted. -/
structure Tally where
  total : Nat := 0
  warnings : Nat := 0
  errors : Nat := 0
deriving DecidableEq, Repr

def Tally.ofMessages (messages : List Message) : Tally where
  total := messages.length
  warnings := messages.countP fun m => decide (m.severity = .warn)
  errors := messages.countP fun m => decide (m.severity = .error)

structure Totals where
  shownMessages : Nat := 0
  messages : Nat := 0
  warnings : Nat := 0
  errors : Nat := 0
  dirtyPlugins : Nat := 0
deriving DecidableEq, Repr

/-- Counts plugins; at first every message counts as shown. -/
def Totals.ofPlugins (plugins : List Plugin) : Totals :=
  let tally := fun p : Plugin => Tally.ofMessages p.messages
  { shownMessages := Plugin.sumOf (fun p => (tally p).total) plugins
    messages := Plugin.sumOf (fun p => (tally p).total) plugins
    warnings := Plugin.sumOf (fun p => (tally p).warnings) plugins
    errors := Plugin.sumOf (fun p => (tally p).errors) plugins
    dirtyPlugins := plugins.countP Plugin.dirty }

/-! ### Changes -/

/-- A change that the totals observe. -/
inductive Change where
  | messages (old new : Tally)
  | dirty (isDirty : Bool)
deriving DecidableEq, Repr

/-- A total with something added and something taken away, never below zero. -/
def shift (value add sub : Nat) : Nat := value + add - sub

def shiftClamps (value add sub : Nat) : Bool := decide (value + add < sub)

namespace Totals

def apply (t : Totals) : Change → Totals
  | .messages old new =>
    { t with
      shownMessages := shift t.shownMessages new.total old.total
      messages := shift t.messages new.total old.total
      warnings := shift t.warnings new.warnings old.warnings
      errors := shift t.errors new.errors old.errors }
  | .dirty true => { t with dirtyPlugins := t.dirtyPlugins + 1 }
  | .dirty false => { t with dirtyPlugins := shift t.dirtyPlugins 0 1 }

def applyAll (t : Totals) (changes : List Change) : Totals := changes.foldl apply t

/-- Sets the number of shown messages from the number of hidden ones. -/
def reconcile (t : Totals) (hiddenMessages : Nat) : Totals :=
  { t with shownMessages := t.messages - hiddenMessages }

/-! ### What is reported about a change -/

/-- The report of one shift, if it stops at zero. -/
def clampEvent (counter : String) (value add sub : Nat) : List Event :=
  if shiftClamps value add sub then [.counterClamped counter value add sub] else []

/-- The reports of the shifts of one change. -/
def applyEvents (t : Totals) : Change → List Event
  | .messages old new =>
    clampEvent "filtered_total_messages" t.shownMessages new.total old.total
      ++ clampEvent "total_messages" t.messages new.total old.total
      ++ clampEvent "total_warnings" t.warnings new.warnings old.warnings
      ++ clampEvent "total_errors" t.errors new.errors old.errors
  | .dirty true => []
  | .dirty false => clampEvent "dirty_plugin_count" t.dirtyPlugins 0 1

/-- The reports of several changes, one after the other. -/
def applyAllEvents (t : Totals) : List Change → List Event
  | [] => []
  | c :: rest => t.applyEvents c ++ (t.apply c).applyAllEvents rest

end Totals

end LoadOrder
