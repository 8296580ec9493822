/-
  LoadOrder/Session/Log.lean
  ==========================
  **The log of a session, and the window through which it is seen.**

  The log keeps the newest entries up to a capacity.  The window shows the newest
  ones unless the user has scrolled up; the scroll is counted in entries below the
  window, so that a new entry moves a scrolled window up by one and it goes on
  showing what it showed.  The scroll is bounded by the length of the log, and the
  window by its own height too; the two bounds are not the same.
-/

namespace LoadOrder

inductive LogLevel where
  | info
  | warn
  | error
deriving DecidableEq, Repr

structure LogEntry where
  level : LogLevel
  text : String
deriving DecidableEq, Repr

/-- The log: its entries, the newest first, and the scroll. -/
structure Log where
  entries : List LogEntry := []
  scroll : Nat := 0
deriving DecidableEq, Repr

namespace Log

def capacity : Nat := 300

/-- The greatest scroll that can be counted. -/
def maxScroll : Nat := 18446744073709551615

/-- Adds an entry and drops the oldest one if there are too many. -/
def push (l : Log) (e : LogEntry) : Log :=
  let entries := (e :: l.entries).take capacity
  { entries, scroll := if 0 < l.scroll then min (l.scroll + 1) entries.length else l.scroll }

def scrollUp (l : Log) (lines : Nat) : Log := { l with scroll := min (l.scroll + lines) maxScroll }

def scrollDown (l : Log) (lines : Nat) : Log := { l with scroll := l.scroll - lines }

/-- The number of entries below a window of some height. -/
def below (l : Log) (height : Nat) : Nat := min l.scroll (l.entries.length - height)

/-- The entries in a window of some height, the oldest first. -/
def window (l : Log) (height : Nat) : List LogEntry :=
  ((l.entries.drop (l.below height)).take height).reverse

end Log

end LoadOrder
