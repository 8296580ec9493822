/-
  LoadOrder/Filter/View.lean
  ==========================
  **The view: which plugins of a load order are shown, and how much is hidden.**

  A view names the shown plugins by their index, in load order.  Hidden messages
  are counted for every plugin, shown or not, so that the number depends on the
  message filters alone.
-/
import LoadOrder.Filter.Criteria

namespace LoadOrder

/-- The shown plugins, by index, and the numbers of what is hidden. -/
structure View where
  shown : List Nat := []
  hiddenPlugins : Nat := 0
  hiddenMessages : Nat := 0
deriving DecidableEq, Repr

/-- Whether a plugin is shown: by what its messages leave over, by its activity,
    by the conflict set and by the content filter, whose needle is in lower
    case. -/
def Criteria.shows (c : Criteria) (names : Names) (needle : String) (p : Plugin) : Bool :=
  c.passesMessageless p
    && (c.passesActive p && (p.passesConflicts names && p.matchesContent needle))

namespace View

/-- The indices, counted from `start`, of the elements that a test accepts. -/
def indicesFrom {α : Type} (test : α → Bool) : Nat → List α → List Nat
  | _, [] => []
  | start, a :: rest =>
    if test a then start :: indicesFrom test (start + 1) rest
    else indicesFrom test (start + 1) rest

/-- The view that criteria and a conflict set give of a load order. -/
def of (c : Criteria) (names : Names) (plugins : List Plugin) : View :=
  let shows := c.shows names (Text.lowercase c.needle)
  { shown := indicesFrom shows 0 plugins
    hiddenPlugins := plugins.countP fun p => !shows p
    hiddenMessages := Plugin.sumOf c.hiddenMessages plugins }

def whole (plugins : List Plugin) : View := { shown := List.range plugins.length }

def plugins (v : View) (all : List Plugin) : List Plugin := v.shown.filterMap fun i => all[i]?

def changeAt (shown : List Nat) (f : Plugin → Plugin) (plugins : List Plugin) : List Plugin :=
  plugins.mapIdx fun i p => if shown.contains i then f p else p

end View

end LoadOrder
