/-
  LoadOrder/Session/Operations.lean
  =================================
  **What a user can do with a session.**

  Each operation changes one thing and then brings what depends on it up to date:
  a switch that decides what is shown, the content filter and the conflict plugin
  lead to a refresh, a switch of the cards to new cards.  An operation that
  changes nothing does nothing else either.
-/
import LoadOrder.Session.Refresh
import LoadOrder.Snapshot

namespace LoadOrder.Session

/-! ### The load order -/

/-- Replaces the load order.  The totals are counted afresh, the restriction to
    conflicts is lifted, and an answer that is still out is no longer wanted. -/
def load (s : Session) (title : Option String) (plugins : List Plugin) : Session :=
  let loaded : Session :=
    { s with
      edition := s.edition + 1
      title := title.getD ""
      plugins := plugins
      totals := Totals.ofPlugins plugins
      criteria := { s.criteria with conflictPlugin := none }
      conflicts := []
      view := View.whole plugins
      selected := 0 }
  (loaded.showCards.note .info ("Loaded " ++ toString plugins.length ++ " plugin(s)")).refresh

def named? (s : Session) (name : String) : Option Plugin := Merge.named? name s.plugins

/-- The changes that an edit of the first plugin of a name makes; nothing if there
    is no such plugin. -/
def editChanges? (s : Session) (name : String) (e : Edit) : Option (List Change) :=
  (s.named? name).map fun p => p.editChanges e

def editPlugin (s : Session) (name : String) (e : Edit) : Session :=
  let m := ({ plugins := s.plugins, totals := s.totals } : Merge).editNamed name e
  s.absorb m

/-! ### The criteria -/

def setToggle (s : Session) (toggle : Toggle) (on : Bool) : Session :=
  if s.criteria.toggles.get toggle = on then s
  else
    let set := ({ s with
      criteria := { s.criteria with toggles := s.criteria.toggles.set toggle on }
      status := toggle.label ++ ": " ++ (if on then "on" else "off") }).tell
        (.toggled toggle.name on)
    if toggle.isDisplayOnly then set.showCards else set.refresh

def flipToggle (s : Session) (toggle : Toggle) : Session :=
  s.setToggle toggle (!s.criteria.toggles.get toggle)

/-- Sets all switches as they were saved, without bringing anything up to date. -/
def restoreToggles (s : Session) (toggles : Toggles) : Session :=
  { s with criteria := { s.criteria with toggles } }

/-- Brings the view and the cards up to date after switches were restored: one
    refresh if a switch is on that decides what is shown, then the cards. -/
def applyToggles (s : Session) : Session :=
  (if s.criteria.toggles.anyContent then s.refresh else s).showCards

/-- Sets the content filter, without the blanks around it. -/
def setContentFilter (s : Session) (value : String) : Session :=
  let value := Text.trim value
  if value = s.criteria.needle then s
  else
    let set : Session := { s with criteria := { s.criteria with needle := value } }
    (set.note .info
      (if value = "" then "Content filter cleared"
       else "Content filter set: \"" ++ value ++ "\"")).refresh

/-- Restricts the view to the plugins that conflict with one, or lifts the
    restriction. -/
def showConflicts (s : Session) (plugin : Option String) : Session :=
  if plugin = s.criteria.conflictPlugin then s
  else ({ s with criteria := { s.criteria with conflictPlugin := plugin } }).refresh

/-! ### Time -/

/-- Takes away a notice whose time has come, and picks up what has arrived. -/
def tick (s : Session) (arrival : Courier.Arrival) : Session :=
  ({ s with notice := s.liveNotice }).pollConflicts arrival

end LoadOrder.Session
