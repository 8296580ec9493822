/-
  LoadOrder/Session/Basic.lean
  ============================
  **The session: a load order together with everything that is derived from it.**

  The session is the only owner of the plugins, their totals, the view, the search
  marks and the selection, and all of them are changed by its operations alone.
  Besides them it holds the courier that carries questions to the engine, and two
  things that tie a question to the state it was asked in: whether a refresh was
  asked for meanwhile (`refreshHeld`), and the editions of the load order, the
  present one and the one at the time of the question.
-/
import LoadOrder.Conflict.Courier
import LoadOrder.Conflict.Merge
import LoadOrder.Filter.View
import LoadOrder.Session.Log

namespace LoadOrder

/-! ### The parts -/

inductive NoticeLevel where
  | info
  | warn
  | error
deriving DecidableEq, Repr

/-- A short notice over the view, and the time at which it goes away. -/
structure Notice where
  text : String
  level : NoticeLevel
  expires : Nat
deriving DecidableEq, Repr

structure Session where
  title : String := ""
  plugins : List Plugin := []
  totals : Totals := {}
  criteria : Criteria := {}
  conflicts : Names := []
  view : View := {}
  needle : String := ""
  progress : Option String := none
  status : String := "Ready"
  log : Log := {}
  notice : Option Notice := none
  selected : Nat := 0
  courier : Courier := {}
  refreshHeld : Bool := false
  edition : UInt64 := 0
  askedEdition : UInt64 := 0
  clock : Nat := 0
  trace : List Event := []
deriving Repr

namespace Session

/-- A session without a load order, with switches and a phrase to begin with. -/
def new (toggles : Toggles) (phrase : String) : Session := { criteria := { toggles, phrase } }

def isBusy (s : Session) : Bool := s.courier.isBusy

/-! ### Telling -/

/-- Adds an event to the trace, which has the latest event first. -/
def tell (s : Session) (e : Event) : Session := { s with trace := e :: s.trace }

/-- Adds events to the trace, in their order. -/
def tellAll (s : Session) (events : List Event) : Session :=
  { s with trace := events.reverse ++ s.trace }

/-- Writes a line to the log, and to the trace. -/
def note (s : Session) (level : LogLevel) (text : String) : Session :=
  let traced : Level := match level with
    | .info => .info
    | .warn => .warn
    | .error => .error
  { s.tell (.noted traced text) with log := s.log.push ⟨level, text⟩ }

def notify (s : Session) (text : String) (level : NoticeLevel) (duration : Nat) : Session :=
  { s with notice := some ⟨text, level, s.clock + duration⟩ }

/-- The notice, while its time has not come. -/
def liveNotice (s : Session) : Option Notice :=
  match s.notice with
  | some n => if n.expires ≤ s.clock then none else some n
  | none => none

/-! ### The view -/

/-- The shown plugins, in load order. -/
def shownPlugins (s : Session) : List Plugin := s.view.plugins s.plugins

def selectedPlugin? (s : Session) : Option Plugin :=
  s.view.shown[s.selected]?.bind fun i => s.plugins[i]?

/-- Moves a selection behind the last row to the last row. -/
def clampSelection (s : Session) : Session :=
  { s with
    selected :=
      if s.view.shown.length = 0 then 0
      else if s.view.shown.length ≤ s.selected then s.view.shown.length - 1
      else s.selected }

/-- Moves the selection by some rows, up if the number is negative. -/
def moveSelection (s : Session) (rows : Int) : Session :=
  clampSelection
    { s with
      selected := if rows < 0 then s.selected - rows.natAbs else s.selected + rows.natAbs }

/-- Shows on every card what the display switches say. -/
def showCards (s : Session) : Session :=
  let t := s.criteria.toggles
  { s with
    plugins := s.plugins.map fun p =>
      { p with
        card :=
          { p.card with
            versionHidden := t.hideVersions, crcHidden := t.hideCrcs,
            tagsHidden := t.hideBashTags } } }

/-! ### Searching -/

/-- Whether the plugin at an index of the load order is shown and holds a needle. -/
def isMatch (s : Session) (needle : String) (index : Nat) : Bool :=
  match s.plugins[index]? with
  | some p => p.isVisible needle
  | none => false

/-- The number of shown plugins that hold a needle; the empty needle is not
    searched for. -/
def matchCount (s : Session) (needle : String) : Nat :=
  if needle = "" then 0 else s.view.shown.countP (s.isMatch needle)

/-- Searches for a needle: marks the shown plugins that hold it, and no others. -/
def search (s : Session) (needle : String) : Session :=
  { s with
    needle := needle
    plugins := s.plugins.mapIdx fun i p =>
      { p with
        card :=
          { p.card with
            found := needle != "" && (s.view.shown.contains i && p.isVisible needle) } } }

/-- The rows of the view that are marked by the search. -/
def searchResults (s : Session) : List Nat :=
  View.indicesFrom
    (fun i => match s.plugins[i]? with
      | some p => p.card.found
      | none => false)
    0 s.view.shown

/-- Selects the next marked row below the selection, or else the first one. -/
def selectNextResult (s : Session) : Session :=
  let results := s.searchResults
  match (results.find? fun row => decide (s.selected < row)).orElse fun _ => results.head? with
  | some row => { s with selected := row }
  | none => s

end Session

end LoadOrder
