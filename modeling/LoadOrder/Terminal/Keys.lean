/-
  LoadOrder/Terminal/Keys.lean
  ============================
  **What the keys do.**

  There are two modes.  In the normal mode a key acts on the session: it moves the
  selection, flips a switch, scrolls the log, or opens a line of text for the
  content filter or the search.  While such a line is edited, keys change the
  line; Enter applies it and Esc gives it up.

  A character that is pressed together with Control or Alt closes the line without
  applying it.  The keys for a clipboard stand apart (`Desk.pressWith`): the
  clipboard belongs to the terminal.
-/
import LoadOrder.Session.Operations

namespace LoadOrder.Terminal

open LoadOrder

/-! ### Keys -/

/-- A key, with the character it stands for if it has one. -/
inductive KeyCode where
  | char (c : Char)
  | esc
  | enter
  | backspace
  | up
  | down
  | home
  | finish
  | pageUp
  | pageDown
  | other
deriving DecidableEq, Repr

structure Key where
  code : KeyCode
  control : Bool := false
  alt : Bool := false
  shift : Bool := false
deriving DecidableEq, Repr

/-! ### Modes -/

/-- What an edited line is for. -/
inductive Purpose where
  | contentFilter
  | search
deriving DecidableEq, Repr

/-- What the keys act on. -/
inductive Mode where
  | normal
  | editing (prompt buffer : String) (purpose : Purpose)
deriving DecidableEq, Repr

/-- The state of the keyboard: the mode, and whether the user wants to leave. -/
structure Keyboard where
  mode : Mode := .normal
  quit : Bool := false
deriving DecidableEq, Repr

structure Desk where
  session : Session
  keyboard : Keyboard := {}
deriving Repr

namespace Desk

def onSession (d : Desk) (f : Session → Session) : Desk := { d with session := f d.session }

def enter (d : Desk) (mode : Mode) : Desk :=
  { d with keyboard := { d.keyboard with mode := mode } }

/-! ### The normal mode -/

/-- Restricts the view to the conflicts of the selected plugin, or lifts that
    restriction. -/
def toggleConflicts (s : Session) : Session :=
  match s.selectedPlugin? with
  | none => s
  | some p =>
    if s.criteria.conflictPlugin = some p.name then s.showConflicts none
    else s.showConflicts (some p.name)

def clearSearch (s : Session) : Session :=
  if s.needle = "" then s else { s.search "" with status := "Search cleared" }

def normalChar (d : Desk) (c : Char) (onlyControl : Bool) : Desk :=
  if c = 'q' ∨ (c = 'c' ∧ onlyControl = true) then
    { d with keyboard := { d.keyboard with quit := true } }
  else if c = 'k' then d.onSession fun s => s.moveSelection (-1)
  else if c = 'j' then d.onSession fun s => s.moveSelection 1
  else
    match Toggle.ofKey? c with
    | some toggle => d.onSession fun s => s.flipToggle toggle
    | none =>
      if c = 'f' then
        d.enter (.editing "Content filter" d.session.criteria.needle .contentFilter)
      else if c = '/' then d.enter (.editing "Search" d.session.needle .search)
      else if c = 'n' then d.onSession Session.selectNextResult
      else if c = 'c' then d.onSession toggleConflicts
      else if c = 'C' then d.onSession fun s => s.showConflicts none
      else d

/-- How many lines the keys for a page scroll the log. -/
def pageLines : Nat := 3

def normalKey (d : Desk) (k : Key) : Desk :=
  match k.code with
  | .char c => d.normalChar c (k.control && !k.alt && !k.shift)
  | .up => d.onSession fun s => s.moveSelection (-1)
  | .down => d.onSession fun s => s.moveSelection 1
  | .home => d.onSession fun s => { s with selected := 0 }
  | .finish => d.onSession fun s => { s with selected := s.view.shown.length - 1 }
  | .pageUp => d.onSession fun s => { s with log := s.log.scrollUp pageLines }
  | .pageDown => d.onSession fun s => { s with log := s.log.scrollDown pageLines }
  | .esc => d.onSession clearSearch
  | _ => d

/-! ### Editing a line -/

/-- How long a notice about a line that was given up stays, in milliseconds. -/
def cancelNoticeTime : Nat := 2000

def cancelText : Purpose → String
  | .contentFilter => "Filter edit cancelled"
  | .search => "Search cancelled"

/-- Searches for a line of text and goes to the first result. -/
def runSearch (s : Session) (line : String) : Session :=
  let needle := Text.trim line
  if needle = "" then s.search needle
  else
    { s.search needle with
      status := toString (s.matchCount needle) ++ " search result(s)" }.selectNextResult

def applyLine (s : Session) (line : String) : Purpose → Session
  | .contentFilter => s.setContentFilter line
  | .search => runSearch s line

def editKey (d : Desk) (k : Key) (prompt buffer : String) (purpose : Purpose) : Desk :=
  match k.code with
  | .esc =>
    (d.enter .normal).onSession fun s => s.notify (cancelText purpose) .warn cancelNoticeTime
  | .enter => (d.enter .normal).onSession fun s => applyLine s buffer purpose
  | .char c =>
    if k.control ∨ k.alt then d.enter .normal
    else d.enter (.editing prompt (buffer.push c) purpose)
  | .backspace =>
    d.enter (.editing prompt (String.ofList buffer.toList.dropLast) purpose)
  | _ => d

def press (d : Desk) (k : Key) : Desk :=
  match d.keyboard.mode with
  | .normal => d.normalKey k
  | .editing prompt buffer purpose => d.editKey k prompt buffer purpose

end Desk

end LoadOrder.Terminal
