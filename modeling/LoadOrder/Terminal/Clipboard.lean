/-
  LoadOrder/Terminal/Clipboard.lean
  =================================
  **The two keys that copy.**

  In the normal mode `y` copies the names of the shown plugins and `Y` the card of
  the selected one.  The clipboard belongs to the terminal: all that is known of it
  is what it answers to a text.  Whatever that is, it shows in the status, and a
  failure in the log as well.
-/
import LoadOrder.Session.Text
import LoadOrder.Terminal.Keys

namespace LoadOrder.Terminal

/-- What a clipboard answers to a text: it has taken it, it could not be opened, or it
    was opened and did not take it. -/
inductive Copied where
  | taken
  | unavailable (reason : String)
  | refused (reason : String)
deriving DecidableEq, Repr

abbrev Clipboard := String → Copied

namespace Desk

/-- How long a notice about a copy stays, in milliseconds. -/
def copyNoticeTime : Nat := 2000

/-- Says what has become of a copy: a status and a notice, or what has failed. -/
def noteCopied (s : Session) (status notice : String) : Copied → Session
  | .taken => { s with status := status }.notify notice .info copyNoticeTime
  | .unavailable reason =>
    { s with status := "Clipboard unavailable: " ++ reason }.note .warn
      ("Clipboard unavailable: " ++ reason)
  | .refused reason =>
    { s with status := "Clipboard copy failed: " ++ reason }.note .warn
      ("Clipboard copy failed: " ++ reason)

def copyLoadOrder (s : Session) (clipboard : Clipboard) : Session :=
  noteCopied s ("Copied " ++ toString s.view.shown.length ++ " plugin name(s)")
    "Load order copied" (clipboard s.loadOrderText)

def copyCard (s : Session) (clipboard : Clipboard) : Session :=
  match s.selectedPlugin? with
  | none => s
  | some p =>
    noteCopied s ("Copied metadata for " ++ p.name) "Metadata copied" (clipboard p.cardText)

/-- A key press at a terminal with a clipboard. -/
def pressWith (d : Desk) (clipboard : Clipboard) (k : Key) : Desk :=
  match d.keyboard.mode with
  | .editing _ _ _ => d.press k
  | .normal =>
    match k.code with
    | .char 'y' => d.onSession fun s => copyLoadOrder s clipboard
    | .char 'Y' => d.onSession fun s => copyCard s clipboard
    | _ => d.press k

end Desk

end LoadOrder.Terminal
