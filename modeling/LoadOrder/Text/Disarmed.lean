/-
  LoadOrder/Text/Disarmed.lean
  ============================
  **A text that no terminal takes for a command.**

  Some controls do not only stand in a text but make a terminal act: the escape
  begins a sequence that may recolour or erase what is on the screen, others
  ring, move back or delete, and the controls U+0080 to U+009F are short forms
  of such sequences.  A disarmed text names them instead of holding them.  Line
  ends and tabs stay, and so do the controls that terminals pass by.
-/
import LoadOrder.Text.Quoted

namespace LoadOrder.Text

/-- The controls of ASCII that a terminal acts upon, each with its name. -/
def armedControls : List (Char × String) :=
  [('\x1b', "\\x1b"), ('\x07', "\\x07"), ('\x08', "\\x08"), ('\x0c', "\\x0c"), ('\x7f', "\\x7f")]

def disarmedChar (c : Char) : List Char :=
  match armedControls.lookup c with
  | some name => name.toList
  | none => if 0x80 ≤ c.toNat && c.toNat ≤ 0x9F then codePoint c else [c]

/-- The text with a name in the place of each control that a terminal acts upon. -/
def disarmed (s : String) : String := String.ofList (s.toList.flatMap disarmedChar)

end LoadOrder.Text
