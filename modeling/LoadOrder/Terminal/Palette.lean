/-
  LoadOrder/Terminal/Palette.lean
  ===============================
  **Coloured text, and the colours of the program.**

  What a panel shows is a list of lines, and a line is a list of spans, each with a
  colour and a weight.  A span without a colour takes that of its surroundings.
-/
import LoadOrder.Plugin.Basic
import LoadOrder.Session.Basic

namespace LoadOrder.Terminal

open LoadOrder

/-! ### Text -/

structure Colour where
  red : Nat
  green : Nat
  blue : Nat
deriving DecidableEq, Repr

inductive Weight where
  | plain
  | bold
  | dim
deriving DecidableEq, Repr

/-- A run of text in one style. -/
structure Span where
  text : String
  colour : Option Colour := none
  weight : Weight := .plain
deriving DecidableEq, Repr

abbrev Line := List Span

def hexPair (n : Nat) : List Char := [Nat.digitChar (n / 16 % 16), Nat.digitChar (n % 16)]

/-- A colour as it is written, from red to blue. -/
def Colour.hex (c : Colour) : String :=
  String.ofList ('#' :: (hexPair c.red ++ hexPair c.green ++ hexPair c.blue))

/-! ### Colours -/

namespace Palette

def note : Colour := ⟨110, 180, 235⟩

def frame : Colour := ⟨70, 78, 92⟩

def text : Colour := ⟨215, 222, 232⟩

def muted : Colour := ⟨128, 138, 150⟩

def good : Colour := ⟨130, 210, 150⟩

def warn : Colour := ⟨235, 190, 110⟩

def bad : Colour := ⟨230, 95, 90⟩

def ofSeverity : Severity → Colour
  | .note => note
  | .warn => warn
  | .error => bad

def ofNotice : NoticeLevel → Colour
  | .info => note
  | .warn => warn
  | .error => bad

end Palette

def coloured (colour : Colour) (text : String) : Span := { text, colour := some colour }

def bold (colour : Colour) (text : String) : Span :=
  { text, colour := some colour, weight := .bold }

/-- A span in the colour of its surroundings. -/
def plain (text : String) : Span := { text }

end LoadOrder.Terminal
