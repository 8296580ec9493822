/-
  LoadOrder/Terminal/Wrap.lean
  ============================
  **Breaking a line that is too long.**

  A line is broken at blanks, and a word that is longer than a whole line is broken
  where the line ends.  Blanks are kept: those that still fit stay at the end of
  the line, one is dropped where the line is broken, and the rest go to the front
  of the next line.

  The characters that have been read but not yet placed are a run of blanks and the
  word behind it (`Pending`).  They are placed when a blank follows the word, or
  when together they fill a line of their own.
-/
import LoadOrder.Text.Blank

namespace LoadOrder.Terminal

/-- The state of the breaking: the line so far, the word and the blanks before it
    that are not placed yet, whether the last character was not a blank, and the
    finished lines, the latest first. -/
structure Pending (α : Type) where
  line : List α := []
  word : List α := []
  blanks : List α := []
  inWord : Bool := false
  finished : List (List α) := []

namespace Pending

variable {α : Type}

def place (p : Pending α) : Pending α :=
  { p with line := p.line ++ (p.blanks ++ p.word), word := [], blanks := [] }

/-- Drops the blanks that the finished line still has room for, and one more.  The
    result says whether the room was enough for all of them. -/
def dropBlanks : Nat → List α → List α × Bool
  | _, [] => ([], true)
  | 0, _ :: rest => (rest, false)
  | room + 1, _ :: rest => dropBlanks room rest

/-- Puts a character behind the blanks or the word. -/
def add (p : Pending α) (blank : Bool) (a : α) : Pending α :=
  if blank then { p with blanks := p.blanks ++ [a], inWord := false }
  else { p with word := p.word ++ [a], inWord := true }

/-- Finishes the line.  A blank that would begin the next one is dropped. -/
def finish (p : Pending α) (width : Nat) (blank : Bool) (a : α) : Pending α :=
  let left := dropBlanks (width - p.line.length) p.blanks
  let p := { p with line := [], blanks := left.1, finished := p.line :: p.finished }
  if blank && left.2 then p else p.add blank a

/-- Takes one more character. -/
def step (width : Nat) (isBlank : α → Bool) (p : Pending α) (a : α) : Pending α :=
  let blank := isBlank a
  let tooLong := decide (width < p.word.length + p.blanks.length + 1) && p.line.isEmpty
  let p := if (p.inWord && blank) || tooLong then p.place else p
  if width ≤ p.line.length ∨ width ≤ p.line.length + p.blanks.length + p.word.length then
    p.finish width blank a
  else p.add blank a

/-- The lines, once the text has ended. -/
def close (p : Pending α) : List (List α) :=
  let empty := p.line.isEmpty && p.word.isEmpty && !p.blanks.isEmpty
  let line := if empty then [] else p.line ++ (p.blanks ++ p.word)
  let finished := if empty then [] :: p.finished else p.finished
  let finished := if line.isEmpty then finished else line :: finished
  if finished.isEmpty then [[]] else finished.reverse

end Pending

def wrap {α : Type} (width : Nat) (isBlank : α → Bool) (text : List α) : List (List α) :=
  (text.foldl (Pending.step width isBlank) {}).close

end LoadOrder.Terminal
