/-
  LoadOrder/Json/Cursor.lean
  ==========================
  **Walking through a text while knowing the place.**

  A cursor is what is left of the text together with the place reached.  Reading
  either succeeds and moves the cursor, or stops with a fault; a stop also says
  where the cursor stood, because a reader further out may still close what it
  has opened before it reports the fault.

  Places count bytes, as editors and other tools do, so a character may move the
  column by up to four.
-/
import LoadOrder.Json.Fault

namespace LoadOrder.Json

/-- What is left of a text, and the place reached. -/
structure Cursor where
  rest : List Char
  place : Position
deriving DecidableEq, Repr

/-- The end of a reading step: a value and the cursor behind it, or a fault and
    the cursor where it was met. -/
inductive Read (α : Type) where
  | done (value : α) (next : Cursor)
  | stop (fault : Fault) (next : Cursor)
deriving Repr

/-- Goes on behind a value; a stop stays a stop. -/
def Read.andThen {α β : Type} (r : Read α) (f : α → Cursor → Read β) : Read β :=
  match r with
  | .done value next => f value next
  | .stop fault next => .stop fault next

def Read.map {α β : Type} (f : α → β) (r : Read α) : Read β :=
  match r with
  | .done value next => .done (f value) next
  | .stop fault next => .stop fault next

/-- The cursor behind a reading step, however it ended. -/
def Read.cursor {α : Type} : Read α → Cursor
  | .done _ next => next
  | .stop _ next => next

/-! ### Places -/

def Position.after (p : Position) (c : Char) : Position :=
  if c = '\n' then ⟨p.line + 1, 0⟩ else ⟨p.line, p.column + c.utf8Size⟩

def Position.afterAll (p : Position) (cs : List Char) : Position := cs.foldl Position.after p

/-- The place behind the next `n` bytes of a text, which may end inside a
    character. -/
def Position.afterBytes : Nat → List Char → Position → Position
  | 0, _, p => p
  | _, [], p => p
  | n + 1, c :: rest, p =>
    if c = '\n' then afterBytes n rest ⟨p.line + 1, 0⟩
    else if c.utf8Size ≤ n + 1 then
      afterBytes (n + 1 - c.utf8Size) rest ⟨p.line, p.column + c.utf8Size⟩
    else ⟨p.line, p.column + (n + 1)⟩

namespace Cursor

def ofText (s : String) : Cursor := ⟨s.toList, ⟨1, 0⟩⟩

def step (c : Cursor) : Cursor :=
  match c.rest with
  | [] => c
  | ch :: rest => ⟨rest, c.place.after ch⟩

/-- The place behind the next byte, where a fault of that byte is reported; at
    the end of the text the end itself. -/
def ahead (c : Cursor) : Position := Position.afterBytes 1 c.rest c.place

def atEnd (c : Cursor) : Cursor := ⟨[], c.place.afterAll c.rest⟩

/-- Stops with a problem of the next byte. -/
def refuse {α : Type} (c : Cursor) (p : Problem) : Read α := .stop ⟨p, some c.ahead⟩ c

/-- Stops with a problem at the place reached. -/
def fail {α : Type} (c : Cursor) (p : Problem) : Read α := .stop ⟨p, some c.place⟩ c

/-- Stops with a problem that has no place yet; whoever reports it gives it one. -/
def unplaced {α : Type} (c : Cursor) (p : Problem) : Read α := .stop ⟨p, none⟩ c

/-- Takes the next byte and stops with a problem of it. -/
def refuseTaken {α : Type} (c : Cursor) (p : Problem) : Read α :=
  .stop ⟨p, some c.ahead⟩ ⟨c.rest.drop 1, c.ahead⟩

end Cursor

/-! ### Blanks -/

/-- The four blanks of JSON. -/
def isJsonBlank (c : Char) : Bool := c == ' ' || c == '\n' || c == '\t' || c == '\r'

def blanksFrom : List Char → Position → Cursor
  | [], p => ⟨[], p⟩
  | c :: rest, p => if isJsonBlank c then blanksFrom rest (p.after c) else ⟨c :: rest, p⟩

def Cursor.skipBlanks (c : Cursor) : Cursor := blanksFrom c.rest c.place

end LoadOrder.Json
