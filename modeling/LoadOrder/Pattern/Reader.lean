/-
  LoadOrder/Pattern/Reader.lean
  =============================
  **Whether a text is a pattern that can be matched.**

  The reader goes through a pattern once.  It keeps the groups that are still open,
  innermost first, and of each the depths of what has been read, because a pattern
  may only be nested so deep.  A flag holds to the end of the group in which it is
  set.

  A pattern is itself written between braces, so a brace that it opens is never
  closed.  What would need a pair of them (a number of times, a code of any length,
  a property by its name) is therefore never complete, and no such thing is read
  here.
-/
import LoadOrder.Pattern.CharSet
import LoadOrder.Text.Alphanumeric

namespace LoadOrder.Pattern

/-! ### Groups -/

/-- A part of a pattern: its depth, and whether it may be repeated. -/
structure Part where
  depth : Nat
  repeatable : Bool := true
deriving DecidableEq, Repr

/-- What has been read of a group: the depths of the alternatives before the last bar, and
    the parts behind it, latest first. -/
structure Row where
  alternatives : List Nat := []
  parts : List Part := []
deriving DecidableEq, Repr

def Row.lastDepth (r : Row) : Nat := rowDepth (r.parts.map Part.depth)

def Row.depth (r : Row) : Nat := rowDepth (r.lastDepth :: r.alternatives)

/-- How far a pattern has been read: the mode and the row of the innermost open group, those
    of the groups around it, the names that groups have been given, and whether the end of a
    word has been asked for outside ASCII. -/
structure State where
  mode : Mode := {}
  row : Row := {}
  outer : List (Mode × Row) := []
  names : List (List Char) := []
  wordEnds : Bool := false
deriving DecidableEq, Repr

namespace State

def add (s : State) (part : Part) : State :=
  { s with row := { s.row with parts := part :: s.row.parts } }

/-- Adds a piece, if it can be matched. -/
def addPiece (s : State) (piece : Piece) : Option State :=
  if s.mode.allows piece then
    some { s.add { depth := 0 } with
      wordEnds := s.wordEnds || (piece == .place true && s.mode.unicode) }
  else none

def times (s : State) : Option State :=
  match s.row.parts with
  | [] => none
  | part :: parts =>
    if part.repeatable then
      some { s with row := { s.row with parts := { depth := part.depth + 1 } :: parts } }
    else none

def bar (s : State) : State :=
  { s with row := { alternatives := s.row.lastDepth :: s.row.alternatives } }

def opening (s : State) (mode : Mode) : State :=
  { s with mode, row := {}, outer := (s.mode, s.row) :: s.outer }

def closing (s : State) : Option State :=
  match s.outer with
  | [] => none
  | (mode, row) :: outer =>
    some (({ s with mode, row, outer }).add { depth := 1 + s.row.depth })

/-- Changes the mode of the rest of a group. -/
def turn (s : State) (mode : Mode) : State :=
  { s.add { depth := 0, repeatable := false } with mode }

end State

/-! ### What opens a group -/

/-- Reads flags up to the `:` or `)` behind them, and says which are set and which are
    cleared.  A flag is named once at most; those behind a `-` are cleared, and there must
    be one. -/
def readFlags (flags : List (Char × Bool)) (clearing dangling : Bool) :
    List Char → Option (List (Char × Bool) × List Char)
  | [] => none
  | c :: rest =>
    if c = ':' ∨ c = ')' then if dangling then none else some (flags, c :: rest)
    else if c = '-' then if clearing then none else readFlags flags true true rest
    else if flagLetters.contains c && (flags.lookup c).isNone then
      readFlags ((c, !clearing) :: flags) clearing false rest
    else none

def isGroupName : List Char → Bool
  | [] => false
  | first :: rest =>
    (first == '_' || Text.isAlphabetic first)
      && rest.all fun c => c == '_' || c == '.' || c == '[' || c == ']' || Text.isAlphanumeric c

/-- Reads the name of a group up to the closing angle.  No two groups have the same. -/
def State.readName (s : State) (text : List Char) : Option (State × List Char) :=
  let name := text.takeWhile fun c => c != '>'
  match text.drop name.length with
  | _ :: rest =>
    if isGroupName name && !s.names.contains name then
      some ({ s.opening s.mode with names := name :: s.names }, rest)
    else none
  | [] => none

/-- Reads what stands behind an opening parenthesis. -/
def State.readOpening (s : State) : List Char → Option (State × List Char)
  | '?' :: 'P' :: '<' :: rest => s.readName rest
  | '?' :: '<' :: rest => s.readName rest
  | '?' :: rest =>
    match readFlags [] false false rest with
    | some (flags, ':' :: rest) => some (s.opening (s.mode.set flags), rest)
    | some (flags, _ :: rest) => if flags = [] then none else some (s.turn (s.mode.set flags), rest)
    | _ => none
  | rest => some (s.opening s.mode, rest)

/-! ### The whole pattern -/

/-- Reads what begins with a character, given what stands behind it. -/
def State.step (s : State) (c : Char) (rest : List Char) : Option (State × List Char) :=
  match c with
  | '(' => s.readOpening (s.mode.skip rest)
  | ')' => s.closing.map fun s => (s, rest)
  | '|' => some (s.bar, rest)
  | '[' => (s.mode.readSet rest).map fun r => (s.add { depth := r.1 }, r.2)
  | '?' | '*' | '+' =>
    s.times.map fun s => (s, if rest.head? = some '?' then rest.drop 1 else rest)
  | '\x7b' => none
  | '.' => (s.addPiece .any).map fun s => (s, rest)
  | '^' | '$' => (s.addPiece (.place false)).map fun s => (s, rest)
  | '\\' => (s.mode.readEscape rest).bind fun r => (s.addPiece r.1).map fun s => (s, r.2)
  | _ => (s.addPiece (.letter c false)).map fun s => (s, rest)

/-- Reads the rest of a pattern, in at most as many rounds as the first argument has
    elements. -/
def State.read (rounds : List Char) (s : State) (text : List Char) : Option State :=
  match s.mode.skip text with
  | [] => some s
  | c :: rest =>
    match rounds with
    | [] => none
    | _ :: rounds =>
      match s.step c rest with
      | some (s, rest) => s.read rounds rest
      | none => none

/-- What keeps a text from being matched as a pattern, if anything does. -/
def fault? (text : List Char) : Option Fault :=
  match State.read text {} text with
  | none => some .unusable
  | some s =>
    if s.outer ≠ [] || maxDepth < s.row.depth then some .unusable
    else if s.wordEnds then some .wordEnds
    else none

end LoadOrder.Pattern
