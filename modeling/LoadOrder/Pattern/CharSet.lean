/-
  LoadOrder/Pattern/CharSet.lean
  ==============================
  **Sets of characters between brackets.**

  A set lists characters, ranges, kinds, classes of ASCII by name, and further
  sets, and two lists may be joined by `&&`, `--` or `~~`.  Sets can be nested, so
  the reader keeps the sets that are still open, innermost first.
-/
import LoadOrder.Pattern.Basic

namespace LoadOrder.Pattern

/-! ### Members -/

def Mode.readPiece (m : Mode) : List Char → Option (Piece × List Char)
  | [] => none
  | '\\' :: rest => m.readEscape rest
  | c :: rest => some (.letter c false, rest)

def Mode.allowsRange (m : Mode) (first last : Piece) : Bool :=
  match first, last with
  | .letter a _, .letter b _ =>
    decide (a.toNat ≤ b.toNat) && m.allowsMember first && m.allowsMember last
  | _, _ => false

/-- Reads a character, a kind or a range, and gives what is left.  A `-` in front of the
    closing bracket or of another `-` makes no range. -/
def Mode.readMember (m : Mode) (text : List Char) : Option (List Char) :=
  match m.readPiece text with
  | none => none
  | some (first, rest) =>
    match m.skip rest with
    | [] => none
    | '-' :: after =>
      if m.glance after = some ']' || m.glance after = some '-' then
        if m.allowsMember first then some ('-' :: after) else none
      else
        match m.readPiece (m.skip after) with
        | some (last, rest) => if m.allowsRange first last then some rest else none
        | none => none
    | rest => if m.allowsMember first then some rest else none

def classNames : List String :=
  ["alnum", "alpha", "ascii", "blank", "cntrl", "digit", "graph", "lower", "print", "punct",
   "space", "upper", "word", "xdigit"]

/-- Reads a class behind its opening bracket, such as `:alpha:]`: whether it is negated,
    and what is left.  What is no class begins a set. -/
def readClass? : List Char → Option (Bool × List Char)
  | ':' :: rest =>
    let negated := rest.head? == some '^'
    let rest := if negated then rest.drop 1 else rest
    let name := rest.takeWhile fun c => c != ':'
    match rest.drop name.length with
    | ':' :: ']' :: after =>
      if classNames.contains (String.ofList name) then some (negated, after) else none
    | _ => none
  | _ => none

/-! ### Open sets -/

/-- A set that is still open: the depths of its members, the depth of what stands left of
    its last operator, and whether only the first characters of it have been read, where
    `-` and `]` stand for themselves. -/
structure OpenSet where
  negated : Bool
  members : List Nat := []
  left : Option Nat := none
  fresh : Bool := true

namespace OpenSet

def depth (s : OpenSet) : Nat :=
  match s.left with
  | none => rowDepth s.members
  | some left => 1 + Nat.max left (rowDepth s.members)

def add (s : OpenSet) (depth : Nat) : OpenSet :=
  { s with members := depth :: s.members, fresh := false }

def join (s : OpenSet) : OpenSet :=
  { s with left := some s.depth, members := [], fresh := false }

/-- Whether a character stands for itself because a set has only just begun. -/
def takesPlainly (s : OpenSet) (c : Char) : Bool :=
  s.fresh && (c == '-' || c == ']' && s.members.isEmpty)

end OpenSet

/-- Begins a set behind its opening bracket. -/
def Mode.openSet (m : Mode) (text : List Char) : OpenSet × List Char :=
  match m.skip text with
  | '^' :: rest => ({ negated := true }, rest)
  | rest => ({ negated := false }, rest)

/-- Whether two of a character join two lists of a set. -/
def isJoint (c : Char) : Bool := c == '&' || c == '-' || c == '~'

/-! ### Reading a set -/

/-- Reads the rest of a set and of the sets around it: the depth of the outermost one, and
    what is left.  Each round takes at least one character, so the characters that are left
    bound the rounds: the first argument has one element for each round. -/
def Mode.setRounds (m : Mode) :
    List Char → OpenSet → List OpenSet → List Char → Option (Nat × List Char)
  | [], _, _, _ => none
  | _ :: rounds, now, outer, text =>
    match m.skip text with
    | [] => none
    | c :: rest =>
      if now.takesPlainly c then
        if m.allowsMember (.letter c false) then
          m.setRounds rounds { now.add 0 with fresh := c == '-' } outer rest
        else none
      else if c = '[' then
        match readClass? rest with
        | some (negated, after) =>
          if m.allowsClass negated then m.setRounds rounds (now.add 0) outer after else none
        | none =>
          let (inner, inside) := m.openSet rest
          m.setRounds rounds inner ({ now with fresh := false } :: outer) inside
      else if c = ']' then
        if m.allowsSet now.negated then
          match outer with
          | [] => some (1 + now.depth, rest)
          | around :: outer => m.setRounds rounds (around.add (1 + now.depth)) outer rest
        else none
      else if isJoint c && rest.head? == some c then
        m.setRounds rounds now.join outer (rest.drop 1)
      else
        match m.readMember (c :: rest) with
        | some rest => m.setRounds rounds (now.add 0) outer rest
        | none => none

/-- Reads a set behind its opening bracket: its depth, and what is left. -/
def Mode.readSet (m : Mode) (text : List Char) : Option (Nat × List Char) :=
  let (first, inside) := m.openSet text
  m.setRounds text first [] inside

end LoadOrder.Pattern
