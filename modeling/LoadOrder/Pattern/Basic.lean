/-
  LoadOrder/Pattern/Basic.lean
  ============================
  **What a pattern is made of.**

  A pattern is a regular expression for the text of a value.  The program has no
  value that a pattern could be held against, but it complains about a text that
  is no pattern.  So these modules read a pattern for one purpose: to find out
  whether it could be matched at all.

  A pattern may be well formed and still ask for too much.  No knowledge of
  scripts stands behind it, so the kinds of characters (`\d`), characters in
  either case and the ends of words are there for ASCII alone, that is, where the
  pattern has left Unicode by `(?-u)`.  There, on the other hand, nothing may
  match a part of a character, as any byte or all bytes but some would.
-/
import LoadOrder.Text.Blank
import LoadOrder.Text.Quoted

namespace LoadOrder.Pattern

/-! ### Faults -/

/-- Why a text cannot be used as a pattern. -/
inductive Fault where
  | unusable
  | wordEnds
deriving DecidableEq, Repr

def Fault.text : Fault → String
  | .unusable => "error building NFA"
  | .wordEnds =>
    "unsupported regex feature for DFAs: cannot build DFAs for regexes with Unicode word "
      ++ "boundaries; switch to ASCII word boundaries, or heuristically enable Unicode word "
      ++ "boundaries or use a different regex engine"

/-! ### Modes -/

/-- The way in which a part of a pattern is to be read: whether its letters stand for
    both cases, whether it is about characters or about ASCII, and whether blanks and
    remarks may stand between its pieces. -/
structure Mode where
  anyCase : Bool := false
  unicode : Bool := true
  spaced : Bool := false
deriving DecidableEq, Repr

/-- The flags that a pattern may set; four of them change what matches, but not whether
    it can be matched. -/
def flagLetters : List Char := ['i', 'm', 's', 'U', 'u', 'R', 'x']

def Mode.set (m : Mode) (flags : List (Char × Bool)) : Mode where
  anyCase := (flags.lookup 'i').getD m.anyCase
  unicode := (flags.lookup 'u').getD m.unicode
  spaced := (flags.lookup 'x').getD m.spaced

/-- The text behind blanks and remarks; a remark goes from a `#` to the end of its line. -/
def skipRemarks (inRemark : Bool) : List Char → List Char
  | [] => []
  | c :: rest =>
    if inRemark then skipRemarks (c != '\n') rest
    else if Text.isBlank c then skipRemarks false rest
    else if c = '#' then skipRemarks true rest
    else c :: rest

/-- The text behind what may stand between two pieces. -/
def Mode.skip (m : Mode) (text : List Char) : List Char :=
  if m.spaced then skipRemarks false text else text

/-- The next character that is not blank.  It may be the first one of a remark. -/
def Mode.glance (m : Mode) (text : List Char) : Option Char :=
  if m.spaced then
    match Text.trimFront text with
    | '#' :: remark => (Text.trimFront remark).head?
    | ahead => ahead.head?
  else text.head?

/-! ### Pieces -/

/-- A piece of a pattern that is not made of others: a character, perhaps given as a
    byte; a kind of characters, or all others; any character; or a place between
    characters, perhaps at the end of a word. -/
inductive Piece where
  | letter (char : Char) (asByte : Bool)
  | kind (negated : Bool)
  | any
  | place (wordEnd : Bool)
deriving DecidableEq, Repr

def isAscii (c : Char) : Bool := decide (c.toNat < 0x80)

def Mode.allows (m : Mode) : Piece → Bool
  | .letter c asByte => if m.unicode then !m.anyCase else !asByte || isAscii c
  | .kind negated => !m.unicode && !negated
  | .any => m.unicode
  | .place _ => true

def Mode.allowsMember (m : Mode) : Piece → Bool
  | .letter c _ => if m.unicode then !m.anyCase else isAscii c
  | .kind negated => !m.unicode && !negated
  | .any => false
  | .place _ => false

/-- Whether a class of ASCII characters, or all others, can be a member of a set. -/
def Mode.allowsClass (m : Mode) (negated : Bool) : Bool :=
  if m.unicode then !m.anyCase else !negated

/-- Whether a set, or all characters but those of it, can be matched. -/
def Mode.allowsSet (m : Mode) (negated : Bool) : Bool := m.unicode || !negated

/-! ### Escapes -/

/-- The characters that have a letter of their own behind a backslash. -/
def controlLetters : List (Char × Char) :=
  [('a', '\x07'), ('f', '\x0c'), ('t', '\t'), ('n', '\n'), ('r', '\r'), ('v', '\x0b')]

/-- Whether a backslash only takes a meaning away.  Letters and digits are kept for
    escapes, and so are the angles. -/
def isPlainEscape (c : Char) : Bool := isAscii c && !c.isAlphanum && c != '<' && c != '>'

/-- Reads a number of hexadecimal digits onto a value. -/
def Mode.readHex (m : Mode) : Nat → Nat → List Char → Option (Nat × List Char)
  | 0, value, text => some (value, text)
  | digits + 1, value, text =>
    match m.skip text with
    | [] => none
    | c :: rest =>
      match Text.hexDigit? c with
      | some d => m.readHex digits (16 * value + d) rest
      | none => none

def Mode.readCode (m : Mode) (digits : Nat) (asByte : Bool) (text : List Char) :
    Option (Piece × List Char) :=
  match m.readHex digits 0 text with
  | some (code, rest) =>
    if code < 0xD800 || (0xE000 ≤ code && code < 0x110000) then
      some (.letter (Char.ofNat code) asByte, rest)
    else none
  | none => none

/-- Reads what stands behind a backslash. -/
def Mode.readEscape (m : Mode) : List Char → Option (Piece × List Char)
  | [] => none
  | c :: rest =>
    match c with
    | 'x' => m.readCode 2 true rest
    | 'u' => m.readCode 4 false rest
    | 'U' => m.readCode 8 false rest
    | 'd' | 's' | 'w' => some (.kind false, rest)
    | 'D' | 'S' | 'W' => some (.kind true, rest)
    | 'A' | 'z' => some (.place false, rest)
    | 'b' | 'B' | '<' | '>' => some (.place true, rest)
    | _ =>
      match controlLetters.lookup c with
      | some control => some (.letter control false, rest)
      | none => if isPlainEscape c then some (.letter c false, rest) else none

/-! ### Nesting -/

/-- How deep a pattern may be nested. -/
def maxDepth : Nat := 250

/-- The depth of parts side by side.  Two or more parts are a level of their own. -/
def rowDepth (parts : List Nat) : Nat :=
  match parts with
  | [] => 0
  | [only] => only
  | _ => 1 + parts.foldl Nat.max 0

end LoadOrder.Pattern
