/-
  LoadOrder/Json/Fault.lean
  =========================
  **What can be wrong with a JSON text or with the value it stands for.**

  A fault is a cause and, where it was met while walking through a text, the
  place in that text.  Faults of a value that has been read already have no
  place.  The wording is one function of the cause (`Problem.message`), so that
  a caller compares causes and only a person reads texts.
-/
import LoadOrder.Json.Basic
import LoadOrder.Numeric.Shortest
import LoadOrder.Text.Quoted
import LoadOrder.Text.Search

namespace LoadOrder.Json

open Numeric

/-- A place in a text: the line, counted from one, and the number of bytes since
    the last line break. -/
structure Position where
  line : Nat
  column : Nat
deriving DecidableEq, Repr, Inhabited

/-- What stands where something else was wanted. -/
inductive Found where
  | null
  | bool (b : Bool)
  | int (n : Int)
  | real (x : Binary64)
  | text (s : String)
  | list
  | map
deriving DecidableEq, Repr

/-- What a value is, seen from a place that wanted something else. -/
def found : Json → Found
  | .null => .null
  | .bool b => .bool b
  | .int n => .int n
  | .real x => .real x
  | .text s => .text s
  | .list _ => .list
  | .object _ => .map

/-- The cause of a fault.  The first group is about the text itself, the second
    about the value. -/
inductive Problem where
  | endInValue
  | endInList
  | endInObject
  | endInText
  | valueExpected
  | wordExpected
  | colonExpected
  | commaOrBracketExpected
  | commaOrBraceExpected
  | trailingComma
  | trailingCharacters
  | keyNotText
  | invalidNumber
  | numberOutOfRange
  | invalidEscape
  | unfinishedSurrogatePair
  | loneSurrogate
  | controlCharacter
  | tooDeep
  | wrongType (it : Found) (wanted : String)
  | wrongValue (it : Found) (wanted : String)
  | wrongLength (length : Nat) (wanted : String)
  | unknownVariant (name : String) (known : List String)
  | missingField (name : String)
  | duplicateField (name : String)
deriving DecidableEq, Repr

/-- A problem and its place, if it has one. -/
structure Fault where
  problem : Problem
  place : Option Position := none
deriving DecidableEq, Repr

/-! ### Wording -/

/-- A name between the marks that messages put around names. -/
def marked (s : String) : String := "\x60" ++ s ++ "\x60"

def Found.describe : Found → String
  | .null => "null"
  | .bool b => "boolean " ++ marked (if b then "true" else "false")
  | .int n => "integer " ++ marked (toString n)
  | .real x => "floating point " ++ marked x.text
  | .text s => "string " ++ Text.quoted s
  | .list => "sequence"
  | .map => "map"

def Problem.message : Problem → String
  | .endInValue => "EOF while parsing a value"
  | .endInList => "EOF while parsing a list"
  | .endInObject => "EOF while parsing an object"
  | .endInText => "EOF while parsing a string"
  | .valueExpected => "expected value"
  | .wordExpected => "expected ident"
  | .colonExpected => "expected " ++ marked ":"
  | .commaOrBracketExpected => "expected " ++ marked "," ++ " or " ++ marked "]"
  | .commaOrBraceExpected => "expected " ++ marked "," ++ " or " ++ marked "\x7d"
  | .trailingComma => "trailing comma"
  | .trailingCharacters => "trailing characters"
  | .keyNotText => "key must be a string"
  | .invalidNumber => "invalid number"
  | .numberOutOfRange => "number out of range"
  | .invalidEscape => "invalid escape"
  | .unfinishedSurrogatePair => "unexpected end of hex escape"
  | .loneSurrogate => "lone leading surrogate in hex escape"
  | .controlCharacter =>
    "control character (\\u0000-\\u001F) found while parsing a string"
  | .tooDeep => "recursion limit exceeded"
  | .wrongType it wanted => "invalid type: " ++ it.describe ++ ", expected " ++ wanted
  | .wrongValue it wanted => "invalid value: " ++ it.describe ++ ", expected " ++ wanted
  | .wrongLength n wanted => "invalid length " ++ toString n ++ ", expected " ++ wanted
  | .unknownVariant name known =>
    "unknown variant " ++ marked name ++ ", expected one of "
      ++ Text.joined ", " (known.map marked)
  | .missingField name => "missing field " ++ marked name
  | .duplicateField name => "duplicate field " ++ marked name

def Position.describe (p : Position) : String :=
  " at line " ++ toString p.line ++ " column " ++ toString p.column

/-- The text of a fault; a fault of a text ends in its place. -/
def Fault.message (f : Fault) : String :=
  f.problem.message ++ (match f.place with | some p => p.describe | none => "")

/-- The fault at a place, unless it has one of its own. -/
def Fault.placedAt (f : Fault) (p : Position) : Fault :=
  match f.place with
  | some _ => f
  | none => ⟨f.problem, some p⟩

end LoadOrder.Json
