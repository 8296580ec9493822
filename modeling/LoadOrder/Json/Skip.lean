/-
  LoadOrder/Json/Skip.lean
  ========================
  **Stepping over a value that nobody wants.**

  A record has fields that its reader does not know.  Their values are walked over
  without being built, which is cheaper and also more generous: brackets may be
  nested to any depth, and a number may be out of range.  What was opened is kept
  in a list, the innermost first.

  The faults differ a little from those of a reader that builds the value: after a
  comma a list must go on with a value and an object with a key, whatever closing
  bracket stands there.
-/
import LoadOrder.Json.Reader

namespace LoadOrder.Json.Cursor

/-! ### Scalars -/

def dropDigits (c : Cursor) : Cursor := (skipDigits c.rest c.place 0).2

/-- Takes the next byte, if there is one, and stops with a bad number. -/
def refuseNumber {α : Type} (c : Cursor) : Read α :=
  match c.rest with
  | [] => c.fail .invalidNumber
  | _ :: _ => c.refuseTaken .invalidNumber

def skipSomeDigits (c : Cursor) : Read Unit :=
  if c.atDigit then .done () c.dropDigits else c.refuseNumber

def skipExponent (c : Cursor) : Read Unit :=
  match c.step.rest with
  | '+' :: _ => c.step.step.skipSomeDigits
  | '-' :: _ => c.step.step.skipSomeDigits
  | _ => c.step.skipSomeDigits

def skipExponentIf (c : Cursor) : Read Unit := if c.atExponent then c.skipExponent else .done () c

def skipNumber (c : Cursor) : Read Unit :=
  match c.rest with
  | [] => c.fail .invalidNumber
  | ch :: _ =>
    if ch.isDigit = false then c.refuseNumber
    else if ch = '0' ∧ c.step.atDigit then c.step.refuse .invalidNumber
    else
      let c := c.dropDigits
      match c.rest with
      | '.' :: _ =>
        if c.step.atDigit then c.step.dropDigits.skipExponentIf
        else c.step.refuse .invalidNumber
      | _ => c.skipExponentIf

def skipCodeUnit (c : Cursor) : Read Unit := c.codeUnit.map fun _ => ()

/-- Steps over a text up to its closing quote, in at most as many rounds as the
    first argument has elements.  Escapes are checked one by one, not in pairs. -/
def skipTextRounds : List Char → Cursor → Read Unit
  | [], c => c.fail .endInText
  | _ :: rounds, c =>
    match c.rest with
    | [] => c.fail .endInText
    | ch :: _ =>
      if ch = '"' then .done () c.step
      else if ch = '\\' then
        match c.step.rest with
        | [] => c.step.fail .endInText
        | kind :: _ =>
          if (shortEscape? kind).isSome then skipTextRounds rounds c.step.step
          else if kind = 'u' then
            match c.step.step.skipCodeUnit with
            | .done _ next => skipTextRounds rounds next
            | .stop fault next => .stop fault next
          else c.step.refuseTaken .invalidEscape
      else if ch.toNat < 0x20 then c.fail .controlCharacter
      else skipTextRounds rounds c.step

def skipText (c : Cursor) : Read Unit := skipTextRounds ('"' :: c.rest) c

/-! ### Values -/

inductive Bracket where
  | list
  | object
deriving DecidableEq, Repr

def Bracket.close : Bracket → Char
  | .list => ']'
  | .object => '\x7d'

def Bracket.ended : Bracket → Problem
  | .list => .endInList
  | .object => .endInObject

/-- The problem of something else than a comma or the closing bracket. -/
def Bracket.unseparated : Bracket → Problem
  | .list => .commaOrBracketExpected
  | .object => .commaOrBraceExpected

/-- Steps over a scalar or over the bracket that opens a value; the result is the
    bracket. -/
def skipStart (c : Cursor) : Read (Option Bracket) :=
  let c := c.skipBlanks
  match c.rest with
  | [] => c.refuse .endInValue
  | ch :: _ =>
    if ch = 'n' then (word ['u', 'l', 'l'] c.step).map fun _ => none
    else if ch = 't' then (word ['r', 'u', 'e'] c.step).map fun _ => none
    else if ch = 'f' then (word ['a', 'l', 's', 'e'] c.step).map fun _ => none
    else if ch = '-' then c.step.skipNumber.map fun _ => none
    else if ch.isDigit then c.skipNumber.map fun _ => none
    else if ch = '"' then c.step.skipText.map fun _ => none
    else if ch = '[' then .done (some .list) c.step
    else if ch = '\x7b' then .done (some .object) c.step
    else c.refuse .valueExpected

/-- Steps over the key and the colon that a member of an object begins with. -/
def skipKey (c : Cursor) : Read Unit :=
  let c := c.skipBlanks
  match c.rest with
  | [] => c.refuse .endInObject
  | '"' :: _ => c.step.skipText.andThen fun _ c => c.colon
  | _ => c.refuse .keyNotText

/-- Steps over the start of an item inside a bracket. -/
def skipItem (b : Bracket) (c : Cursor) : Read (Option Bracket) :=
  match b with
  | .list => c.skipStart
  | .object => c.skipKey.andThen fun _ c => c.skipStart

/-- Steps over what is left of the open brackets, in at most as many rounds as the
    first argument has elements.  `behind` says whether an item has just ended. -/
def skipRounds : List Char → Bool → List Bracket → Cursor → Read Unit
  | _, _, [], c => .done () c
  | [], _, _ :: _, c => c.refuse .endInValue
  | _ :: rounds, behind, b :: outer, c =>
    let c := c.skipBlanks
    match c.rest with
    | [] => c.refuse b.ended
    | ch :: _ =>
      if ch = ',' ∧ behind then
        match c.step.skipItem b with
        | .done none c => skipRounds rounds true (b :: outer) c
        | .done (some inner) c => skipRounds rounds false (inner :: b :: outer) c
        | .stop fault c => .stop fault c
      else if ch = b.close then skipRounds rounds true outer c.step
      else if behind then c.refuse b.unseparated
      else
        match c.skipItem b with
        | .done none c => skipRounds rounds true (b :: outer) c
        | .done (some inner) c => skipRounds rounds false (inner :: b :: outer) c
        | .stop fault c => .stop fault c

def skipValue (c : Cursor) : Read Unit :=
  match c.skipStart with
  | .done none next => .done () next
  | .done (some b) next => skipRounds (',' :: next.rest) false [b] next
  | .stop fault next => .stop fault next

end LoadOrder.Json.Cursor
