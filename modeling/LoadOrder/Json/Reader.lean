/-
  LoadOrder/Json/Reader.lean
  ==========================
  **Reading a JSON text.**

  One pass from left to right, without looking back: the first thing that cannot
  belong to a value is the fault, and its place is that of the byte at hand.
  Lists and objects may be nested `maxDepth` deep; the readers take the depth
  that is left as a number that goes down, so that each of them calls the reader
  of the values inside it with one less.

  `readText` gives the members of an object in the order of the text, and
  `parse` the canonical form of what was read.
-/
import LoadOrder.Json.Cursor

namespace LoadOrder.Json.Cursor

open Numeric

/-! ### Words -/

/-- Reads the rest of a word of which the first letter is known. -/
def word : List Char → Cursor → Read Unit
  | [], c => .done () c
  | letter :: letters, c =>
    match c.rest with
    | [] => c.fail .endInValue
    | ch :: _ => if ch = letter then word letters c.step else c.refuseTaken .wordExpected

/-! ### Numbers -/

/-- The greatest whole number a text may give digit by digit. -/
def maxWhole : Nat := 18446744073709551615

/-- The greatest exponent a text may give digit by digit. -/
def maxWrittenExponent : Nat := 2147483647

def digit? (c : Char) : Option Nat :=
  if c.isDigit then some (c.toNat - '0'.toNat) else none

/-- Reads digits onto `value` as long as it stays within `limit`: the value, the
    number of digits taken, and the cursor, which stands on a digit exactly if
    that digit was one too many. -/
def takeDigits (limit : Nat) : List Char → Position → Nat → Nat → Nat × Nat × Cursor
  | [], p, value, taken => (value, taken, ⟨[], p⟩)
  | ch :: rest, p, value, taken =>
    match digit? ch with
    | some d =>
      if value * 10 + d ≤ limit then
        takeDigits limit rest (p.after ch) (value * 10 + d) (taken + 1)
      else (value, taken, ⟨ch :: rest, p⟩)
    | none => (value, taken, ⟨ch :: rest, p⟩)

def skipDigits : List Char → Position → Nat → Nat × Cursor
  | [], p, n => (n, ⟨[], p⟩)
  | ch :: rest, p, n =>
    if ch.isDigit then skipDigits rest (p.after ch) (n + 1) else (n, ⟨ch :: rest, p⟩)

def atDigit (c : Cursor) : Bool :=
  match c.rest with
  | ch :: _ => ch.isDigit
  | [] => false

def atExponent (c : Cursor) : Bool :=
  match c.rest with
  | ch :: _ => ch == 'e' || ch == 'E'
  | [] => false

/-- The number with these digits and this exponent, read up to the cursor. -/
def realAt (negative : Bool) (digits : Nat) (exponent : Int) (c : Cursor) : Read Json :=
  match ofDecimal negative digits exponent with
  | some x => .done (.real x) c
  | none => c.fail .numberOutOfRange

/-- Reads the digits of an exponent.  One that is too long makes the number zero,
    or puts it out of range. -/
def exponentDigits (negative down : Bool) (digits : Nat) (exponent : Int) (c : Cursor) :
    Read Json :=
  match c.rest with
  | [] => c.fail .endInValue
  | ch :: _ =>
    if ch.isDigit then
      match takeDigits maxWrittenExponent c.rest c.place 0 0 with
      | (e, _, next) =>
        if next.atDigit then
          if digits ≠ 0 ∧ down = false then next.step.fail .numberOutOfRange
          else .done (.real ⟨negative, 0, minExponent⟩) (skipDigits next.rest next.place 0).2
        else realAt negative digits (if down then exponent - e else exponent + e) next
    else c.refuseTaken .invalidNumber

def exponent (negative : Bool) (digits : Nat) (before : Int) (c : Cursor) : Read Json :=
  match c.step.rest with
  | '+' :: _ => exponentDigits negative false digits before c.step.step
  | '-' :: _ => exponentDigits negative true digits before c.step.step
  | _ => exponentDigits negative false digits before c.step

/-- Reads the digits behind a point.  Those that no longer fit are dropped. -/
def fraction (negative : Bool) (digits : Nat) (before : Int) (c : Cursor) : Read Json :=
  match takeDigits maxWhole c.step.rest c.step.place digits 0 with
  | (sum, taken, next) =>
    let full := next.atDigit
    let next := (skipDigits next.rest next.place 0).2
    if !full && taken == 0 then
      match next.rest with
      | [] => next.refuse .endInValue
      | _ :: _ => next.refuse .invalidNumber
    else if next.atExponent then exponent negative sum (before - taken) next
    else realAt negative sum (before - taken) next

/-- The size of the least whole number that fits in 64 bits with a sign. -/
def maxNegative : Nat := 9223372036854775808

/-- The whole number with these digits.  What does not fit in 64 bits, and the
    negative zero, is a double. -/
def whole (negative : Bool) (digits : Nat) : Json :=
  if negative = false then .int digits
  else if digits ≠ 0 ∧ digits ≤ maxNegative then .int (-digits)
  else .real (ofWhole true digits)

/-- Reads a number behind its sign. -/
def number (negative : Bool) (c : Cursor) : Read Json :=
  match c.rest with
  | [] => c.fail .endInValue
  | ch :: _ =>
    if ch.isDigit = false then c.refuseTaken .invalidNumber
    else if ch = '0' ∧ c.step.atDigit then c.step.refuse .invalidNumber
    else
      match takeDigits maxWhole c.rest c.place 0 0 with
      | (digits, _, next) =>
        let full := next.atDigit
        let dropped := (skipDigits next.rest next.place 0).1
        let next := (skipDigits next.rest next.place 0).2
        match next.rest with
        | '.' :: _ => fraction negative digits dropped next
        | _ =>
          if next.atExponent then exponent negative digits dropped next
          else if full then realAt negative digits dropped next
          else .done (whole negative digits) next

/-! ### Texts -/

def hexFour? : List Char → Option Nat
  | [a, b, c, d] =>
    match Text.hexDigit? a, Text.hexDigit? b, Text.hexDigit? c, Text.hexDigit? d with
    | some a, some b, some c, some d => some (((a * 16 + b) * 16 + c) * 16 + d)
    | _, _, _, _ => none
  | _ => none

def codeUnit (c : Cursor) : Read Nat :=
  if Text.byteCount (c.rest.take 4) < 4 then c.atEnd.fail .endInText
  else
    let next : Cursor := ⟨c.rest.drop 4, Position.afterBytes 4 c.rest c.place⟩
    match hexFour? (c.rest.take 4) with
    | some n => .done n next
    | none => next.fail .invalidEscape

/-- Reads one character that must come next in a surrogate pair. -/
def pairMark (mark : Char) (c : Cursor) : Read Unit :=
  match c.rest with
  | [] => c.fail .endInText
  | ch :: _ => if ch = mark then .done () c.step else c.refuseTaken .unfinishedSurrogatePair

def lowSurrogate (high : Nat) (c : Cursor) : Read Char :=
  (pairMark '\\' c).andThen fun _ c =>
  (pairMark 'u' c).andThen fun _ c =>
  (codeUnit c).andThen fun low c =>
    if 0xDC00 ≤ low ∧ low ≤ 0xDFFF then
      .done (Char.ofNat ((high - 0xD800) * 0x400 + (low - 0xDC00) + 0x10000)) c
    else c.fail .loneSurrogate

/-- Reads a character given by its code, behind the `u`. -/
def codedChar (c : Cursor) : Read Char :=
  (codeUnit c).andThen fun n c =>
    if 0xDC00 ≤ n ∧ n ≤ 0xDFFF then c.fail .loneSurrogate
    else if 0xD800 ≤ n ∧ n ≤ 0xDBFF then lowSurrogate n c
    else .done (Char.ofNat n) c

def shortEscape? (c : Char) : Option Char :=
  match c with
  | '"' => some '"'
  | '\\' => some '\\'
  | '/' => some '/'
  | 'b' => some '\x08'
  | 'f' => some '\x0c'
  | 'n' => some '\n'
  | 'r' => some '\r'
  | 't' => some '\t'
  | _ => none

/-- Reads an escaped character, behind the backslash. -/
def escaped (c : Cursor) : Read Char :=
  match c.rest with
  | [] => c.fail .endInText
  | ch :: _ =>
    match shortEscape? ch with
    | some plain => .done plain c.step
    | none => if ch = 'u' then codedChar c.step else c.refuseTaken .invalidEscape

/-- Reads the characters of a text up to its closing quote.  Each round takes at
    least one character, so the characters that are left bound the rounds: the
    first argument is a list with one element for each round. -/
def textRounds : List Char → List Char → Cursor → Read String
  | [], _, c => c.fail .endInText
  | _ :: rounds, seen, c =>
    match c.rest with
    | [] => c.fail .endInText
    | ch :: _ =>
      if ch = '"' then .done (String.ofList seen.reverse) c.step
      else if ch = '\\' then
        match escaped c.step with
        | .done plain next => textRounds rounds (plain :: seen) next
        | .stop fault next => .stop fault next
      else if ch.toNat < 0x20 then c.refuseTaken .controlCharacter
      else textRounds rounds (ch :: seen) c.step

/-- Reads a text behind its opening quote. -/
def text (c : Cursor) : Read String := textRounds ('"' :: c.rest) [] c

/-! ### Lists and objects -/

/-- Reads what follows an item of a list, up to the closing bracket, in at most
    as many rounds as the first argument has elements. -/
def moreItems (item : Cursor → Read Json) : List Char → Cursor → Read (List Json)
  | [], c => c.refuse .endInList
  | _ :: rounds, c =>
    let c := c.skipBlanks
    match c.rest with
    | [] => c.refuse .endInList
    | ']' :: _ => .done [] c.step
    | ',' :: _ =>
      let c := c.step.skipBlanks
      match c.rest with
      | [] => c.refuse .endInValue
      | ']' :: _ => c.refuse .trailingComma
      | _ =>
        (item c).andThen fun v c => (moreItems item rounds c).map fun vs => v :: vs
    | _ => c.refuse .commaOrBracketExpected

def items (item : Cursor → Read Json) (c : Cursor) : Read (List Json) :=
  let c := c.skipBlanks
  match c.rest with
  | [] => c.refuse .endInList
  | ']' :: _ => .done [] c.step
  | _ =>
    (item c).andThen fun v c => (moreItems item (',' :: c.rest) c).map fun vs => v :: vs

def colon (c : Cursor) : Read Unit :=
  let c := c.skipBlanks
  match c.rest with
  | [] => c.refuse .endInObject
  | ':' :: _ => .done () c.step
  | _ => c.refuse .colonExpected

/-- Reads one member behind the quote that opens its key. -/
def member (item : Cursor → Read Json) (c : Cursor) : Read (String × Json) :=
  (text c).andThen fun key c =>
  (colon c).andThen fun _ c =>
  (item c).map fun v => (key, v)

/-- Reads what follows a member of an object, up to the closing brace, in at most
    as many rounds as the first argument has elements. -/
def moreMembers (item : Cursor → Read Json) : List Char → Cursor → Read Members
  | [], c => c.refuse .endInObject
  | _ :: rounds, c =>
    let c := c.skipBlanks
    match c.rest with
    | [] => c.refuse .endInObject
    | '\x7d' :: _ => .done [] c.step
    | ',' :: _ =>
      let c := c.step.skipBlanks
      match c.rest with
      | [] => c.refuse .endInValue
      | '"' :: _ =>
        (member item c.step).andThen fun m c =>
          (moreMembers item rounds c).map fun ms => m :: ms
      | '\x7d' :: _ => c.refuse .trailingComma
      | _ => c.refuse .keyNotText
    | _ => c.refuse .commaOrBraceExpected

def members (item : Cursor → Read Json) (c : Cursor) : Read Members :=
  let c := c.skipBlanks
  match c.rest with
  | [] => c.refuse .endInObject
  | '\x7d' :: _ => .done [] c.step
  | '"' :: _ =>
    (member item c.step).andThen fun m c =>
      (moreMembers item (',' :: c.rest) c).map fun ms => m :: ms
  | _ => c.refuse .keyNotText

/-! ### Values -/

/-- Reads a value.  `inner` reads the values inside a list or an object; without
    it there must be none. -/
def valueWith (inner : Option (Cursor → Read Json)) (c : Cursor) : Read Json :=
  let c := c.skipBlanks
  match c.rest with
  | [] => c.refuse .endInValue
  | ch :: _ =>
    if ch = 'n' then (word ['u', 'l', 'l'] c.step).map fun _ => .null
    else if ch = 't' then (word ['r', 'u', 'e'] c.step).map fun _ => .bool true
    else if ch = 'f' then (word ['a', 'l', 's', 'e'] c.step).map fun _ => .bool false
    else if ch = '-' then number true c.step
    else if ch.isDigit then number false c
    else if ch = '"' then (text c.step).map .text
    else if ch = '[' then
      match inner with
      | some item => (items item c.step).map .list
      | none => c.refuse .tooDeep
    else if ch = '\x7b' then
      match inner with
      | some item => (members item c.step).map .object
      | none => c.refuse .tooDeep
    else c.refuse .valueExpected

/-- Reads a value with at most `depth` lists and objects inside each other. -/
def value (depth : Nat) (c : Cursor) : Read Json :=
  match depth with
  | 0 => valueWith none c
  | depth + 1 => valueWith (some (value depth)) c


/-- Only blanks may follow. -/
def ending (c : Cursor) : Except Fault Unit :=
  match c.skipBlanks.rest with
  | [] => .ok ()
  | _ :: _ => .error ⟨.trailingCharacters, some c.skipBlanks.ahead⟩

end Cursor

/-! ### Whole texts -/

/-- How deep lists and objects may be nested. -/
def maxDepth : Nat := 127

/-- The value of a whole text, with the members of an object in the order of the
    text. -/
def readText (s : String) : Except Fault Json :=
  match (Cursor.ofText s).value maxDepth with
  | .stop fault _ => .error fault
  | .done v c =>
    match c.ending with
    | .ok _ => .ok v
    | .error fault => .error fault

/-- The canonical value of a whole text. -/
def parse (s : String) : Except Fault Json :=
  match readText s with
  | .ok v => .ok v.canonical
  | .error fault => .error fault

end LoadOrder.Json
