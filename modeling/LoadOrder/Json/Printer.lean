/-
  LoadOrder/Json/Printer.lean
  ===========================
  **Writing JSON values, in one line or over several.**

  The short form has no blanks at all; the wide form puts each item on a line of
  its own, two blanks further in than the bracket that holds it, and leaves an
  empty list or object on one line.  Inside a text only what must be escaped is
  escaped: the quote, the backslash and the controls.
-/
import LoadOrder.Json.Basic
import LoadOrder.Numeric.Shortest
import LoadOrder.Text.Search

namespace LoadOrder.Json

open Numeric

/-! ### Leaves -/

def hexDigitOf (n : Nat) : Char := Nat.digitChar n

def escapedChar (c : Char) : List Char :=
  if c = '"' then ['\\', '"']
  else if c = '\\' then ['\\', '\\']
  else if c = '\x08' then ['\\', 'b']
  else if c = '\x0c' then ['\\', 'f']
  else if c = '\n' then ['\\', 'n']
  else if c = '\r' then ['\\', 'r']
  else if c = '\t' then ['\\', 't']
  else if c.toNat < 0x20 then
    ['\\', 'u', '0', '0', hexDigitOf (c.toNat / 16), hexDigitOf (c.toNat % 16)]
  else [c]

def textChars (s : String) : List Char := '"' :: s.toList.flatMap escapedChar ++ ['"']

def intChars (n : Int) : List Char :=
  if n < 0 then '-' :: digitsOf n.natAbs else digitsOf n.natAbs

def leafChars : Json → List Char
  | .null => ['n', 'u', 'l', 'l']
  | .bool true => ['t', 'r', 'u', 'e']
  | .bool false => ['f', 'a', 'l', 's', 'e']
  | .int n => intChars n
  | .real x => x.text.toList
  | .text s => textChars s
  | .list _ => []
  | .object _ => []

/-! ### The short form -/

mutual
/-- The characters of a value, without blanks. -/
def chars : Json → List Char
  | .list items => '[' :: (charsOfList items ++ [']'])
  | .object members => '\x7b' :: (charsOfMembers members ++ ['\x7d'])
  | leaf => leafChars leaf
termination_by structural v => v

def charsOfList : List Json → List Char
  | [] => []
  | v :: rest => chars v ++ charsOfMore rest
termination_by structural vs => vs

def charsOfMore : List Json → List Char
  | [] => []
  | v :: rest => ',' :: (chars v ++ charsOfMore rest)
termination_by structural vs => vs

def charsOfMembers : List (String × Json) → List Char
  | [] => []
  | m :: rest => charsOfMember m ++ charsOfMoreMembers rest
termination_by structural ms => ms

def charsOfMoreMembers : List (String × Json) → List Char
  | [] => []
  | m :: rest => ',' :: (charsOfMember m ++ charsOfMoreMembers rest)
termination_by structural ms => ms

def charsOfMember : String × Json → List Char
  | (key, v) => textChars key ++ ':' :: chars v
termination_by structural m => m
end

def compact (v : Json) : String := String.ofList (chars v)

/-! ### The wide form -/

/-- A line break and the blanks of a depth. -/
def lineBreak (depth : Nat) : List Char := '\n' :: List.replicate (2 * depth) ' '

def closing (depth : Nat) (empty : Bool) : List Char := if empty then [] else lineBreak depth

mutual
/-- The characters of a value over several lines, the first of which stands at
    `depth`. -/
def wideChars (depth : Nat) : Json → List Char
  | .list items => '[' :: (wideList (depth + 1) items ++ closing depth items.isEmpty ++ [']'])
  | .object members =>
    '\x7b' :: (wideMembers (depth + 1) members ++ closing depth members.isEmpty ++ ['\x7d'])
  | leaf => leafChars leaf
termination_by structural v => v

def wideList (depth : Nat) : List Json → List Char
  | [] => []
  | v :: rest => lineBreak depth ++ wideChars depth v ++ wideMore depth rest
termination_by structural vs => vs

def wideMore (depth : Nat) : List Json → List Char
  | [] => []
  | v :: rest => ',' :: (lineBreak depth ++ wideChars depth v ++ wideMore depth rest)
termination_by structural vs => vs

def wideMembers (depth : Nat) : List (String × Json) → List Char
  | [] => []
  | m :: rest => lineBreak depth ++ wideMember depth m ++ wideMoreMembers depth rest
termination_by structural ms => ms

def wideMoreMembers (depth : Nat) : List (String × Json) → List Char
  | [] => []
  | m :: rest => ',' :: (lineBreak depth ++ wideMember depth m ++ wideMoreMembers depth rest)
termination_by structural ms => ms

def wideMember (depth : Nat) : String × Json → List Char
  | (key, v) => textChars key ++ [':', ' '] ++ wideChars depth v
termination_by structural m => m
end

def wide (v : Json) : String := String.ofList (wideChars 0 v)

end LoadOrder.Json
