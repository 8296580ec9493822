/-
  LoadOrder/Json/Basic.lean
  =========================
  **JSON values, and the order of an object's members.**

  A value as it is read keeps the members of an object in the order of the text,
  repeated keys included.  `canonical` turns that into the form in which the rest
  of the library looks at values: members sorted by key, and of a repeated key
  only the last one.  Keys are ordered by code point, which is the order of
  their UTF-8 bytes.

  Whole numbers and doubles are different values: `1` and `1.0` are written
  differently, and a field that wants a whole number takes only the first.
-/
import LoadOrder.Numeric.Binary64

namespace LoadOrder

open Numeric

inductive Json where
  | null
  | bool (b : Bool)
  | int (n : Int)
  | real (x : Binary64)
  | text (s : String)
  | list (items : List Json)
  | object (members : List (String × Json))
deriving Repr, BEq, Inhabited

namespace Json

/-! ### Members -/

/-- The members of an object, each key with its value. -/
abbrev Members := List (String × Json)

/-- Puts a member into sorted members, unless its key is there already. -/
def insertNew (key : String) (value : Json) : Members → Members
  | [] => [(key, value)]
  | m :: rest =>
    if key < m.1 then (key, value) :: m :: rest
    else if key = m.1 then m :: rest
    else m :: insertNew key value rest

def lookup (key : String) : Members → Option Json
  | [] => none
  | m :: rest => if m.1 = key then some m.2 else lookup key rest

/-! ### The canonical form -/

mutual
/-- The value with the members of every object sorted by key; of a repeated key
    the last member stays. -/
def canonical : Json → Json
  | .list items => .list (canonicalList items)
  | .object members => .object (canonicalMembers members)
  | other => other
termination_by structural v => v

def canonicalList : List Json → List Json
  | [] => []
  | v :: rest => canonical v :: canonicalList rest
termination_by structural vs => vs

def canonicalMembers : List (String × Json) → List (String × Json)
  | [] => []
  | m :: rest => insertNew (canonicalMember m).1 (canonicalMember m).2 (canonicalMembers rest)
termination_by structural ms => ms

def canonicalMember : String × Json → String × Json
  | (key, v) => (key, canonical v)
termination_by structural m => m
end

/-! ### Looking inside -/

/-- The member of an object under a key; other values have no members. -/
def member? (v : Json) (key : String) : Option Json :=
  match v with
  | .object members => lookup key members
  | _ => none

def asText? : Json → Option String
  | .text s => some s
  | _ => none

end Json

end LoadOrder
