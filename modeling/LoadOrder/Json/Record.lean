/-
  LoadOrder/Json/Record.lean
  ==========================
  **Reading a record straight from a text.**

  Where a text is known to hold a record, its fields are read one by one as they
  come, each by a reader of its own (`FieldReader`), and the first fault ends the
  reading.  A record is written as an object, in any order and with fields that
  nobody knows, or as a list of its fields in their order, perhaps not all of
  them.  A field that does not come keeps the value it had before.

  A fault that has no place of its own gets the place the cursor stands at after
  one more attempt to close the record.
-/
import LoadOrder.Json.Skip

namespace LoadOrder.Json

structure FieldReader (σ : Type) where
  name : String
  read : σ → Cursor → Read σ

namespace Cursor

/-! ### Closing -/

def closeObject (c : Cursor) : Read Unit :=
  let c := c.skipBlanks
  match c.rest with
  | [] => c.refuse .endInObject
  | '\x7d' :: _ => .done () c.step
  | ',' :: _ => c.refuse .trailingComma
  | _ => c.refuse .trailingCharacters

def closeList (c : Cursor) : Read Unit :=
  let c := c.skipBlanks
  match c.rest with
  | [] => c.refuse .endInList
  | ']' :: _ => .done () c.step
  | ',' :: _ =>
    let c := c.step.skipBlanks
    match c.rest with
    | ']' :: _ => c.refuse .trailingComma
    | _ => c.refuse .trailingCharacters
  | _ => c.refuse .trailingCharacters

/-- Places a fault where the cursor stands. -/
def placed {α : Type} (r : Read α) : Read α :=
  match r with
  | .done v next => .done v next
  | .stop fault next => .stop (fault.placedAt next.place) next

/-- Closes a record behind its fields.  After a fault it is closed too, as far as
    that goes, and the fault is placed there. -/
def closeBehind {α : Type} (close : Cursor → Read Unit) (r : Read α) : Read α :=
  match r with
  | .done v next => (close next).map fun _ => v
  | .stop fault next => placed (.stop fault (close next).cursor)

/-! ### Fields of an object -/

/-- Steps over the value of a field that nobody knows. -/
def ignore {σ : Type} (_key : String) (v : σ) (c : Cursor) : Read σ := c.skipValue.map fun _ => v

/-- Reads a field behind the quote that opens its key.  `other` reads the value of
    a field that is not among `fields`. -/
def field {σ : Type} (fields : List (FieldReader σ)) (other : String → σ → Cursor → Read σ)
    (seen : List String) (v : σ) (c : Cursor) : Read (Option String × σ) :=
  c.text.andThen fun key c =>
    match fields.find? fun f => f.name == key with
    | none => c.colon.andThen fun _ c => (other key v c).map fun v => (none, v)
    | some f =>
      if seen.contains key then c.unplaced (.duplicateField key)
      else c.colon.andThen fun _ c => (f.read v c).map fun v => (some key, v)

/-- Reads the fields of an object behind the first one, in at most as many rounds
    as the first argument has elements. -/
def moreFields {σ : Type} (fields : List (FieldReader σ))
    (other : String → σ → Cursor → Read σ) : List Char → List String → σ → Cursor → Read σ
  | [], _, _, c => c.refuse .endInObject
  | _ :: rounds, seen, v, c =>
    let c := c.skipBlanks
    match c.rest with
    | [] => c.refuse .endInObject
    | '\x7d' :: _ => .done v c
    | ',' :: _ =>
      let c := c.step.skipBlanks
      match c.rest with
      | [] => c.refuse .endInValue
      | '"' :: _ =>
        (field fields other seen v c.step).andThen fun r c =>
          moreFields fields other rounds (r.1.toList ++ seen) r.2 c
      | '\x7d' :: _ => c.refuse .trailingComma
      | _ => c.refuse .keyNotText
    | _ => c.refuse .commaOrBraceExpected

/-- Reads the fields of an object behind its opening brace. -/
def objectFields {σ : Type} (fields : List (FieldReader σ))
    (other : String → σ → Cursor → Read σ) (v : σ) (c : Cursor) : Read σ :=
  let c := c.skipBlanks
  match c.rest with
  | [] => c.refuse .endInObject
  | '\x7d' :: _ => .done v c
  | '"' :: _ =>
    (field fields other [] v c.step).andThen fun r c =>
      moreFields fields other (',' :: c.rest) r.1.toList r.2 c
  | _ => c.refuse .keyNotText

/-! ### Fields of a list -/

/-- Moves to the next item of a list; without one the result is `false`. -/
def nextItem (first : Bool) (c : Cursor) : Read Bool :=
  let c := c.skipBlanks
  match c.rest with
  | [] => c.refuse .endInList
  | ']' :: _ => .done false c
  | ch :: _ =>
    if first then .done true c
    else if ch = ',' then
      let c := c.step.skipBlanks
      match c.rest with
      | [] => c.refuse .endInValue
      | ']' :: _ => c.refuse .trailingComma
      | _ => .done true c
    else c.refuse .commaOrBracketExpected

def listFields {σ : Type} : List (FieldReader σ) → Bool → σ → Cursor → Read σ
  | [], _, v, c => .done v c
  | f :: fields, first, v, c =>
    (c.nextItem first).andThen fun more c =>
      if more then (f.read v c).andThen fun v c => listFields fields false v c
      else .done v c

/-! ### Values of a wanted kind -/

/-- Refuses a value of the wrong kind.  A scalar is read before it is refused, a
    list or an object is not. -/
def refuseKind {α : Type} (wanted : String) (c : Cursor) : Read α :=
  let c := c.skipBlanks
  match c.rest with
  | '[' :: _ => placed (c.unplaced (.wrongType .list wanted))
  | '\x7b' :: _ => placed (c.unplaced (.wrongType .map wanted))
  | _ => (valueWith none c).andThen fun v c => placed (c.unplaced (.wrongType v.found wanted))

/-- Reads a record.  `fields` reads what is inside it; without it there must be
    nothing nested here. -/
def record {σ : Type} (wanted : String) (fields : Option (List (FieldReader σ))) (v : σ)
    (c : Cursor) : Read σ :=
  let c := c.skipBlanks
  match c.rest, fields with
  | '[' :: _, some fields => closeBehind closeList (listFields fields true v c.step)
  | '\x7b' :: _, some fields => closeBehind closeObject (objectFields fields ignore v c.step)
  | '[' :: _, none => c.refuse .tooDeep
  | '\x7b' :: _, none => c.refuse .tooDeep
  | _, _ => c.refuseKind wanted

def boolValue (c : Cursor) : Read Bool :=
  let c := c.skipBlanks
  match c.rest with
  | 't' :: _ => (word ['r', 'u', 'e'] c.step).map fun _ => true
  | 'f' :: _ => (word ['a', 'l', 's', 'e'] c.step).map fun _ => false
  | _ => c.refuseKind "a boolean"

def textValue (wanted : String) (c : Cursor) : Read String :=
  let c := c.skipBlanks
  match c.rest with
  | '"' :: _ => c.step.text
  | _ => c.refuseKind wanted

def textOrNull (wanted : String) (c : Cursor) : Read (Option String) :=
  let c := c.skipBlanks
  match c.rest with
  | 'n' :: _ => (word ['u', 'l', 'l'] c.step).map fun _ => none
  | _ => (c.textValue wanted).map some

/-- Reads the items of a list behind the first one, up to the closing bracket,
    which is not taken, in at most as many rounds as the first argument has
    elements. -/
def restItems (item : Cursor → Read Json) : List Char → Cursor → Read (List Json)
  | [], c => c.refuse .endInList
  | _ :: rounds, c =>
    (c.nextItem false).andThen fun more c =>
      if more then
        (item c).andThen fun v c => (restItems item rounds c).map fun vs => v :: vs
      else .done [] c

end Cursor

def readRecord {σ : Type} (read : Cursor → Read σ) (s : String) : Except Fault σ :=
  match read (Cursor.ofText s) with
  | .stop fault _ => .error fault
  | .done v c =>
    match c.ending with
    | .ok _ => .ok v
    | .error fault => .error fault

end LoadOrder.Json
