/-
  LoadOrder/Json/Decode.lean
  ==========================
  **From a value that has been read to a field of a record.**

  The decoders are strict: a field holds exactly what it should hold, or there is
  a problem that says what it holds instead.  A missing field and a `null` are
  told apart only by those callers that need to.  Lists of entries are the
  exception: where a caller asks for leniency, entries that do not decode are
  dropped and anything but a list counts as empty (`lenient`).

  A record may be written as an object or as a list of its fields in order;
  `Fields` hides which.
-/
import LoadOrder.Json.Fault

namespace LoadOrder.Json

/-- The result of decoding: a value, or the first problem. -/
abbrev Decoded (α : Type) := Except Problem α

/-! ### Scalars -/

def wrongType {α : Type} (v : Json) (wanted : String) : Decoded α :=
  .error (.wrongType v.found wanted)

/-- A text; `wanted` is what a problem says was wanted. -/
def decodeText (wanted : String) : Json → Decoded String
  | .text s => .ok s
  | v => wrongType v wanted

def decodeBool : Json → Decoded Bool
  | .bool b => .ok b
  | v => wrongType v "a boolean"

def decodeInt (low high : Int) (wanted : String) : Json → Decoded Int
  | .int n => if low ≤ n ∧ n ≤ high then .ok n else .error (.wrongValue (.int n) wanted)
  | v => wrongType v wanted

def decodeU32 (v : Json) : Decoded Nat := (decodeInt 0 4294967295 "u32" v).map Int.toNat

def decodeU64 (v : Json) : Decoded Nat :=
  (decodeInt 0 18446744073709551615 "u64" v).map Int.toNat

def decodeI32 (v : Json) : Decoded Int := decodeInt (-2147483648) 2147483647 "i32" v

def decodeMembers : Json → Decoded Members
  | .object members => .ok members
  | v => wrongType v "a map"

/-! ### Fields that may be missing -/

/-- The default for a missing field and for `null`. -/
def orDefault {α : Type} (default : α) (decode : Json → Decoded α) : Option Json → Decoded α
  | none => .ok default
  | some .null => .ok default
  | some v => decode v

/-- Nothing for a missing field and for `null`. -/
def orNone {α : Type} (decode : Json → Decoded α) : Option Json → Decoded (Option α)
  | none => .ok none
  | some .null => .ok none
  | some v => (decode v).map some

/-- The entries that decode, in order; anything but a list has none. -/
def lenient {α : Type} (decode : Json → Decoded α) : Option Json → List α
  | some (.list items) => items.filterMap fun v => (decode v).toOption
  | _ => []

/-! ### Records -/

/-- The fields of a record, by name and by place. -/
def fieldOf (v : Json) (name : String) (index : Nat) : Option Json :=
  match v with
  | .object members => lookup name members
  | .list items => items[index]?
  | _ => none

def required {α : Type} (name : String) (decode : Json → Decoded α) : Option Json → Decoded α
  | none => .error (.missingField name)
  | some v => decode v

/-- Refuses a record written as a list of more than `size` items, which is
    noticed only behind the fields. -/
def checkLength (size : Nat) : Json → Decoded Unit
  | .list items =>
    if items.length ≤ size then .ok ()
    else .error (.wrongLength items.length "fewer elements in array")
  | _ => .ok ()

end LoadOrder.Json
