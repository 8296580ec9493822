/-
  LoadOrder/Conflict/Report.lean
  ==============================
  **What the engine answers when it is asked for conflicts.**

  The answer is a text.  Nothing, `null`, `false` and the empty object say that
  there is no data; any other JSON object is a report with one finding for each
  plugin it names; everything else is malformed.  A finding is strict in its
  single fields and lenient in its lists, like a plugin of a snapshot.
-/
import LoadOrder.Failure
import LoadOrder.Json.Reader
import LoadOrder.Plugin.Decode

namespace LoadOrder

open Json

/-- Fresh data about one plugin, and whether it conflicts with the plugin that was
    asked about. -/
structure Finding where
  crc : UInt32 := 0
  empty : Bool := false
  messages : List ReportedMessage := []
  tags : List TagDirective := []
  dirty : Bool := false
  conflicts : Bool := false
deriving DecidableEq, Repr

/-- The findings of an answer, sorted by name. -/
abbrev Report := List (String × Finding)

namespace Finding

/-- The fields of an object, in the order of their keys. -/
def ofMembers (members : Members) : Decoded Finding := do
  let conflicts ← orDefault false decodeBool (lookup "conflicts" members)
  let crc ← orDefault 0 decodeCrc (lookup "crc" members)
  let dirty ← orDefault false decodeBool (lookup "isDirty" members)
  let empty ← orDefault false decodeBool (lookup "isEmpty" members)
  let messages := lenient ReportedMessage.decode (lookup "messages" members)
  let tags := lenient TagDirective.decode (lookup "tags" members)
  return { crc, empty, messages, tags, dirty, conflicts }

/-- The fields of a list, in the order of the record. -/
def ofItems (items : List Json) : Decoded Finding := do
  let crc ← orDefault 0 decodeCrc items[0]?
  let empty ← orDefault false decodeBool items[1]?
  let messages := lenient ReportedMessage.decode items[2]?
  let tags := lenient TagDirective.decode items[3]?
  let dirty ← orDefault false decodeBool items[4]?
  let conflicts ← orDefault false decodeBool items[5]?
  checkLength 6 (.list items)
  return { crc, empty, messages, tags, dirty, conflicts }

def decode : Json → Decoded Finding
  | .object members => ofMembers members
  | .list items => ofItems items
  | v => wrongType v "struct ConflictData"

end Finding

namespace Report

def ofMembers : Members → Decoded Report
  | [] => .ok []
  | m :: rest =>
    match Finding.decode m.2 with
    | .error problem => .error problem
    | .ok finding => (ofMembers rest).map fun report => (m.1, finding) :: report

/-- The report of a canonical value, or no data. -/
def ofJson : Json → Decoded (Option Report)
  | .null => .ok none
  | .bool false => .ok none
  | .object [] => .ok none
  | .object members => (ofMembers members).map some
  | v => wrongType v "a map"

/-- The report of an answer about a plugin, or no data. -/
def parse (plugin raw : String) : Except Cause (Option Report) :=
  let raw := Text.trim raw
  if raw = "" then .ok none
  else
    match Json.parse raw with
    | .error fault => .error (.malformedReport plugin fault)
    | .ok v =>
      match ofJson v with
      | .error problem => .error (.malformedReport plugin ⟨problem, none⟩)
      | .ok report => .ok report

end Report

end LoadOrder
