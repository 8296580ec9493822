/-
  LoadOrder/Plugin/Decode.lean
  ============================
  **From JSON to what is reported about a plugin.**

  The single fields are strict, `null` counting as missing; the lists of tags,
  of messages and of a message's texts are lenient, so that one bad entry costs
  only itself.  An object's fields are looked at in the order of their keys, and
  the first one that is wrong is the one reported.
-/
import LoadOrder.Json.Decode
import LoadOrder.Plugin.Basic

namespace LoadOrder

open Json

/-! ### Tags and messages -/

def Severity.named? (name : String) : Option Severity :=
  if name = "note" ∨ name = "say" then some .note
  else if name = "warn" then some .warn
  else if name = "error" then some .error
  else none

def Severity.name : Severity → String
  | .note => "note"
  | .warn => "warn"
  | .error => "error"

def Severity.known : List String := ["note", "warn", "error"]

def Severity.decodeName (name : String) : Decoded Severity :=
  match Severity.named? name with
  | some s => .ok s
  | none => .error (.unknownVariant name Severity.known)

/-- A severity: its name, or an object that holds nothing under the name. -/
def Severity.decode : Json → Decoded Severity
  | .text name => Severity.decodeName name
  | .object [(name, .null)] => Severity.decodeName name
  | v => wrongType v "a severity"

def LocalText.decode (v : Json) : Decoded LocalText := do
  let text ← required "str" (decodeText "a string") (fieldOf v "str" 0)
  let language ← orNone (decodeText "a string") (fieldOf v "lang" 1)
  checkLength 2 v
  return { text, language }

def TagDirective.decode (v : Json) : Decoded TagDirective := do
  let name ← required "name" (decodeText "a string") (fieldOf v "name" 0)
  let condition ← orNone (decodeText "a string") (fieldOf v "condition" 1)
  checkLength 2 v
  return { name, condition }

def ReportedMessage.decode (v : Json) : Decoded ReportedMessage := do
  let severity ← required "type" Severity.decode (fieldOf v "type" 0)
  let texts := lenient LocalText.decode (fieldOf v "content" 1)
  let condition ← orNone (decodeText "a string") (fieldOf v "condition" 2)
  checkLength 3 v
  return { severity, texts, condition }

/-! ### A plugin -/

def decodeCrc (v : Json) : Decoded UInt32 := (decodeU32 v).map UInt32.ofNat

/-- The fields of a plugin, in the order of their keys. -/
def PluginData.decode (members : Members) : Decoded PluginData := do
  let crc ← orDefault 0 decodeCrc (lookup "crc" members)
  let active ← orDefault false decodeBool (lookup "isActive" members)
  let dirty ← orDefault false decodeBool (lookup "isDirty" members)
  let empty ← orDefault false decodeBool (lookup "isEmpty" members)
  let globalPriority ← orDefault false decodeBool (lookup "isGlobalPriority" members)
  let master ← orDefault false decodeBool (lookup "isMaster" members)
  let loadsArchive ← orDefault false decodeBool (lookup "loadsBsa" members)
  let masterlist ← orNone decodeMembers (lookup "masterlist" members)
  let messages := lenient ReportedMessage.decode (lookup "messages" members)
  let priority ← orDefault 0 decodeI32 (lookup "modPriority" members)
  let name ← orNone (decodeText "a string") (lookup "name" members)
  let tags := lenient TagDirective.decode (lookup "tags" members)
  let userlist ← orNone decodeMembers (lookup "userlist" members)
  let version ← orDefault "" (decodeText "a string") (lookup "version" members)
  return { name, version, active, empty, master, loadsArchive, crc, masterlist, userlist,
           priority, globalPriority, dirty, tags, messages }

end LoadOrder
