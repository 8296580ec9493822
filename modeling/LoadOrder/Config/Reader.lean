/-
  LoadOrder/Config/Reader.lean
  ============================
  **Reading a configuration from its text.**

  A configuration is read straight from the text, so a fault in it has a place and
  a field may not come twice.  The engine is an exception inside it: its kind may
  come after its other fields, so the whole engine is read first, and a fault in
  those fields is only noticed when the configuration is closed.
-/
import LoadOrder.Config.Basic
import LoadOrder.Json.Decode
import LoadOrder.Json.Record

namespace LoadOrder

open Json

/-! ### Switches -/

namespace Toggles

def fields : List (FieldReader Toggles) :=
  Toggle.all.map fun toggle =>
    { name := toggle.key, read := fun t c => c.boolValue.map fun on => t.set toggle on }

/-- Reads switches; those that do not come are off. -/
def read (c : Cursor) : Read Toggles := c.record "struct FilterSettings" (some fields) {}

def parse (s : String) : Except Fault Toggles := readRecord read s

end Toggles

/-! ### The engine -/

namespace EngineChoice

inductive Kind where
  | absent
  | file
  | web
deriving DecidableEq, Repr

def kindNames : List String := ["none", "file", "http"]

def Kind.named? (name : String) : Option Kind :=
  if name = "none" then some .absent
  else if name = "file" then some .file
  else if name = "http" then some .web
  else none

def readKind (c : Cursor) : Read Kind :=
  (c.textValue "variant identifier").andThen fun name c =>
    match Kind.named? name with
    | some kind => .done kind c
    | none => Cursor.placed (c.unplaced (.unknownVariant name kindNames))

/-! #### Written as an object -/

/-- The path of a file engine, from its fields in the order of the text. -/
def filePath : Members → Option String → Decoded String
  | [], some path => .ok path
  | [], none => .error (.missingField "path")
  | m :: rest, path =>
    if m.1 = "path" then
      if path.isSome then .error (.duplicateField "path")
      else
        match decodeText "path string" m.2 with
        | .ok path => filePath rest (some path)
        | .error problem => .error problem
    else filePath rest path

/-- The address and the patience of a web engine, from its fields in the order of
    the text. -/
def webFields : Members → Option String → Option Nat → Decoded (String × Nat)
  | [], some url, timeout => .ok (url, timeout.getD defaultTimeout)
  | [], none, _ => .error (.missingField "url")
  | m :: rest, url, timeout =>
    if m.1 = "url" then
      if url.isSome then .error (.duplicateField "url")
      else
        match decodeText "a string" m.2 with
        | .ok url => webFields rest (some url) timeout
        | .error problem => .error problem
    else if m.1 = "timeout_secs" then
      if timeout.isSome then .error (.duplicateField "timeout_secs")
      else
        match decodeU64 m.2 with
        | .ok timeout => webFields rest url (some timeout)
        | .error problem => .error problem
    else webFields rest url timeout

def ofFields : Kind → Members → Decoded EngineChoice
  | .absent, _ => .ok .absent
  | .file, members => (filePath members none).map .file
  | .web, members => (webFields members none none).map fun w => .web w.1 w.2

/-! #### Written as a list -/

def ofItems : Kind → List Json → Decoded EngineChoice
  | .absent, [] => .ok .absent
  | .absent, items => .error (.wrongLength items.length "0 elements in sequence")
  | .file, [] =>
    .error (.wrongLength 0 "struct variant EngineConfig::File with 1 element")
  | .file, path :: rest =>
    match decodeText "path string" path with
    | .error problem => .error problem
    | .ok path =>
      if rest.isEmpty then .ok (.file path)
      else .error (.wrongLength (rest.length + 1) "1 element in sequence")
  | .web, [] =>
    .error (.wrongLength 0 "struct variant EngineConfig::Http with 2 elements")
  | .web, url :: rest =>
    match decodeText "a string" url with
    | .error problem => .error problem
    | .ok url =>
      match rest with
      | [] => .ok (.web url defaultTimeout)
      | timeout :: rest =>
        match decodeU64 timeout with
        | .error problem => .error problem
        | .ok timeout =>
          if rest.isEmpty then .ok (.web url timeout)
          else .error (.wrongLength (rest.length + 2) "2 elements in sequence")

/-! #### From the text -/

/-- Goes on with a decoded value; a problem gets its place later. -/
def decodedAt {α : Type} (d : Decoded α) (c : Cursor) : Read α :=
  match d with
  | .ok v => .done v c
  | .error problem => c.unplaced problem

/-- The kind, and the other fields in the order of the text, of an engine behind its
    opening brace. -/
def readFields (item : Cursor → Read Json) (c : Cursor) : Read (Kind × Members) :=
  let kind : FieldReader (Option Kind × Members) :=
    { name := "kind", read := fun v c => (readKind c).map fun k => (some k, v.2) }
  let other := fun (key : String) (v : Option Kind × Members) (c : Cursor) =>
    (item c).map fun x => (v.1, v.2 ++ [(key, x)])
  (c.objectFields [kind] other (none, [])).andThen fun v c =>
    match v.1 with
    | some k => .done (k, v.2) c
    | none => c.unplaced (.missingField "kind")

/-- The kind, and the items behind it, of an engine behind its opening bracket. -/
def readItems (item : Cursor → Read Json) (c : Cursor) : Read (Kind × List Json) :=
  (c.nextItem true).andThen fun more c =>
    if more then
      (readKind c).andThen fun kind c =>
        (Cursor.restItems item (',' :: c.rest) c).map fun items => (kind, items)
    else c.unplaced (.missingField "kind")

/-- Reads an engine; `item` reads the values inside it. -/
def read (item : Cursor → Read Json) (c : Cursor) : Read EngineChoice :=
  let c := c.skipBlanks
  match c.rest with
  | '\x7b' :: _ =>
    (Cursor.closeBehind Cursor.closeObject (readFields item c.step)).andThen fun v c =>
      decodedAt (ofFields v.1 v.2) c
  | '[' :: _ =>
    (Cursor.closeBehind Cursor.closeList (readItems item c.step)).andThen fun v c =>
      decodedAt (ofItems v.1 v.2) c
  | _ => c.refuseKind "internally tagged enum EngineConfig"

end EngineChoice

/-! ### The configuration -/

namespace Config

def fields : List (FieldReader Config) :=
  [{ name := "filters"
     read := fun v c => (Toggles.read c).map fun toggles => { v with toggles } },
   { name := "do_not_clean_phrase"
     read := fun v c => (c.textValue "a string").map fun phrase => { v with phrase } },
   { name := "engine"
     read := fun v c =>
       (EngineChoice.read (fun c => c.value (maxDepth - 2)) c).map fun engine =>
         { v with engine } },
   { name := "log_level"
     read := fun v c => (c.textValue "a string").map fun logLevel => { v with logLevel } },
   { name := "last_snapshot"
     read := fun v c =>
       (c.textOrNull "path string").map fun lastSnapshot => { v with lastSnapshot } }]

/-- Reads a configuration; the fields that do not come have their defaults. -/
def read (c : Cursor) : Read Config := c.record "struct AppConfig" (some fields) {}

def parse (s : String) : Except Fault Config := readRecord read s

end Config

end LoadOrder
