/-
  LoadOrder/Snapshot.lean
  =======================
  **A load order as the sorting engine exports it.**

  A snapshot is a JSON document in which some objects are tagged as plugins.  They
  may stand at any depth.  An object inside a tagged one is part of that plugin
  and not a plugin of its own, so what counts are the outermost tagged objects
  (`taggedIn`), in the order of the canonical document: lists by place, objects by
  key.

  Every one of them must decode and have a name; otherwise the snapshot is
  refused, and the first offender is named.
-/
import LoadOrder.Json.Reader
import LoadOrder.Plugin.Decode
import LoadOrder.Store
import LoadOrder.Trace

namespace LoadOrder

open Json

/-! ### Tagged objects -/

def isPluginObject (members : Members) : Bool :=
  match lookup "__type" members with
  | some (.text tag) => tag == "Plugin"
  | _ => false

mutual
/-- The outermost tagged objects of a value, in order. -/
def taggedIn : Json → List Members
  | .list items => taggedInList items
  | .object members =>
    if isPluginObject members then [members] else taggedInMembers members
  | _ => []
termination_by structural v => v

def taggedInList : List Json → List Members
  | [] => []
  | v :: rest => taggedIn v ++ taggedInList rest
termination_by structural vs => vs

def taggedInMembers : List (String × Json) → List Members
  | [] => []
  | m :: rest => taggedInMember m ++ taggedInMembers rest
termination_by structural ms => ms

def taggedInMember : String × Json → List Members
  | (_, v) => taggedIn v
termination_by structural m => m
end

/-! ### Plugins -/

/-- The plugin of a tagged object, which is the `index`-th one of its snapshot. -/
def Plugin.ofTagged (index : Nat) (members : Members) : Except Cause Plugin :=
  match PluginData.decode members with
  | .error problem => .error (.illTyped ⟨problem, none⟩)
  | .ok data =>
    match data.name with
    | none => .error (.missingName index)
    | some name => if name = "" then .error (.missingName index) else .ok (Plugin.ofData name data)

/-- The plugins of tagged objects, counted from `index`. -/
def pluginsOfTagged (index : Nat) : List Members → Except Cause (List Plugin)
  | [] => .ok []
  | members :: rest =>
    match Plugin.ofTagged index members with
    | .error cause => .error cause
    | .ok p => (pluginsOfTagged (index + 1) rest).map fun ps => p :: ps

def pluginsOf (v : Json) : Except Cause (List Plugin) := pluginsOfTagged 0 (taggedIn v)

/-! ### Snapshots -/

structure Snapshot where
  title : Option String := none
  plugins : List Plugin := []
deriving Repr

namespace Snapshot

def titleOf (v : Json) : Option String := (v.member? "title").bind Json.asText?

/-- The snapshot of a canonical document. -/
def ofJson (v : Json) : Except Cause Snapshot :=
  (pluginsOf v).map fun plugins => { title := titleOf v, plugins }

def parse (raw : String) : Except Cause Snapshot :=
  match Json.parse raw with
  | .error fault => .error (.notJson fault)
  | .ok v => ofJson v

def load (store : Store) (path : String) : Except Failure Snapshot :=
  match store.readText path with
  | .error e => .error { doing := ["read snapshot " ++ path], cause := .system e }
  | .ok raw =>
    match parse raw with
    | .error cause => .error { doing := ["parse snapshot " ++ path], cause }
    | .ok snapshot => .ok snapshot

def loadedEvent (s : Snapshot) (path : String) : Event := .snapshotLoaded path s.plugins.length

end Snapshot

end LoadOrder
