/-
  LoadOrder/Config/File.lean
  ==========================
  **The configuration as a file.**

  The file is made with the default configuration when there is none; one that is
  there is only read, whatever it holds.
-/
import LoadOrder.Config.Reader
import LoadOrder.Json.Printer
import LoadOrder.Store

namespace LoadOrder

def configFile : String := "config.json"

namespace Config

def text (c : Config) : String := c.toJson.wide

def makeFolder (s : Store) (folder : List String) : Except Failure Store :=
  match s.makeFolders [] folder with
  | .ok s => .ok s
  | .error e => .error { doing := ["create app data dir"], cause := .system e }

def save (c : Config) (s : Store) (folder : List String) : Except Failure Store :=
  match makeFolder s folder with
  | .error f => .error f
  | .ok s =>
    match s.writeText (folder ++ [configFile]) c.text with
    | .ok s => .ok s
    | .error e => .error { doing := ["write app config"], cause := .system e }

def ofText (raw : String) : Except Failure Config :=
  match parse raw with
  | .ok c => .ok c
  | .error fault => .error { doing := ["parse app config"], cause := .badText fault }

def ofNode : Node → Except Failure Config
  | .folder => .error { doing := ["read app config"], cause := .system .isDirectory }
  | .binary => .error { doing := ["read app config"], cause := .system .notText }
  | .text raw => ofText raw

/-- The configuration of a folder, and the files afterwards.  A missing one is made
    with the defaults. -/
def loadOrCreate (s : Store) (folder : List String) : Store × Except Failure Config :=
  match makeFolder s folder with
  | .error f => (s, .error f)
  | .ok made =>
    match made.node? (folder ++ [configFile]) with
    | some node => (made, ofNode node)
    | none =>
      match ({} : Config).save made folder with
      | .ok saved => (saved, .ok {})
      | .error f => (made, .error f)

end Config

end LoadOrder
