/-
  LoadOrder/Main.lean
  ===================
  **The program at the command line.**

  A run is a function of the files that are there, so this module looks at the files
  that a run may need, lets the run decide, and carries out what it decided: the files
  that changed are written, the output is printed.

  There is no network here; an engine on the web cannot be reached.
-/
import LoadOrder.Command.Program

namespace LoadOrder.Main

/-! ### Looking at files -/

def pathOf : List String → String
  | [] => "."
  | part :: rest =>
    if part = Store.root then "/" ++ Text.joined "/" rest else Text.joined "/" (part :: rest)

/-- What stands at a path.  Something that is there and cannot be read counts as a
    folder. -/
def look (path : String) : IO (Option Node) := do
  try
    let bytes ← IO.FS.readBinFile path
    match String.fromUTF8? bytes with
    | some content => return some (.text content)
    | none => return some .binary
  catch e =>
    match e with
    | .noFileOrDirectory _ _ _ => return none
    | _ => return some .folder

/-- Looks at every folder on the way to a place, and at the place, as far as there is
    something. -/
def lookAlong (s : Store) (done : List String) : List String → IO Store
  | [] => return s
  | part :: rest => do
    let next := Store.stepTo done part
    match ← look (pathOf next) with
    | none => return s
    | some .folder => lookAlong (s.put next .folder) next rest
    | some node => return s.put next node

def lookAtAll (s : Store) : List (List String) → IO Store
  | [] => return s
  | place :: rest => do lookAtAll (← lookAlong s [] place) rest

/-! ### Carrying out -/

/-- Writes the files and folders that a run has changed. -/
def write (before : Store) : List (List String × Node) → IO Unit
  | [] => return
  | (place, node) :: rest => do
    unless before.node? place = some node do
      match node with
      | .folder => IO.FS.createDirAll (pathOf place)
      | .text content => IO.FS.writeFile (pathOf place) content
      | .binary => pure ()
    write before rest

def surroundings (args : List String) (folderName : String) : IO Surroundings := do
  let folder := Store.parts folderName
  let own ← lookAtAll {} [folder ++ [configFile], folder ++ [logFile]]
  let others := match Action.parse args, (Config.loadOrCreate own folder).2 with
    | .ok action, .ok c => filesRead c action.options
    | _, _ => []
  let store ← lookAtAll own (others.map Store.parts)
  return { store, folder, folderName }

end LoadOrder.Main

def main (args : List String) : IO UInt32 := do
  let home := (← IO.getEnv "HOME").getD ""
  let folderName := LoadOrder.dataFolder home (← IO.getEnv "XDG_DATA_HOME")
  let w ← LoadOrder.Main.surroundings args folderName
  let f := LoadOrder.runProgram w args false
  LoadOrder.Main.write w.store f.store.nodes
  IO.print f.stdout
  IO.eprint f.stderr
  return UInt32.ofNat f.code
