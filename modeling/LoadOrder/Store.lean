/-
  LoadOrder/Store.lean
  ====================
  **The files of a working directory.**

  A store lists the files and folders that are known, by their path from the
  working directory; an absolute path begins with a part of its own, the slash.  A
  folder exists as soon as something is in it.  A path is walked part by part, so
  that a file in the middle of it is told apart from a name that does not exist.
-/
import LoadOrder.Failure

namespace LoadOrder

inductive Node where
  | folder
  | text (content : String)
  | binary
deriving DecidableEq, Repr

/-- Everything that is known to exist, by path. -/
structure Store where
  nodes : List (List String × Node) := []
deriving DecidableEq, Repr

namespace Store

/-! ### Paths -/

/-- The part that stands for the root of all absolute paths. -/
def root : String := "/"

/-- The parts of a path that name something. -/
def parts (path : String) : List String :=
  (if path.toList.head? = some '/' then [root] else [])
    ++ ((Text.cutAt '/' path.toList).map String.ofList).filter fun part => part != "" && part != "."

/-- Whether a path can only lead to a folder. -/
def wantsFolder (path : String) : Bool :=
  match (Text.cutAt '/' path.toList).getLast? with
  | some last => last == [] || last == ['.']
  | none => false

/-- Whether a path is longer than any that can be followed: with the mark at its end it
    would not fit into 4096 bytes. -/
def isOverlong (path : String) : Bool := decide (4096 ≤ path.utf8ByteSize)

/-- The length in bytes up to which a name can be looked up. -/
def longestName : Nat := 255

/-! ### Looking -/

/-- Whether a path leads nowhere but up from the working directory. -/
def isAbove (place : List String) : Bool := place.all fun part => part == ".."

/-- What stands at a path.  The working directory and the folders above it are sure
    to be there. -/
def node? (s : Store) (place : List String) : Option Node :=
  match s.nodes.find? fun n => n.1 == place with
  | some n => some n.2
  | none =>
    if isAbove place || place == [root] || s.nodes.any fun n => place.isPrefixOf n.1 then
      some .folder
    else none

/-- The path one step on: a folder goes down, two points go up, and the root has
    nothing above it. -/
def stepTo (folder : List String) (part : String) : List String :=
  if part ≠ ".." then folder ++ [part]
  else if folder = [root] then folder
  else if isAbove folder then folder ++ [part]
  else folder.dropLast

/-- Walks on from a folder.  A name is only found to be too long in the folder where it
    would stand, so what is wrong with the way there is found first. -/
def walk (s : Store) (folder : List String) : List String → Except SystemError (List String)
  | [] => .ok folder
  | part :: rest =>
    if longestName < part.utf8ByteSize then .error .nameTooLong
    else
      match s.node? (stepTo folder part) with
      | none => .error .notFound
      | some .folder => s.walk (stepTo folder part) rest
      | some _ => if rest = [] then .ok (stepTo folder part) else .error .notDirectory

def readText (s : Store) (path : String) : Except SystemError String :=
  if path = "" then .error .notFound
  else if path.toList.contains '\x00' then .error .badName
  else if isOverlong path then .error .nameTooLong
  else
    match s.walk [] (parts path) with
    | .error e => .error e
    | .ok place =>
      match s.node? place with
      | none => .error .notFound
      | some .folder => .error .isDirectory
      | some (.text content) => if wantsFolder path then .error .notDirectory else .ok content
      | some .binary => .error (if wantsFolder path then .notDirectory else .notText)

/-! ### Writing -/

/-- Puts a node at a path, in place of what stood there. -/
def put (s : Store) (place : List String) (node : Node) : Store :=
  ⟨(s.nodes.filter fun n => n.1 != place) ++ [(place, node)]⟩

/-- Makes a folder and those above it, unless they exist. -/
def makeFolders (s : Store) (done : List String) : List String → Except SystemError Store
  | [] => .ok s
  | part :: rest =>
    let next := done ++ [part]
    match s.node? next with
    | none => (s.put next .folder).makeFolders next rest
    | some .folder => s.makeFolders next rest
    | some _ => .error (if rest = [] then .exists else .notDirectory)

/-- Writes a text file, unless a folder stands there. -/
def writeText (s : Store) (place : List String) (content : String) : Except SystemError Store :=
  match s.node? place with
  | some .folder => .error .isDirectory
  | _ => .ok (s.put place (.text content))

end Store

end LoadOrder
