/-
  LoadOrder/Command/Program.lean
  ==============================
  **A whole run of the program.**

  A run starts from the files that are there and a command line, and ends with what
  was printed, an exit code and the files as they are then.  Of the files it only
  ever touches two in its own folder: a missing configuration is made, and the
  terminal interface writes a log.  The options of the command line are laid over
  the configuration for this run and never saved.

  The terminal interface needs a terminal.  Here there is none, so it ends as soon as
  its session has been built.
-/
import LoadOrder.Command.Output
import LoadOrder.Config.File
import LoadOrder.Session.Operations
import LoadOrder.Trace.Directive

namespace LoadOrder

/-! ### Surroundings -/

/-- What a run finds: the files, the folder of the program, the name of that folder
    for people, and the engines on the web by address and patience. -/
structure Surroundings where
  store : Store := {}
  folder : List String
  folderName : String
  web : String → Nat → Engine := fun url _ => Engine.unreachable url "Network unreachable"

def Surroundings.engine (w : Surroundings) : EngineChoice → Engine
  | .absent => Engine.absent
  | .file path => Engine.ofFile w.store path
  | .web url timeoutSecs => w.web url timeoutSecs

def Surroundings.engineFor (w : Surroundings) (c : Config) (o : Options) : Engine :=
  w.engine (o.engine.getD c.engine)

/-- The files that a run may read besides its own: the snapshot, and the file of the
    engine. -/
def filesRead (c : Config) (o : Options) : List String :=
  (o.snapshot.orElse fun _ => c.lastSnapshot).toList
    ++ (match o.engine.getD c.engine with
        | .file path => [path]
        | _ => [])

def Action.options : Action → Options
  | .interface o => o
  | .command _ o => o

/-- The folder of the program under the folder for data, which is the one that the user
    has chosen if it is an absolute path, or else the usual one at home. -/
def dataFolder (home : String) (chosen : Option String) : String :=
  let base := match chosen with
    | some path => if path.toList.head? = some '/' then path else home ++ "/.local/share"
    | none => home ++ "/.local/share"
  base ++ "/plugindeck"

/-! ### The session of a run -/

def startSession (c : Config) (o : Options) : Session :=
  (Session.new c.toggles c.phrase).restoreToggles (o.toggles c.toggles)

/-- Loads the snapshot that is asked for, or else the one of the configuration. -/
def loadSession (w : Surroundings) (c : Config) (o : Options) (required : Bool) :
    Except Failure Session :=
  let s := startSession c o
  match o.snapshot.orElse fun _ => c.lastSnapshot with
  | some path =>
    match Snapshot.load w.store path with
    | .error f => .error f
    | .ok snapshot =>
      .ok ((s.tell (snapshot.loadedEvent path)).load snapshot.title snapshot.plugins)
  | none =>
    if required then .error { cause := .usage .noSnapshot }
    else .ok (s.note .warn "No snapshot loaded (pass --snapshot <path>)")

/-- Brings a loaded session to where the options want it. -/
def prepareSession (engine : Engine) (o : Options) (s : Session) : Session :=
  let s := s.applyToggles
  let s := match o.contentFilter with
    | some value => s.setContentFilter value
    | none => s
  let s := s.waitForConflicts engine
  match o.search with
  | some needle => s.search needle
  | none => s

def buildSession (w : Surroundings) (c : Config) (o : Options) (required : Bool) :
    Except Failure Session :=
  (loadSession w c o required).map (prepareSession (w.engineFor c o) o)

/-! ### Commands -/

/-- What a command leaves behind: what it printed, how it failed if it did, and what
    it told, the latest event first. -/
structure Printed where
  stdout : String := ""
  stderr : String := ""
  failure : Option Failure := none
  trace : List Event := []
deriving Repr

def withSession (w : Surroundings) (c : Config) (o : Options) (f : Session → Printed) : Printed :=
  match buildSession w c o true with
  | .error failure => { failure := some failure }
  | .ok s => f s

def tellsFailure (status : String) : Bool :=
  "Conflict check failed".toList.isPrefixOf status.toList

/-- The list of the plugins that conflict with one.  A failed check is told on the
    side, and the list has that one plugin only. -/
def conflictsOf (engine : Engine) (plugin : String) (format : Format) (s : Session) : Printed :=
  match s.named? plugin with
  | none => { failure := some { cause := .usage (.unknownPlugin plugin) }, trace := s.trace }
  | some _ =>
    let s := (s.showConflicts (some plugin)).waitForConflicts engine
    { stdout := s.listing format
      stderr := if tellsFailure s.status then line s.status else ""
      trace := s.trace }

def runCommand (w : Surroundings) (c : Config) (command : Command) (o : Options) : Printed :=
  match command with
  | .help => { stdout := helpText }
  | .version => { stdout := line versionText }
  | .settings => { stdout := (Settings.of c o w.folderName).print o.effectiveFormat }
  | .list =>
    withSession w c o fun s => { stdout := s.listing o.effectiveFormat, trace := s.trace }
  | .counts =>
    withSession w c o fun s => { stdout := s.counts o.effectiveFormat, trace := s.trace }
  | .conflicts plugin =>
    withSession w c o (conflictsOf (w.engineFor c o) plugin o.effectiveFormat)

/-- The terminal interface up to the moment it needs a terminal.  What was opened is
    remembered for this run. -/
def runInterface (w : Surroundings) (c : Config) (o : Options) : Printed :=
  let c := { c with lastSnapshot := o.snapshot.orElse fun _ => c.lastSnapshot }
  match buildSession w c o false with
  | .error failure => { failure := some failure }
  | .ok s => { failure := some { cause := .system .noDevice }, trace := s.trace }

/-! ### Logging -/

def logFile : String := "plugindeck.log"

/-- What is wanted of the log of a run: what the configuration says, unless all logging
    is off. -/
def logFilter (quiet : Bool) (c : Config) : LogFilter :=
  if quiet then .silent else .read c.logLevel

/-- The wanted lines of a trace, oldest event first. -/
def traceText (wanted : LogFilter) (withOrigin : Bool) (trace : List Event) : String :=
  lines (wanted.lines withOrigin trace.reverse)

def appendLog (s : Store) (folder : List String) (text : String) : Store :=
  let place := folder ++ [logFile]
  match s.node? place with
  | some (.text before) => s.put place (.text (before ++ text))
  | some _ => s
  | none => s.put place (.text text)

/-! ### Runs -/

structure Finished where
  code : Nat
  stdout : String
  stderr : String
  store : Store
deriving Repr

def lastWords : Option Failure → String
  | some f => line ("Error: " ++ f.report)
  | none => ""

/-- The end of a run that printed something, with some lines before what it printed on
    the side. -/
def finish (store : Store) (p : Printed) (before : String) : Finished where
  code := if p.failure.isSome then 1 else 0
  stdout := p.stdout
  stderr := before ++ p.stderr ++ lastWords p.failure
  store := store

def runConfigured (w : Surroundings) (command : Command) (o : Options) (quiet : Bool) : Finished :=
  match Config.loadOrCreate w.store w.folder with
  | (store, .error failure) => finish store { failure := some failure } ""
  | (store, .ok c) =>
    let p := runCommand { w with store } c command o
    let wanted := logFilter quiet c
    finish store p (lines wanted.complaints ++ traceText wanted false p.trace)

def runTerminal (w : Surroundings) (o : Options) (quiet : Bool) : Finished :=
  match Config.loadOrCreate w.store w.folder with
  | (store, .error failure) => finish store { failure := some failure } ""
  | (store, .ok c) =>
    let opened := appendLog store w.folder ""
    let p := runInterface { w with store := opened } c o
    let wanted := logFilter quiet c
    finish (appendLog opened w.folder (traceText wanted true p.trace)) p (lines wanted.complaints)

/-- A run of the program.  `quiet` turns all logging off. -/
def runProgram (w : Surroundings) (args : List String) (quiet : Bool) : Finished :=
  match Action.parse args with
  | .error e => finish w.store { failure := some { cause := .usage e } } ""
  | .ok (.interface o) => runTerminal w o quiet
  | .ok (.command .help _) => finish w.store { stdout := helpText } ""
  | .ok (.command .version _) => finish w.store { stdout := line versionText } ""
  | .ok (.command command o) => runConfigured w command o quiet

end LoadOrder
