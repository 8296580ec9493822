/-
  LoadOrder/Command/Options.lean
  ==============================
  **Reading a command line.**

  Options may stand anywhere.  Some take a value, which follows them or is joined to
  them with an equals sign; the others switch something on and ignore what is
  joined to them.  What is not an option is a word: the first word is the command,
  and the next one the plugin that a command may be about.  Words behind those have
  no meaning and do no harm.

  A word that asks for help or for the version counts only in front of everything
  else.
-/
import LoadOrder.Config.Basic
import LoadOrder.Failure

namespace LoadOrder

/-! ### Options -/

/-- How a command writes its result. -/
inductive Format where
  | text
  | json
deriving DecidableEq, Repr

def Format.named? (name : String) : Option Format :=
  if name = "json" then some .json else if name = "text" then some .text else none

structure Options where
  format : Option Format := none
  snapshot : Option String := none
  engine : Option EngineChoice := none
  hide : List Toggle := []
  contentFilter : Option String := none
  search : Option String := none
deriving DecidableEq, Repr

namespace Options

/-- The format that is used; text, unless another one is asked for. -/
def effectiveFormat (o : Options) : Format := o.format.getD .text

def toggles (o : Options) (base : Toggles) : Toggles := base.setAll o.hide

def addHide (o : Options) (toggle : Toggle) : Options :=
  if o.hide.contains toggle then o else { o with hide := o.hide ++ [toggle] }

end Options

inductive ValueOption where
  | format
  | snapshot
  | engineFile
  | engineUrl
  | filter
  | search
deriving DecidableEq, Repr

namespace ValueOption

def written? (flag : String) : Option ValueOption :=
  if flag = "--format" then some .format
  else if flag = "--snapshot" ∨ flag = "-s" then some .snapshot
  else if flag = "--engine-file" then some .engineFile
  else if flag = "--engine-url" then some .engineUrl
  else if flag = "--filter" then some .filter
  else if flag = "--search" then some .search
  else none

def name : ValueOption → String
  | format => "--format"
  | snapshot => "--snapshot"
  | engineFile => "--engine-file"
  | engineUrl => "--engine-url"
  | filter => "--filter"
  | search => "--search"

def set (v : ValueOption) (value : String) (o : Options) : Except UsageError Options :=
  match v with
  | format =>
    match Format.named? value with
    | some f => .ok { o with format := some f }
    | none => .error (.unknownFormat value)
  | snapshot => .ok { o with snapshot := some value }
  | engineFile => .ok { o with engine := some (.file value) }
  | engineUrl => .ok { o with engine := some (.web value defaultTimeout) }
  | filter => .ok { o with contentFilter := some value }
  | search => .ok { o with search := some value }

end ValueOption

/-! ### Arguments -/

def isLongOption (arg : String) : Bool := ['-', '-'].isPrefixOf arg.toList

def splitEquals : List Char → Option (List Char × List Char)
  | [] => none
  | c :: rest =>
    if c = '=' then some ([], rest)
    else (splitEquals rest).map fun r => (c :: r.1, r.2)

/-- An option and the value that is joined to it.  Only what begins with two dashes
    is taken apart. -/
def flagAndValue (arg : String) : String × Option String :=
  match splitEquals arg.toList with
  | some (flag, value) =>
    if ['-', '-'].isPrefixOf flag then (String.ofList flag, some (String.ofList value))
    else (arg, none)
  | none => (arg, none)

def hideOption? (flag : String) : Option Toggle := Toggle.all.find? fun t => t.option == flag

/-- The options and the words of the arguments read so far. -/
structure Arguments where
  options : Options := {}
  words : List String := []
deriving DecidableEq, Repr

namespace Arguments

def addPlain (a : Arguments) (arg flag : String) : Except UsageError Arguments :=
  match hideOption? flag with
  | some toggle => .ok { a with options := a.options.addHide toggle }
  | none =>
    if isLongOption flag then .error (.unknownOption flag)
    else .ok { a with words := a.words ++ [arg] }

def addValue (a : Arguments) (option : ValueOption) (value : String) :
    Except UsageError Arguments :=
  match option.set value a.options with
  | .ok options => .ok { a with options }
  | .error e => .error e

/-- Reads arguments behind those read so far. -/
def read (a : Arguments) : List String → Except UsageError Arguments
  | [] => .ok a
  | arg :: rest =>
    match ValueOption.written? (flagAndValue arg).1 with
    | none =>
      match a.addPlain arg (flagAndValue arg).1 with
      | .ok a => a.read rest
      | .error e => .error e
    | some option =>
      match (flagAndValue arg).2 with
      | some value =>
        match a.addValue option value with
        | .ok a => a.read rest
        | .error e => .error e
      | none =>
        match rest with
        | [] => .error (.missingValue option.name)
        | value :: rest =>
          match a.addValue option value with
          | .ok a => a.read rest
          | .error e => .error e

end Arguments

/-! ### Commands -/

inductive Command where
  | list
  | counts
  | conflicts (plugin : String)
  | settings
  | help
  | version
deriving DecidableEq, Repr

inductive Action where
  | interface (options : Options)
  | command (command : Command) (options : Options)
deriving DecidableEq, Repr

namespace Action

def ofWord (word : String) (others : List String) (o : Options) : Except UsageError Action :=
  if word = "list" then .ok (.command .list o)
  else if word = "counts" then .ok (.command .counts o)
  else if word = "settings" then .ok (.command .settings o)
  else if word = "conflicts" then
    match others with
    | plugin :: _ => .ok (.command (.conflicts plugin) o)
    | [] => .error .missingPlugin
  else if word = "ui" then .ok (.interface o)
  else .error (.unknownCommand word)

/-- What the arguments ask for; without a word, for the terminal interface. -/
def ofArguments (a : Arguments) : Except UsageError Action :=
  match a.words with
  | [] => .ok (.interface a.options)
  | word :: others => ofWord word others a.options

/-- The ways to ask for help, and for the version. -/
def helpWords : List String := ["--help", "-h", "help"]

def versionWords : List String := ["--version", "-V", "version"]

def startsWith (words : List String) (args : List String) : Bool :=
  match args with
  | first :: _ => words.contains first
  | [] => false

def parse (args : List String) : Except UsageError Action :=
  if startsWith helpWords args then .ok (.command .help {})
  else if startsWith versionWords args then .ok (.command .version {})
  else
    match ({} : Arguments).read args with
    | .error e => .error e
    | .ok a => ofArguments a

end Action

end LoadOrder
