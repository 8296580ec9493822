/-
  LoadOrder/Failure.lean
  ======================
  **Why a step did not succeed.**

  A failure is a cause, and what the program was doing when it met it, outermost
  first.  Causes are constructors; their wording is `Cause.text`.  A cause may
  rest on another one (a document that is not JSON, on the fault in the text), so
  a failure has a whole chain of texts, which a person sees in full and which a
  log joins into one line.
-/
import LoadOrder.Json.Fault

namespace LoadOrder

/-! ### Causes -/

inductive SystemError where
  | notFound
  | noDevice
  | exists
  | notDirectory
  | isDirectory
  | nameTooLong
  | notText
  | badName
deriving DecidableEq, Repr

def SystemError.text : SystemError → String
  | .notFound => "No such file or directory (os error 2)"
  | .noDevice => "No such device or address (os error 6)"
  | .exists => "File exists (os error 17)"
  | .notDirectory => "Not a directory (os error 20)"
  | .isDirectory => "Is a directory (os error 21)"
  | .nameTooLong => "File name too long (os error 36)"
  | .notText => "stream did not contain valid UTF-8"
  | .badName => "file name contained an unexpected NUL byte"

inductive UsageError where
  | unknownCommand (word : String)
  | unknownOption (option : String)
  | unknownFormat (value : String)
  | missingValue (option : String)
  | missingPlugin
  | noSnapshot
  | unknownPlugin (name : String)
deriving DecidableEq, Repr

def UsageError.text : UsageError → String
  | .unknownCommand word => "Unknown command: " ++ word ++ " (try 'plugindeck help')"
  | .unknownOption option => "Unknown option: " ++ option
  | .unknownFormat value => "Unknown format: " ++ value ++ " (use 'text' or 'json')"
  | .missingValue option => option ++ " requires a value"
  | .missingPlugin => "conflicts requires a plugin name"
  | .noSnapshot => "No snapshot to read (pass --snapshot <path>)"
  | .unknownPlugin name => "Unknown plugin: " ++ name

inductive EngineError where
  | notConfigured (request : String)
  | unsupported (request : String)
  | noPlugin
deriving DecidableEq, Repr

def EngineError.text : EngineError → String
  | .notConfigured request => "no conflict engine configured for " ++ request
  | .unsupported request => "unsupported engine query: " ++ request
  | .noPlugin => "conflict query without plugin name"

inductive Cause where
  | missingName (index : Nat)
  | notJson (fault : Json.Fault)
  | illTyped (fault : Json.Fault)
  | malformedReport (plugin : String) (fault : Json.Fault)
  | badText (fault : Json.Fault)
  | system (error : SystemError)
  | usage (error : UsageError)
  | engine (error : EngineError)
  | told (text : String)
deriving DecidableEq, Repr

def Cause.text : Cause → String
  | .missingName index => "plugin entry #" ++ toString index ++ " in snapshot has no name"
  | .notJson fault => "snapshot is not a JSON document: " ++ fault.message
  | .illTyped fault => "JSON error: " ++ fault.message
  | .malformedReport plugin fault =>
    "conflict data for " ++ plugin ++ " is malformed: " ++ fault.message
  | .badText fault => fault.message
  | .system error => error.text
  | .usage error => error.text
  | .engine error => error.text
  | .told text => text

def Cause.below : Cause → List String
  | .notJson fault => [fault.message]
  | .illTyped fault => [fault.message]
  | .malformedReport _ fault => [fault.message]
  | _ => []

/-! ### Failures -/

/-- A cause, and what was being done, outermost first. -/
structure Failure where
  doing : List String := []
  cause : Cause
deriving DecidableEq, Repr

namespace Failure

def chain (f : Failure) : List String := f.doing ++ f.cause.text :: f.cause.below

/-- The texts down to the cause itself, in one line. -/
def message (f : Failure) : String := Text.joined ": " (f.doing ++ [f.cause.text])

/-- All the texts, in one line. -/
def fullMessage (f : Failure) : String := Text.joined ": " f.chain

/-- Adds what was being done around a failure. -/
def during (f : Failure) (doing : String) : Failure := ⟨doing :: f.doing, f.cause⟩

/-! ### As a report to a person -/

/-- A text whose further lines stand `width` blanks in. -/
def hanging (width : Nat) (s : String) : String :=
  String.ofList (s.toList.flatMap fun c =>
    if c = '\n' then '\n' :: List.replicate width ' ' else [c])

def numbered : Nat → List String → String
  | _, [] => ""
  | n, text :: rest =>
    let number := toString n
    "\n" ++ String.ofList (List.replicate (5 - number.length) ' ') ++ number ++ ": "
      ++ hanging 7 text ++ numbered (n + 1) rest

/-- The outermost text, and below it the causes; several causes are numbered. -/
def report (f : Failure) : String :=
  match f.chain with
  | [] => ""
  | [only] => only
  | [outer, cause] => outer ++ "\n\nCaused by:\n    " ++ hanging 4 cause
  | outer :: causes => outer ++ "\n\nCaused by:" ++ numbered 0 causes

end Failure

def during {α : Type} (doing : String) (r : Except Failure α) : Except Failure α :=
  match r with
  | .ok v => .ok v
  | .error f => .error (f.during doing)

end LoadOrder
