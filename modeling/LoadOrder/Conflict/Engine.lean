/-
  LoadOrder/Conflict/Engine.lean
  ==============================
  **The sorting engine, seen through its one question.**

  An engine is asked with a request and answers with a text, with a failure, or
  by breaking down.  What it answers may depend on what it was asked before, so an
  engine is a function of the plugins asked about so far, the latest first, and
  the request; it has no other state.

  Whatever the engine does, the outcome of a question is one of two: the question
  was completed, with or without data, or it failed with a text (`Outcome`).
-/
import LoadOrder.Conflict.Report
import LoadOrder.Store
import LoadOrder.Json.Reader
import LoadOrder.Json.Printer

namespace LoadOrder

/-! ### Questions and answers -/

structure Request where
  name : String
  args : List String
deriving DecidableEq, Repr

def conflictQuery : String := "getConflictingPlugins"

def Request.conflictsOf (plugin : String) : Request := ⟨conflictQuery, [plugin]⟩

/-- What an engine does with a request.  A breakdown may come with a text. -/
inductive Answer where
  | reply (raw : String)
  | failure (f : Failure)
  | breakdown (text : Option String)
deriving DecidableEq, Repr

/-- An engine: its answer to a request, after it was asked about these plugins,
    the latest first. -/
abbrev Engine := List String → Request → Answer

/-! ### Engines -/

namespace Engine

/-- The engine of a program that has none: every question fails. -/
def absent : Engine := fun _ request =>
  .failure { cause := .engine (.notConfigured request.name) }

/-- The answers of a conflict file: the members of its top level. -/
def readAnswers (raw : String) : Except Json.Fault Json.Members :=
  match (Json.Cursor.ofText raw).skipBlanks.rest with
  | '[' :: _ =>
    .error ⟨.wrongType .list "a map", some (Json.Cursor.ofText raw).skipBlanks.place⟩
  | _ =>
    match (Json.Cursor.ofText raw).value Json.maxDepth with
    | .stop fault _ => .error fault
    | .done (.object members) next =>
      match next.ending with
      | .error fault => .error fault
      | .ok _ => .ok (Json.canonicalMembers members)
    | .done v next => .error ⟨.wrongType v.found "a map", some next.place⟩

def answerIn (plugin raw : String) : Answer :=
  match readAnswers raw with
  | .error fault => .failure { doing := ["parse conflict data"], cause := .badText fault }
  | .ok answers => .reply ((Json.lookup plugin answers).getD .null).compact

def ofFile (store : Store) (path : String) : Engine := fun _ request =>
  if request.name ≠ conflictQuery then
    .failure { cause := .engine (.unsupported request.name) }
  else
    match request.args with
    | [] => .failure { cause := .engine .noPlugin }
    | plugin :: _ =>
      match store.readText path with
      | .error e => .failure { doing := ["read conflict data " ++ path], cause := .system e }
      | .ok raw => answerIn plugin raw

def unreachable (url reason : String) : Engine := fun _ _ =>
  .failure { doing := ["query engine at " ++ url], cause := .told reason }

/-- The answers a script has for a plugin, and the names it has them for: the
    plugin's own list, or the list of all others. -/
def scriptFor (script : List (String × List Answer)) (plugin : String) : String × List Answer :=
  match script.find? fun entry => entry.1 == plugin with
  | some entry => entry
  | none => ("*", ((script.find? fun entry => entry.1 == "*").map Prod.snd).getD [])

/-- The engine that follows a script: each list of answers is used from its front,
    and its last answer again and again.  Without a list it has no data. -/
def scripted (script : List (String × List Answer)) : Engine := fun asked request =>
  let plugin := request.args.headD ""
  let list := scriptFor script plugin
  let used := asked.countP fun earlier => (scriptFor script earlier).1 == list.1
  match list.2[min used (list.2.length - 1)]? with
  | some answer => answer
  | none => .reply "null"

end Engine

/-! ### Outcomes -/

inductive Outcome where
  | completed (plugin : String) (report : Option Report)
  | failed (plugin : String) (text : String)
deriving DecidableEq, Repr

namespace Outcome

def plugin : Outcome → String
  | completed plugin _ => plugin
  | failed plugin _ => plugin

def ofAnswer (plugin : String) : Answer → Outcome
  | .breakdown text =>
    failed plugin ("conflict engine panicked: " ++ text.getD "unknown panic")
  | .failure f => failed plugin f.fullMessage
  | .reply raw =>
    match Report.parse plugin raw with
    | .ok report => completed plugin report
    | .error cause => failed plugin (Failure.fullMessage { cause })

end Outcome

end LoadOrder
