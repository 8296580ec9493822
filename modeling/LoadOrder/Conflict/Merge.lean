/-
  LoadOrder/Conflict/Merge.lean
  =============================
  **Folding a report into the load order.**

  Each finding replaces five fields of the first plugin of its name; a name that
  the load order does not have is noted and otherwise ignored.  The totals follow
  every replacement.  The result also names the plugins that the view is to be
  restricted to: the one that was asked about, and those that the report says
  conflict with it, whether the load order has them or not.
-/
import LoadOrder.Conflict.Report
import LoadOrder.Filter.Criteria
import LoadOrder.Plugin.Edit

namespace LoadOrder

def Finding.edit (f : Finding) : Edit :=
  { crc := some f.crc, empty := some f.empty, messages := some f.messages,
    tags := some f.tags, dirty := some f.dirty }

/-- A load order with its totals, the names gathered so far, and what is reported
    about the merge. -/
structure Merge where
  plugins : List Plugin
  totals : Totals
  names : Names := []
  events : List Event := []
deriving Repr

namespace Merge

def named? (name : String) (plugins : List Plugin) : Option Plugin :=
  plugins.find? fun p => p.name == name

def editFirst (name : String) (e : Edit) : List Plugin → List Plugin
  | [] => []
  | p :: rest => if p.name = name then p.edit e :: rest else p :: editFirst name e rest

def editNamed (m : Merge) (name : String) (e : Edit) : Merge :=
  match named? name m.plugins with
  | none => m
  | some p =>
    { m with
      plugins := editFirst name e m.plugins
      totals := m.totals.applyAll (p.editChanges e)
      events := m.events ++ p.editEvents e m.totals }

def noteConflict (m : Merge) (name : String) (conflicts : Bool) : Merge :=
  if conflicts then { m with names := Names.insert name m.names } else m

def noteMissing (m : Merge) (name : String) : Merge :=
  match named? name m.plugins with
  | none => { m with events := m.events ++ [.notInLoadOrder name] }
  | some _ => m

def addFinding (m : Merge) (entry : String × Finding) : Merge :=
  (((m.noteConflict entry.1 entry.2.conflicts).noteMissing entry.1).editNamed entry.1
    entry.2.edit)

/-- Folds in a report about a plugin; without data only that plugin is named. -/
def run (plugins : List Plugin) (totals : Totals) (plugin : String) (report : Option Report) :
    Merge :=
  (report.getD []).foldl addFinding { plugins, totals, names := Names.insert plugin [] }

end Merge

end LoadOrder
