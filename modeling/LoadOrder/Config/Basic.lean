/-
  LoadOrder/Config/Basic.lean
  ===========================
  **What the program remembers between two runs.**

  The configuration is a record with a default for every field, so the empty
  record is a configuration too.  The engine is chosen by a kind, and each kind
  has fields of its own.
-/
import LoadOrder.Filter.Criteria

namespace LoadOrder

inductive EngineChoice where
  | absent
  | file (path : String)
  | web (url : String) (timeoutSecs : Nat)
deriving DecidableEq, Repr

/-- How long an engine on the web may take, in seconds. -/
def defaultTimeout : Nat := 30

structure Config where
  toggles : Toggles := {}
  phrase : String := defaultPhrase
  engine : EngineChoice := .absent
  logLevel : String := "info"
  lastSnapshot : Option String := none
deriving DecidableEq, Repr

/-! ### As JSON -/

def EngineChoice.toJson : EngineChoice → Json
  | .absent => .object [("kind", .text "none")]
  | .file path => .object [("kind", .text "file"), ("path", .text path)]
  | .web url timeoutSecs =>
    .object [("kind", .text "http"), ("url", .text url), ("timeout_secs", .int timeoutSecs)]

def Config.toJson (c : Config) : Json :=
  .object
    [("filters", c.toggles.toJson),
     ("do_not_clean_phrase", .text c.phrase),
     ("engine", c.engine.toJson),
     ("log_level", .text c.logLevel),
     ("last_snapshot", match c.lastSnapshot with
       | some path => .text path
       | none => .null)]

end LoadOrder
