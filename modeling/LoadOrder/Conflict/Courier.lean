/-
  LoadOrder/Conflict/Courier.lean
  ===============================
  **One question at a time, on its way to the engine and back.**

  The courier carries a question to the engine while the program goes on.  It
  takes a new one only when it is free.  A question that is out is with a worker;
  when the engine has answered, or has broken down, the worker leaves the outcome
  in the mailbox and is gone; the courier is free again when somebody has fetched
  it from there.

  Worker and mailbox are kept apart, because the engine may answer long before
  anyone looks.
-/
import LoadOrder.Conflict.Engine

namespace LoadOrder

/-- The courier: the plugin it is asking about, the plugins that workers are asking
    about, the outcomes that nobody has fetched yet, oldest first, and the plugins
    asked about so far, the latest first. -/
structure Courier where
  active : Option String := none
  workers : List String := []
  mailbox : List Outcome := []
  asked : List String := []
deriving DecidableEq, Repr

namespace Courier

def isBusy (c : Courier) : Bool := c.active.isSome

/-- The number of questions that have not come back: with a worker or in the
    mailbox. -/
def pending (c : Courier) : Nat := c.workers.length + c.mailbox.length

/-- Sends a question about a plugin, unless one is out. -/
def send (c : Courier) (plugin : String) : Courier :=
  if c.isBusy then c
  else
    { c with
      active := some plugin
      workers := c.workers ++ [plugin]
      asked := plugin :: c.asked }

/-- Asks about a plugin, and says whether the question was taken. -/
def start (c : Courier) (plugin : String) : Bool × Courier :=
  if c.isBusy then (false, c) else (true, c.send plugin)

/-- The engine answers the question that has been out longest. -/
def deliver (c : Courier) (answer : Answer) : Courier :=
  match c.workers with
  | [] => c
  | plugin :: rest =>
    { c with workers := rest, mailbox := c.mailbox ++ [Outcome.ofAnswer plugin answer] }

/-- Fetches the oldest outcome from the mailbox and sets the courier free. -/
def fetch (c : Courier) : Option (Outcome × Courier) :=
  match c.mailbox with
  | [] => none
  | outcome :: rest => some (outcome, { c with mailbox := rest, active := none })

/-! ### Waiting for the engine -/

/-- What an engine has answered by the time somebody looks: to the plugins asked
    about before, the latest first, and a request; nothing if it is still at
    work. -/
abbrev Arrival := List String → Request → Option Answer

def Arrival.never : Arrival := fun _ _ => none

def Arrival.always (engine : Engine) : Arrival := fun asked request => some (engine asked request)

/-- The courier at the moment somebody looks into an empty mailbox: the engine may
    just have answered. -/
def arrive (c : Courier) (arrival : Arrival) : Courier :=
  match c.mailbox, c.workers with
  | [], plugin :: _ =>
    match arrival (c.asked.drop c.workers.length) (.conflictsOf plugin) with
    | some answer => c.deliver answer
    | none => c
  | _, _ => c

def poll (c : Courier) (arrival : Arrival) : Option (Outcome × Courier) := (c.arrive arrival).fetch

/-- Waits for the outcome of the question that is out; without one there is nothing
    to wait for. -/
def await (c : Courier) (engine : Engine) : Option (Outcome × Courier) :=
  if c.isBusy then c.poll (.always engine) else none

end Courier

end LoadOrder
