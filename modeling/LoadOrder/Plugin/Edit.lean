/-
  LoadOrder/Plugin/Edit.lean
  ==========================
  **Replacing fields of a plugin, all at once.**

  An edit names the fields it replaces.  The texts for display are computed again
  together with the field behind them.  The changes that the totals observe are
  part of the result: a replacement of the messages always, even by equal ones,
  and one of the dirty mark only if the mark flips.
-/
import LoadOrder.Totals

namespace LoadOrder

/-- Replacements for some fields of a plugin. -/
structure Edit where
  version : Option String := none
  crc : Option UInt32 := none
  empty : Option Bool := none
  priority : Option Int := none
  tags : Option (List TagDirective) := none
  messages : Option (List ReportedMessage) := none
  dirty : Option Bool := none
deriving DecidableEq, Repr

def Edit.isEmpty (e : Edit) : Bool :=
  e.version.isNone && e.crc.isNone && e.empty.isNone && e.priority.isNone && e.tags.isNone
    && e.messages.isNone && e.dirty.isNone

namespace Plugin

/-! ### One field -/

def setVersion (p : Plugin) (version : String) : Plugin := { p with version := version }

def setEmpty (p : Plugin) (empty : Bool) : Plugin := { p with empty := empty }

def setCrc (p : Plugin) (crc : UInt32) : Plugin :=
  { p with crc := crc, crcText := LoadOrder.crcText crc }

def setPriority (p : Plugin) (priority : Int) : Plugin :=
  { p with priority := priority, priorityText := LoadOrder.priorityText priority }

def setTags (p : Plugin) (tags : List TagDirective) : Plugin :=
  { p with tags := tags, tagTexts := LoadOrder.tagTexts tags }

def setMessages (p : Plugin) (messages : List ReportedMessage) : Plugin :=
  { p with messages := messages.map Message.ofReported }

def setDirty (p : Plugin) (dirty : Bool) : Plugin := { p with dirty := dirty }

def setIf {α : Type} (p : Plugin) (set : Plugin → α → Plugin) (value : Option α) : Plugin :=
  match value with
  | some v => set p v
  | none => p

/-! ### A whole edit -/

def edit (p : Plugin) (e : Edit) : Plugin :=
  ((((((p.setIf setVersion e.version).setIf setEmpty e.empty).setIf setCrc e.crc).setIf
    setPriority e.priority).setIf setTags e.tags).setIf setMessages e.messages).setIf
    setDirty e.dirty

def messageChanges (p : Plugin) (e : Edit) : List Change :=
  match e.messages with
  | some messages =>
    [.messages (Tally.ofMessages p.messages) (Tally.ofMessages (messages.map Message.ofReported))]
  | none => []

def dirtyChanges (p : Plugin) (e : Edit) : List Change :=
  match e.dirty with
  | some dirty => if p.dirty = dirty then [] else [.dirty dirty]
  | none => []

/-- The changes that the totals observe when an edit is made. -/
def editChanges (p : Plugin) (e : Edit) : List Change := p.messageChanges e ++ p.dirtyChanges e

def editEvents (p : Plugin) (e : Edit) (t : Totals) : List Event :=
  let changes := p.editChanges e
  t.applyAllEvents changes
    ++ (if changes.isEmpty then [] else [.countersSynced p.name changes.length])

end Plugin

end LoadOrder
