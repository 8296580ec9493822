/-
  LoadOrder/Plugin/Basic.lean
  ===========================
  **One plugin of a load order, and the texts that stand for it.**

  A plugin is what the sorting engine reports about it (`PluginData`) together
  with what the program keeps beside it: texts for display, computed once when
  the field behind them is set, and the marks of its card.  The texts are

  * the identifier: the name without its blanks;
  * the checksum: eight upper-case hexadecimal digits, or nothing for zero;
  * the priority: its decimal digits with a sign, or nothing for zero;
  * the tags, in two lists: those a plugin removes (written with a dash in front)
    and those it adds.  A tag that is both, in whatever case, counts as removed,
    wherever the two stand.
-/
import LoadOrder.Json.Printer
import LoadOrder.Text.Blank
import LoadOrder.Text.Lowercase
import LoadOrder.Text.Search

namespace LoadOrder

open Numeric

/-! ### What is reported -/

inductive Severity where
  | note
  | warn
  | error
deriving DecidableEq, Repr

structure LocalText where
  text : String
  language : Option String := none
deriving DecidableEq, Repr

/-- A message as it is reported, in several languages. -/
structure ReportedMessage where
  severity : Severity
  texts : List LocalText := []
  condition : Option String := none
deriving DecidableEq, Repr

/-- A tag that is suggested for a plugin; a dash in front of the name asks to
    remove it. -/
structure TagDirective where
  name : String
  condition : Option String := none
deriving DecidableEq, Repr

structure PluginData where
  name : Option String := none
  version : String := ""
  active : Bool := false
  empty : Bool := false
  master : Bool := false
  loadsArchive : Bool := false
  crc : UInt32 := 0
  masterlist : Option Json.Members := none
  userlist : Option Json.Members := none
  priority : Int := 0
  globalPriority : Bool := false
  dirty : Bool := false
  tags : List TagDirective := []
  messages : List ReportedMessage := []
deriving Repr

/-! ### What is kept -/

/-- A message as it is shown, with the mark that hides it. -/
structure Message where
  severity : Severity
  content : String
  condition : Option String := none
  hidden : Bool := false
deriving DecidableEq, Repr

/-- The tags of a plugin as they are shown. -/
structure TagTexts where
  added : String := ""
  removed : String := ""
deriving DecidableEq, Repr

/-- The marks of a plugin's card.  They are never saved. -/
structure Card where
  found : Bool := false
  versionHidden : Bool := false
  crcHidden : Bool := false
  tagsHidden : Bool := false
deriving DecidableEq, Repr

structure Plugin where
  name : String
  id : String
  version : String
  active : Bool
  empty : Bool
  master : Bool
  loadsArchive : Bool
  masterlist : Option Json.Members
  userlist : Option Json.Members
  globalPriority : Bool
  card : Card
  priority : Int
  priorityText : String
  crc : UInt32
  crcText : String
  tags : List TagDirective
  tagTexts : TagTexts
  messages : List Message
  dirty : Bool
deriving Repr

/-! ### Texts for display -/

def upperHexDigit (n : Nat) : Char :=
  if n < 10 then Char.ofNat ('0'.toNat + n) else Char.ofNat ('A'.toNat + (n - 10))

def upperHex : Nat → Nat → List Char
  | 0, _ => []
  | width + 1, n => upperHex width (n / 16) ++ [upperHexDigit (n % 16)]

/-- The text of a checksum.  Zero means that it is not known. -/
def crcText (crc : UInt32) : String :=
  if crc = 0 then "" else String.ofList (upperHex 8 crc.toNat)

/-- The text of a priority.  Zero means that there is none. -/
def priorityText (priority : Int) : String :=
  if priority = 0 then "" else String.ofList (Json.intChars priority)

def pluginId (name : String) : String := Text.squeeze name

/-- The name behind the dash, if the directive removes its tag. -/
def TagDirective.removedName? (t : TagDirective) : Option String :=
  match t.name.toList with
  | '-' :: rest => some (String.ofList rest)
  | _ => none

/-- The name of the tag, if the directive adds it. -/
def TagDirective.addedName? (t : TagDirective) : Option String :=
  if t.removedName?.isSome then none else some t.name

def removedNames (tags : List TagDirective) : List String :=
  tags.filterMap TagDirective.removedName?

/-- The names that directives add, in order, without those that are removed. -/
def addedNames (tags : List TagDirective) : List String :=
  (tags.filterMap TagDirective.addedName?).filter fun name =>
    !((removedNames tags).map Text.lowercase).contains (Text.lowercase name)

def tagTexts (tags : List TagDirective) : TagTexts where
  added := Text.joined ", " (addedNames tags)
  removed := Text.joined ", " (removedNames tags)

/-- A message as it is shown: the first of its texts, and no mark. -/
def Message.ofReported (m : ReportedMessage) : Message where
  severity := m.severity
  content := match m.texts with
    | first :: _ => first.text
    | [] => ""
  condition := m.condition

/-! ### Plugins -/

namespace Plugin

def sumOf (f : Plugin → Nat) : List Plugin → Nat
  | [] => 0
  | p :: rest => f p + sumOf f rest

/-- The plugin of a name, with every text for display filled in. -/
def ofData (name : String) (data : PluginData) : Plugin where
  name := name
  id := pluginId name
  version := data.version
  active := data.active
  empty := data.empty
  master := data.master
  loadsArchive := data.loadsArchive
  masterlist := data.masterlist
  userlist := data.userlist
  globalPriority := data.globalPriority
  card := {}
  priority := data.priority
  priorityText := LoadOrder.priorityText data.priority
  crc := data.crc
  crcText := LoadOrder.crcText data.crc
  tags := data.tags
  tagTexts := LoadOrder.tagTexts data.tags
  messages := data.messages.map Message.ofReported
  dirty := data.dirty

/-- Whether the user has changed something: their list holds more than the one
    entry that names the plugin. -/
def hasUserEdits (p : Plugin) : Bool :=
  match p.userlist with
  | some members => decide (1 < members.length)
  | none => false

def hasMessage (p : Plugin) (index : Nat) : Bool := decide (index < p.messages.length)

/-- Marks the message at an index as hidden or shown; nothing happens behind the
    last message. -/
def markMessage (p : Plugin) (index : Nat) (hidden : Bool) : Plugin :=
  { p with messages := p.messages.modify index fun m => { m with hidden := hidden } }

def shownMessages (p : Plugin) : List Message := p.messages.filter fun m => !m.hidden

end Plugin

end LoadOrder
