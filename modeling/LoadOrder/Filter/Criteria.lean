/-
  LoadOrder/Filter/Criteria.lean
  ==============================
  **Which messages and which plugins are shown.**

  The criteria are everything that the predicates look at, besides the plugin
  itself and the set of names that take part in a conflict.  Messages are judged
  one by one (`showsMessage`); a plugin is judged by what its messages leave over,
  by its activity, by the conflict set and by a search in its texts.

  There are two searches.  The content filter looks at every text of a plugin; the
  search bar leaves out what the card or the message filters hide.
-/
import LoadOrder.Filter.Toggles
import LoadOrder.Plugin.Basic

namespace LoadOrder

/-! ### Names -/

/-- A set of plugin names, sorted and without repetitions, so that equal sets are
    equal lists. -/
abbrev Names := List String

def Names.insert (name : String) : Names → Names
  | [] => [name]
  | n :: rest =>
    if name < n then name :: n :: rest
    else if name = n then n :: rest
    else n :: Names.insert name rest

def Names.ofList (names : List String) : Names := names.foldl (fun s n => Names.insert n s) []

/-! ### Criteria -/

/-- The phrase by which messages of the "do not clean" kind are known, unless the
    user has chosen another one. -/
def defaultPhrase : String := "Do not clean"

structure Criteria where
  toggles : Toggles := {}
  needle : String := ""
  conflictPlugin : Option String := none
  phrase : String := defaultPhrase
deriving DecidableEq, Repr

namespace Criteria

/-! ### Messages -/

def passesNotes (c : Criteria) (m : Message) : Bool :=
  !c.toggles.hideNotes || m.severity != .note

/-- Lets messages pass that do not hold the phrase, unless those are hidden.  An
    empty phrase hides nothing. -/
def passesPhrase (c : Criteria) (m : Message) : Bool :=
  !c.toggles.hideDoNotClean || c.phrase == "" || !Text.contains m.content c.phrase

def passesMessages (c : Criteria) : Bool := !c.toggles.hideAllMessages

def showsMessage (c : Criteria) (m : Message) : Bool :=
  c.passesMessages && (c.passesNotes m && c.passesPhrase m)

/-- The number of a plugin's messages that the message filters hide.  It is
    counted whether or not the plugin itself is shown. -/
def hiddenMessages (c : Criteria) (p : Plugin) : Nat :=
  if c.passesMessages then
    p.messages.countP fun m => !(c.passesNotes m && c.passesPhrase m)
  else p.messages.length

def markMessages (c : Criteria) (p : Plugin) : Plugin :=
  { p with messages := p.messages.map fun m => { m with hidden := !c.showsMessage m } }

/-! ### Plugins -/

/-- Lets plugins pass that have a message left, unless the others are shown. -/
def passesMessageless (c : Criteria) (p : Plugin) : Bool :=
  !c.toggles.hideMessageless || decide (c.hiddenMessages p < p.messages.length)

def passesActive (c : Criteria) (p : Plugin) : Bool := !c.toggles.hideInactive || p.active

end Criteria

namespace Plugin

/-- Lets the plugins of a conflict set pass; the empty set stands for all of
    them. -/
def passesConflicts (p : Plugin) (names : Names) : Bool :=
  names.isEmpty || names.contains p.name

/-- Whether a text holds a needle that is in lower case, in whatever case the
    text is. -/
def foldedContains (text needle : String) : Bool := Text.contains (Text.lowercase text) needle

/-- The content filter: whether one of the plugin's texts holds the needle, which
    is in lower case.  Everything holds the empty needle. -/
def matchesContent (p : Plugin) (needle : String) : Bool :=
  needle == ""
    || (foldedContains p.name needle || foldedContains p.crcText needle
      || foldedContains p.version needle || foldedContains p.tagTexts.added needle
      || foldedContains p.tagTexts.removed needle
      || p.messages.any fun m => foldedContains m.content needle)

/-- The search bar: whether one of the plugin's texts that are not hidden holds
    the needle, in whatever case it is. -/
def isVisible (p : Plugin) (needle : String) : Bool :=
  let needle := Text.lowercase needle
  needle == ""
    || (foldedContains p.name needle
      || (!p.card.versionHidden && foldedContains p.version needle)
      || (!p.card.crcHidden && foldedContains p.crcText needle)
      || (!p.card.tagsHidden
        && (foldedContains p.tagTexts.added needle || foldedContains p.tagTexts.removed needle))
      || p.messages.any fun m => !m.hidden && foldedContains m.content needle)

end Plugin

end LoadOrder
