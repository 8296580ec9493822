/-
  LoadOrder/Filter/Toggles.lean
  =============================
  **The eight switches of the view.**

  Five of them decide which plugins and messages are shown; the other three only
  what a card shows of itself.  The switches are saved under fixed keys.
-/
import LoadOrder.Json.Basic

namespace LoadOrder

inductive Toggle where
  | hideMessageless
  | hideInactive
  | hideNotes
  | hideDoNotClean
  | hideAllMessages
  | hideVersions
  | hideCrcs
  | hideBashTags
deriving DecidableEq, Repr

structure Toggles where
  hideMessageless : Bool := false
  hideInactive : Bool := false
  hideNotes : Bool := false
  hideDoNotClean : Bool := false
  hideAllMessages : Bool := false
  hideVersions : Bool := false
  hideCrcs : Bool := false
  hideBashTags : Bool := false
deriving DecidableEq, Repr, Inhabited

namespace Toggle

/-- All switches, in the order in which they are listed and numbered. -/
def all : List Toggle :=
  [hideMessageless, hideInactive, hideNotes, hideDoNotClean, hideAllMessages, hideVersions,
   hideCrcs, hideBashTags]

/-- Whether a switch only changes what a card shows. -/
def isDisplayOnly : Toggle → Bool
  | hideVersions => true
  | hideCrcs => true
  | hideBashTags => true
  | _ => false

def label : Toggle → String
  | hideMessageless => "Hide messageless plugins"
  | hideInactive => "Hide inactive plugins"
  | hideNotes => "Hide notes"
  | hideDoNotClean => "Hide 'Do not clean' messages"
  | hideAllMessages => "Hide all plugin messages"
  | hideVersions => "Hide version numbers"
  | hideCrcs => "Hide CRCs"
  | hideBashTags => "Hide Bash Tags"

/-- The text of a switch where there is little room. -/
def shortLabel : Toggle → String
  | hideMessageless => "msgless"
  | hideInactive => "inactive"
  | hideNotes => "notes"
  | hideDoNotClean => "noclean"
  | hideAllMessages => "allmsg"
  | hideVersions => "version"
  | hideCrcs => "crc"
  | hideBashTags => "tags"

/-- The name of a switch in log lines. -/
def name : Toggle → String
  | hideMessageless => "HideMessageless"
  | hideInactive => "HideInactive"
  | hideNotes => "HideNotes"
  | hideDoNotClean => "HideDoNotClean"
  | hideAllMessages => "HideAllMessages"
  | hideVersions => "HideVersions"
  | hideCrcs => "HideCrcs"
  | hideBashTags => "HideBashTags"

/-- The key under which the position of a switch is saved. -/
def key : Toggle → String
  | hideMessageless => "hideMessagelessPlugins"
  | hideInactive => "hideInactivePlugins"
  | hideNotes => "hideNotes"
  | hideDoNotClean => "hideDoNotCleanMessages"
  | hideAllMessages => "hideAllPluginMessages"
  | hideVersions => "hideVersionNumbers"
  | hideCrcs => "hideCRCs"
  | hideBashTags => "hideBashTags"

/-- The option that switches it on from a command line. -/
def option : Toggle → String
  | hideMessageless => "--hide-messageless"
  | hideInactive => "--hide-inactive"
  | hideNotes => "--hide-notes"
  | hideDoNotClean => "--hide-do-not-clean"
  | hideAllMessages => "--hide-all-messages"
  | hideVersions => "--hide-versions"
  | hideCrcs => "--hide-crcs"
  | hideBashTags => "--hide-tags"

/-- The switch that a digit key flips. -/
def ofKey? (c : Char) : Option Toggle :=
  if c.isDigit ∧ c ≠ '0' then all[c.toNat - '1'.toNat]? else none

end Toggle

namespace Toggles

def get (t : Toggles) : Toggle → Bool
  | .hideMessageless => t.hideMessageless
  | .hideInactive => t.hideInactive
  | .hideNotes => t.hideNotes
  | .hideDoNotClean => t.hideDoNotClean
  | .hideAllMessages => t.hideAllMessages
  | .hideVersions => t.hideVersions
  | .hideCrcs => t.hideCrcs
  | .hideBashTags => t.hideBashTags

def set (t : Toggles) (toggle : Toggle) (on : Bool) : Toggles :=
  match toggle with
  | .hideMessageless => { t with hideMessageless := on }
  | .hideInactive => { t with hideInactive := on }
  | .hideNotes => { t with hideNotes := on }
  | .hideDoNotClean => { t with hideDoNotClean := on }
  | .hideAllMessages => { t with hideAllMessages := on }
  | .hideVersions => { t with hideVersions := on }
  | .hideCrcs => { t with hideCrcs := on }
  | .hideBashTags => { t with hideBashTags := on }

def setAll (t : Toggles) (toggles : List Toggle) : Toggles :=
  toggles.foldl (fun t toggle => t.set toggle true) t

/-- Whether a switch is on that decides which plugins or messages are shown. -/
def anyContent (t : Toggles) : Bool :=
  t.hideMessageless || t.hideInactive || t.hideNotes || t.hideDoNotClean || t.hideAllMessages

def on (t : Toggles) : List Toggle := Toggle.all.filter t.get

def toJson (t : Toggles) : Json :=
  .object (Toggle.all.map fun toggle => (toggle.key, .bool (t.get toggle)))

@[simp]
theorem get_set_self (t : Toggles) (toggle : Toggle) (on : Bool) :
    (t.set toggle on).get toggle = on := by
  cases toggle <;> rfl

theorem get_set_of_ne (t : Toggles) {a b : Toggle} (h : a ≠ b) (on : Bool) :
    (t.set a on).get b = t.get b := by
  cases a <;> cases b <;> first | rfl | exact absurd rfl h

end Toggles

end LoadOrder
