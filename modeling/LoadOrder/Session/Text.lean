/-
  LoadOrder/Session/Text.lean
  ===========================
  **Texts of a session for use elsewhere.**

  The shown load order, one name a line, and the card of a plugin as plain lines.
  A line stands only for what the plugin has; the user's own metadata comes last,
  as a JSON document.
-/
import LoadOrder.Session.Basic

namespace LoadOrder

def Severity.label : Severity → String
  | .note => "Note"
  | .warn => "Warning"
  | .error => "Error"

/-- A line with a heading, unless there is nothing to head. -/
def headedLine (heading value : String) : List String :=
  if value = "" then [] else [heading ++ value]

def Plugin.cardLines (p : Plugin) : List String :=
  [p.name]
    ++ headedLine "Version: " p.version
    ++ headedLine "CRC: " p.crcText
    ++ (if p.priorityText = "" then []
        else ["Priority: " ++ p.priorityText ++ " ("
          ++ (if p.globalPriority then "global" else "local") ++ ")"])
    ++ headedLine "Bash Tags added: " p.tagTexts.added
    ++ headedLine "Bash Tags removed: " p.tagTexts.removed
    ++ (p.messages.map fun m => m.severity.label ++ ": " ++ m.content)
    ++ (match p.userlist with
        | some members =>
          if p.hasUserEdits then ["User metadata:\n" ++ Json.wide (.object members)] else []
        | none => [])

def Plugin.cardText (p : Plugin) : String := Text.joined "\n" p.cardLines

/-- The names of the shown plugins, one a line. -/
def Session.loadOrderText (s : Session) : String :=
  Text.joined "\n" (s.shownPlugins.map Plugin.name)

end LoadOrder
