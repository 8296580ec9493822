/-
  LoadOrder/Command/Output.lean
  =============================
  **What the commands print.**

  Each command prints a text for people or a JSON document for programs.  Both show
  the same: of a plugin, what its card shows, and of its messages those that are not
  hidden.
-/
import LoadOrder.Command.Options
import LoadOrder.Session.Text

namespace LoadOrder

def line (s : String) : String := s ++ "\n"

def lines (ls : List String) : String := String.join (ls.map line)

/-! ### The list -/

namespace Plugin

def memberUnless (hidden : Bool) (key value : String) : Json.Members :=
  if hidden then [] else [(key, .text value)]

def messageJson (m : Message) : Json :=
  .object [("type", .text m.severity.name), ("content", .text m.content)]

def toJson (p : Plugin) : Json :=
  .object
    ([("name", .text p.name)]
      ++ memberUnless p.card.versionHidden "version" p.version
      ++ memberUnless p.card.crcHidden "crc" p.crcText
      ++ [("priority", .text p.priorityText), ("isActive", .bool p.active),
          ("isDirty", .bool p.dirty)]
      ++ memberUnless p.card.tagsHidden "tagsAdded" p.tagTexts.added
      ++ memberUnless p.card.tagsHidden "tagsRemoved" p.tagTexts.removed
      ++ [("searchResult", .bool p.card.found),
          ("messages", .list (p.shownMessages.map messageJson))])

/-- A text with a gap before it, unless there is no text or it is hidden. -/
def extra (hidden : Bool) (value : String) : String :=
  if hidden || value == "" then "" else "  " ++ value

def listLines (p : Plugin) : List String :=
  ((if p.card.found then ">" else " ") ++ (if p.active then "*" else " ") ++ " " ++ p.name
      ++ extra p.card.versionHidden p.version ++ extra p.card.crcHidden p.crcText
      ++ (if p.dirty then "  [dirty]" else ""))
    :: p.shownMessages.map fun m => "      " ++ m.severity.label ++ ": " ++ m.content

end Plugin

def Session.listing (s : Session) : Format → String
  | .json => line (Json.wide (.list (s.shownPlugins.map Plugin.toJson)))
  | .text => lines (s.shownPlugins.flatMap Plugin.listLines)

/-! ### The counts -/

def natJson (n : Nat) : Json := .int n

def Session.counts (s : Session) : Format → String
  | .json =>
    line (Json.wide (.object
      [("filteredTotalMessages", natJson s.totals.shownMessages),
       ("totalMessages", natJson s.totals.messages),
       ("totalWarnings", natJson s.totals.warnings),
       ("totalErrors", natJson s.totals.errors),
       ("dirtyPluginCount", natJson s.totals.dirtyPlugins),
       ("totalPlugins", natJson s.plugins.length),
       ("shownPlugins", natJson s.view.shown.length),
       ("hiddenPluginNo", natJson s.view.hiddenPlugins),
       ("hiddenMessageNo", natJson s.view.hiddenMessages)]))
  | .text =>
    lines
      ["Plugins: " ++ toString s.view.shown.length ++ " shown, "
        ++ toString s.view.hiddenPlugins ++ " hidden, " ++ toString s.plugins.length ++ " total",
       "Messages: " ++ toString s.totals.shownMessages ++ " shown, "
        ++ toString s.view.hiddenMessages ++ " hidden, " ++ toString s.totals.messages ++ " total",
       "Warnings: " ++ toString s.totals.warnings,
       "Errors: " ++ toString s.totals.errors,
       "Dirty plugins: " ++ toString s.totals.dirtyPlugins]

/-! ### The settings -/

/-- The settings that a command line leaves in force. -/
structure Settings where
  toggles : Toggles
  phrase : String
  engine : EngineChoice
  folder : String
deriving DecidableEq, Repr

namespace Settings

def of (c : Config) (o : Options) (folder : String) : Settings where
  toggles := o.toggles c.toggles
  phrase := c.phrase
  engine := o.engine.getD c.engine
  folder := folder

/-- A label, filled up to the width of the labels, and a value. -/
def row (label value : String) : String :=
  label ++ String.ofList (List.replicate (28 - Text.count label) ' ') ++ " " ++ value

def engineText : EngineChoice → String
  | .absent => "none"
  | .file path => "file " ++ path
  | .web url _ => "http " ++ url

def print (s : Settings) : Format → String
  | .json =>
    line (Json.wide (.object
      [("filters", s.toggles.toJson), ("doNotCleanPhrase", .text s.phrase),
       ("engine", s.engine.toJson), ("configDir", .text s.folder)]))
  | .text =>
    lines
      ((Toggle.all.map fun toggle =>
          row toggle.label (if s.toggles.get toggle then "on" else "off"))
        ++ [row "Do not clean phrase" ("\"" ++ s.phrase ++ "\""),
            row "Conflict engine" (engineText s.engine),
            row "Config dir" s.folder])

end Settings

/-! ### Help -/

def versionText : String := "PluginDeck v0.3.0"

def helpText : String :=
  lines
    [versionText,
     "Usage:",
     "  plugindeck                      Launch TUI",
     "  plugindeck list                 List plugins that pass the filters",
     "  plugindeck counts               Show message and plugin counters",
     "  plugindeck conflicts <plugin>   List plugins conflicting with <plugin>",
     "  plugindeck settings             Show effective filter settings",
     "",
     "Global options:",
     "  -s, --snapshot <path>           Load order snapshot (JSON)",
     "  --format <json|text>            Output format for commands",
     "  --engine-file <path>            Answer conflict queries from a JSON file",
     "  --engine-url <url>              Answer conflict queries over HTTP",
     "  --filter <text>                 Content filter",
     "  --search <text>                 Mark plugins matching <text>",
     "  -h, --help                      Show help",
     "  -V, --version                   Show version",
     "",
     "Filter options:",
     "  --hide-messageless              Hide plugins without visible messages",
     "  --hide-inactive                 Hide inactive plugins",
     "  --hide-notes                    Hide notes",
     "  --hide-do-not-clean             Hide 'Do not clean' messages",
     "  --hide-all-messages             Hide all plugin messages",
     "  --hide-versions                 Hide version numbers",
     "  --hide-crcs                     Hide CRCs",
     "  --hide-tags                     Hide Bash Tags"]

end LoadOrder
