/-
  LoadOrder/Terminal/Panels.lean
  ==============================
  **What the panels of the screen say.**

  The header with the totals and the switches, the rows of the list, the details of
  the selected plugin, the status bar and the log.  Each is a function of the
  session; nothing here knows how large the screen is, except for the status bar
  and the log, which choose what to leave out.
-/
import LoadOrder.Session.Text
import LoadOrder.Terminal.Keys
import LoadOrder.Terminal.Palette

namespace LoadOrder.Terminal

open LoadOrder

/-! ### Header -/

def stat (label value : String) (colour : Colour) : Line :=
  [coloured Palette.muted label, bold colour value, plain "   "]

/-- The colour of a number that is good if it is zero. -/
def alarm (n : Nat) (colour : Colour) : Colour := if 0 < n then colour else Palette.muted

/-- The first line: the title and the totals, and what is going on. -/
def headerTotals (s : Session) : Line :=
  let t := s.totals
  [bold Palette.note "PluginDeck", plain "  ",
   coloured Palette.text (if s.title = "" then "No game" else s.title), plain "   "]
    ++ stat "Messages: " (toString t.shownMessages ++ "/" ++ toString t.messages) Palette.text
    ++ stat "Warnings: " (toString t.warnings) (alarm t.warnings Palette.warn)
    ++ stat "Errors: " (toString t.errors) (alarm t.errors Palette.bad)
    ++ stat "Dirty: " (toString t.dirtyPlugins) (alarm t.dirtyPlugins Palette.warn)
    ++ (match s.progress with
        | some text => [coloured Palette.warn text]
        | none => [])

def toggleSpans (t : Toggles) (number : Nat) (toggle : Toggle) : Line :=
  let text := toString number ++ ":" ++ toggle.shortLabel
  [if t.get toggle then bold Palette.good text else coloured Palette.muted text, plain "  "]

/-- The last line: the switches and the content filter. -/
def headerToggles (s : Session) : Line :=
  (Toggle.all.zipIdx 1).flatMap (fun t => toggleSpans s.criteria.toggles t.2 t.1)
    ++ (if s.criteria.needle = "" then []
        else [coloured Palette.muted "Filter: ", coloured Palette.note s.criteria.needle])

def headerLines (s : Session) : List Line := [headerTotals s, [], headerToggles s]

/-! ### List -/

structure Cell where
  text : String
  colour : Option Colour := none
deriving DecidableEq, Repr

def worse : Severity → Severity → Severity
  | .error, _ => .error
  | _, .error => .error
  | .warn, _ => .warn
  | _, .warn => .warn
  | .note, .note => .note

def worst : List Message → Option Severity
  | [] => none
  | m :: rest =>
    match worst rest with
    | none => some m.severity
    | some s => some (worse m.severity s)

def nameColour (p : Plugin) : Colour :=
  if p.dirty then Palette.warn else if p.active then Palette.text else Palette.muted

/-- The six cells of a plugin: marker, priority, name, version, checksum, number of
    shown messages. -/
def rowOf (p : Plugin) : List Cell :=
  let shown := p.shownMessages
  [if p.card.found then { text := "*", colour := some Palette.note } else { text := " " },
   { text := p.priorityText },
   { text := p.name, colour := some (nameColour p) },
   { text := if p.card.versionHidden then "" else p.version },
   { text := if p.card.crcHidden then "" else p.crcText },
   { text := if shown.isEmpty then "" else toString shown.length
     colour := some (match worst shown with
       | some severity => Palette.ofSeverity severity
       | none => Palette.muted) }]

def rows (s : Session) : List (List Cell) := s.shownPlugins.map rowOf

/-! ### Details -/

def labelled (label value : String) : Line :=
  [coloured Palette.muted label, coloured Palette.text value]

def labelledIf (label value : String) : List Line :=
  if value = "" then [] else [labelled label value]

/-- What a plugin is, in words. -/
def flags (p : Plugin) : List String :=
  (if p.active then ["Active"] else []) ++ (if p.master then ["Master"] else [])
    ++ (if p.empty then ["Empty"] else []) ++ (if p.loadsArchive then ["Loads BSA"] else [])
    ++ (if p.hasUserEdits then ["User metadata"] else [])

def shortSeverity : Severity → String
  | .note => "Note"
  | .warn => "Warn"
  | .error => "Error"

/-- A message; one that is hidden is shown faintly. -/
def messageLine (m : Message) : Line :=
  let label := shortSeverity m.severity ++ ": "
  if m.hidden then
    [coloured Palette.muted label,
     { text := m.content, colour := some Palette.muted, weight := .dim }]
  else [bold (Palette.ofSeverity m.severity) label, coloured Palette.text m.content]

def pluginLines (p : Plugin) : List Line :=
  [[bold Palette.note p.name]]
    ++ (if p.card.versionHidden then [] else labelledIf "Version: " p.version)
    ++ (if p.card.crcHidden then [] else labelledIf "CRC: " p.crcText)
    ++ (if p.priorityText = "" then []
        else
          [labelled "Priority: " (p.priorityText ++ if p.globalPriority then " (global)" else "")])
    ++ labelledIf "Flags: " (Text.joined ", " (flags p))
    ++ (if p.dirty then [[coloured Palette.warn "Contains dirty edits"]] else [])
    ++ (if p.card.tagsHidden then []
        else labelledIf "Tags added: " p.tagTexts.added
          ++ labelledIf "Tags removed: " p.tagTexts.removed)
    ++ (if p.messages.isEmpty then [] else [[]])
    ++ p.messages.map messageLine

def detailLines (s : Session) : List Line :=
  match s.selectedPlugin? with
  | some p => pluginLines p
  | none => [[coloured Palette.muted "No plugin selected."]]

/-! ### Status -/

/-- The keys that may be of use. -/
def hint (s : Session) : String :=
  if s.criteria.conflictPlugin.isSome then
    "c/C clear conflicts | 1-8 toggles | f filter | / search | q quit"
  else "1-8 toggles | f filter | / search | c conflicts | y/Y copy | q quit"

def statusLeft (d : Desk) : String :=
  match d.keyboard.mode with
  | .normal => "Status: " ++ d.session.status
  | .editing prompt buffer _ => prompt ++ ": " ++ buffer

/-- The hint at the right of the status bar. -/
def statusRight (d : Desk) : String :=
  match d.keyboard.mode with
  | .normal => hint d.session
  | .editing _ _ _ => "Enter confirm | Esc cancel"

/-- Two texts at the ends of a line of some width.  The right one is dropped if there
    is not a blank between them, and the left one is cut if it is too long. -/
def barLine (left right : List Char) (width : Nat) : List Char :=
  if width ≤ left.length then left.take width
  else if width - left.length ≤ right.length then left
  else left ++ List.replicate (width - left.length - right.length) ' ' ++ right

def statusLine (d : Desk) (width : Nat) : String :=
  String.ofList (barLine (statusLeft d).toList (statusRight d).toList width)

/-! ### Log -/

def logLine (e : LogEntry) : Line :=
  let mark := match e.level with
    | .info => bold Palette.muted "info "
    | .warn => bold Palette.warn "warn "
    | .error => bold Palette.bad "error"
  [mark, plain " ", coloured Palette.text e.text]

def logLines (s : Session) (height : Nat) : List Line :=
  if height = 0 then []
  else if s.log.entries.isEmpty then [[coloured Palette.muted "Nothing logged yet."]]
  else (s.log.window height).map logLine

/-! ### Notices -/

/-- A text cut to some length, with three points in place of what is cut off. -/
def clip (text : String) (length : Nat) : String :=
  if text.toList.length ≤ length then text
  else String.ofList (text.toList.take (length - 3) ++ ['.', '.', '.'])

end LoadOrder.Terminal
