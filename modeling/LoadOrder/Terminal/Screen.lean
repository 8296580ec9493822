/-
  LoadOrder/Terminal/Screen.lean
  ==============================
  **One frame of the screen.**

  From top to bottom: a header of three lines, the list beside the details, a status
  bar, and the log.  The header, the bar and the log have fixed heights, the details
  a fixed width; the list takes what is left.  A notice is drawn over the list and
  the details.

  A frame is a list of rows of glyphs.  Everything is drawn by writing a run of
  glyphs into a row (`Frame.write`), which never reaches outside of the width it is
  given, so that no part disturbs another.
-/
import LoadOrder.Terminal.Panels
import LoadOrder.Terminal.Wrap

namespace LoadOrder.Terminal

open LoadOrder

/-! ### Glyphs -/

structure Glyph where
  char : Char
  colour : Option Colour := none
  marked : Bool := false
deriving DecidableEq, Repr, Inhabited

def blankGlyph : Glyph := { char := ' ' }

def glyphs (colour : Option Colour) (text : String) : List Glyph :=
  text.toList.map fun c => { char := c, colour }

/-- The glyphs of a line; a span without a colour has that of its surroundings. -/
def lineGlyphs (around : Option Colour) (line : Line) : List Glyph :=
  line.flatMap fun s => glyphs (s.colour.orElse fun _ => around) s.text

/-- The column at which a run begins that is centred in some width. -/
def centre (width length : Nat) : Nat := width / 2 - length / 2

/-! ### Frames -/

/-- A frame: its rows from the top. -/
structure Frame where
  rows : List (List Glyph)
deriving DecidableEq, Repr

/-- A part of the screen. -/
structure Area where
  x : Nat
  y : Nat
  width : Nat
  height : Nat
deriving DecidableEq, Repr

namespace Frame

def blank (width height : Nat) : Frame :=
  ⟨List.replicate height (List.replicate width blankGlyph)⟩

def overwrite (row : List Glyph) (x : Nat) (run : List Glyph) : List Glyph :=
  row.take x ++ run ++ row.drop (x + run.length)

/-- Writes a run of at most `width` glyphs into a row. -/
def write (f : Frame) (x y width : Nat) (run : List Glyph) : Frame :=
  ⟨f.rows.modify y fun row => overwrite row x (run.take width)⟩

def writeLines (f : Frame) (a : Area) (lines : List (List Glyph)) : Frame :=
  ((lines.take a.height).zipIdx).foldl (fun f l => f.write a.x (a.y + l.2) a.width l.1) f

def writeCentred (f : Frame) (a : Area) (lines : List (List Glyph)) : Frame :=
  f.writeLines a (lines.map fun l =>
    List.replicate (centre a.width l.length) blankGlyph ++ l)

/-- A row of a box: its two ends and what is between them. -/
def boxRow (colour : Colour) (left fill right : Char) (width : Nat) : List Glyph :=
  [{ char := left, colour := some colour }]
    ++ List.replicate (width - 2) { char := fill, colour := some colour }
    ++ [{ char := right, colour := some colour }]

def box (f : Frame) (a : Area) (colour : Colour) : Frame :=
  f.writeLines a
    (boxRow colour '╭' '─' '╮' a.width
      :: (List.replicate (a.height - 2) (boxRow colour '│' ' ' '│' a.width)
        ++ [boxRow colour '╰' '─' '╯' a.width]))

/-- The area inside a panel: a border and one blank column at each side. -/
def inside (a : Area) : Area := ⟨a.x + 2, a.y + 1, a.width - 4, a.height - 2⟩

def panel (f : Frame) (a : Area) (title : String) : Frame :=
  (f.box a Palette.frame).write (a.x + 1) a.y (a.width - 2)
    (glyphs (some Palette.note) title)

end Frame

/-! ### The parts of the screen -/

def headerHeight : Nat := 3

def statusHeight : Nat := 3

def logHeight : Nat := 8

def detailsWidth : Nat := 50

def bodyHeight (height : Nat) : Nat := height - (headerHeight + statusHeight + logHeight)

/-- The area between the header and the status bar. -/
def bodyArea (width height : Nat) : Area := ⟨0, headerHeight, width, bodyHeight height⟩

def listArea (width height : Nat) : Area :=
  ⟨0, headerHeight, width - detailsWidth, bodyHeight height⟩

def detailsArea (width height : Nat) : Area :=
  ⟨width - detailsWidth, headerHeight, detailsWidth, bodyHeight height⟩

def statusArea (width height : Nat) : Area :=
  ⟨0, headerHeight + bodyHeight height, width, statusHeight⟩

def logArea (width height : Nat) : Area :=
  ⟨0, headerHeight + bodyHeight height + statusHeight, width, logHeight⟩

/-! ### The list -/

def listTitle (s : Session) : String :=
  match s.criteria.conflictPlugin with
  | some plugin => "Plugins (conflicts with " ++ plugin ++ ")"
  | none =>
    "Plugins (" ++ toString s.view.shown.length ++ "/" ++ toString s.plugins.length ++ ")"

/-- The widths of the columns; the third one takes what the others leave. -/
def columnWidths (width : Nat) : List Nat := [1, 6, width - 35, 10, 8, 4]

def headings : List Cell :=
  ["", "Prio", "Plugin", "Version", "CRC", "Msg"].map fun text =>
    { text, colour := some Palette.text }

/-- A run cut or filled up to a width. -/
def fit (width : Nat) (run : List Glyph) : List Glyph :=
  run.take width ++ List.replicate (width - run.length) blankGlyph

/-- A row of the table: the mark of the selection, then the cells with a blank
    between neighbours. -/
def tableRow (width : Nat) (mark : Char) (cells : List Cell) : List Glyph :=
  let columns := (cells.zip (columnWidths width)).map fun c =>
    fit c.2 (glyphs c.1.colour c.1.text)
  { char := mark } :: List.intercalate [blankGlyph] columns

def highlight (run : List Glyph) : List Glyph := run.map fun g => { g with marked := true }

/-- The rows of the table, of which only as many are left out at the top as is needed
    for the selected one to be seen. -/
def tableRows (s : Session) (a : Area) : List (List Glyph) :=
  let height := a.height - 1
  let shown := (rows s).zipIdx.drop (s.selected - (height - 1))
  (shown.take height).map fun r =>
    if r.2 = s.selected then highlight (tableRow a.width '>' r.1) else tableRow a.width ' ' r.1

def emptyListText (s : Session) : String :=
  if s.plugins.isEmpty then "No plugins loaded. Start with --snapshot <path>."
  else "No plugins pass the current filters."

def drawList (s : Session) (a : Area) (f : Frame) : Frame :=
  let f := f.panel a (listTitle s)
  let inner := Frame.inside a
  if s.shownPlugins.isEmpty then
    f.writeCentred inner [glyphs (some Palette.muted) (emptyListText s)]
  else f.writeLines inner (tableRow inner.width ' ' headings :: tableRows s inner)

/-! ### The other parts -/

def drawHeader (s : Session) (width : Nat) (f : Frame) : Frame :=
  f.writeCentred ⟨0, 0, width, headerHeight⟩ ((headerLines s).map (lineGlyphs none))

def drawDetails (s : Session) (a : Area) (f : Frame) : Frame :=
  let inner := Frame.inside a
  (f.panel a "Details").writeLines inner
    ((detailLines s).flatMap fun l =>
      wrap inner.width (fun g => Text.isBreak g.char) (lineGlyphs (some Palette.text) l))

def drawStatus (d : Desk) (a : Area) (f : Frame) : Frame :=
  let inner := Frame.inside a
  (f.panel a "Status").writeLines inner
    [glyphs (some Palette.text) (statusLine d inner.width)]

def drawLog (s : Session) (a : Area) (f : Frame) : Frame :=
  let inner := Frame.inside a
  (f.panel a "Log").writeLines inner
    ((logLines s inner.height).map (lineGlyphs (some Palette.text)))

def minNoticeWidth : Nat := 24

def drawNotice (s : Session) (body : Area) (f : Frame) : Frame :=
  match s.liveNotice with
  | none => f
  | some n =>
    let most := max (body.width - 4) minNoticeWidth
    let message := clip n.text (most - 4)
    let width := min (max (message.toList.length + 4) minNoticeWidth) most
    let a : Area := ⟨body.x + (body.width - width) / 2, body.y + 1, width, 3⟩
    (f.box a (Palette.ofNotice n.level)).writeCentred ⟨a.x + 1, a.y + 1, width - 2, 1⟩
      [glyphs (some Palette.text) message]

def draw (d : Desk) (width height : Nat) : Frame :=
  let s := d.session
  drawNotice s (bodyArea width height)
    (drawLog s (logArea width height)
      (drawStatus d (statusArea width height)
        (drawDetails s (detailsArea width height)
          (drawList s (listArea width height)
            (drawHeader s width (Frame.blank width height))))))

/-! ### Looking at a frame -/

namespace Frame

/-- A run without the blanks at its end. -/
def rightTrimmed (run : List Char) : List Char :=
  (run.reverse.dropWhile fun c => c == ' ').reverse

def lines (f : Frame) : List String :=
  f.rows.map fun row => String.ofList (rightTrimmed (row.map Glyph.char))

/-- The numbers of the rows on which something is selected. -/
def markedRows (f : Frame) : List Nat :=
  View.indicesFrom (fun row => row.any Glyph.marked) 0 f.rows

/-- The colours of a character wherever it stands, row by row. -/
def coloursOf (f : Frame) (c : Char) : List (Option Colour) :=
  f.rows.flatMap fun row => (row.filter fun g => g.char == c).map Glyph.colour

end Frame

end LoadOrder.Terminal
