/-
  LoadOrder/Text/Blank.lean
  =========================
  **Blank characters and what is cut at the ends of a text.**

  "Blank" is the Unicode property White_Space, which is wider than the blanks of
  ASCII and which no update of the standard has changed in years.  It decides
  three things here: what a plugin's identifier leaves out, what is cut off the
  ends of a filter text or of an engine's answer, and where a line may be
  broken.  For the last of these the no-break space is set apart (`isBreak`).

  `trim` is stated on lists of characters, where "drop from the front" and "drop
  from the back" are the same function seen from either end.
-/

namespace LoadOrder.Text

/-! ### The class -/

/-- The ranges of White_Space, both ends included. -/
def blankRanges : List (Nat × Nat) :=
  [(0x9, 0xD), (0x20, 0x20), (0x85, 0x85), (0xA0, 0xA0), (0x1680, 0x1680), (0x2000, 0x200A),
   (0x2028, 0x2029), (0x202F, 0x202F), (0x205F, 0x205F), (0x3000, 0x3000)]

/-- Whether a code point lies in one of the ranges of a table. -/
def inRanges (table : List (Nat × Nat)) (n : Nat) : Bool :=
  table.any fun r => decide (r.1 ≤ n) && decide (n ≤ r.2)

/-- A character of the class White_Space. -/
def isBlank (c : Char) : Bool := inRanges blankRanges c.toNat

/-- A blank at which a line may be broken: any but the no-break space. -/
def isBreak (c : Char) : Bool := isBlank c && c != '\u00A0'

/-! ### Cutting blanks -/

def trimFront (cs : List Char) : List Char := cs.dropWhile isBlank

def trimBack (cs : List Char) : List Char := (cs.reverse.dropWhile isBlank).reverse

/-- The text without the blanks at either end. -/
def trim (s : String) : String := String.ofList (trimBack (trimFront s.toList))

def squeeze (s : String) : String := String.ofList (s.toList.filter fun c => !isBlank c)

end LoadOrder.Text
