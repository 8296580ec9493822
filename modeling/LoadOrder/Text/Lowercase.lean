/-
  LoadOrder/Text/Lowercase.lean
  =============================
  **The lower-case form of a text, by the full mapping of Unicode.**

  Two rules go beyond a table of single characters.  `İ` has a lower-case form
  of two characters, so the result may be longer than the text.  And `Σ` has
  two lower-case forms: `ς` at the end of a word and `σ` elsewhere, where "at
  the end of a word" looks at both sides and skips what the standard calls
  case-ignorable (apostrophes, accents, zero-width characters).  So the form of
  a character depends on its neighbours, and the form of a part of a text need
  not be a part of the form of the text.
-/
import LoadOrder.Text.Blank
import LoadOrder.Text.CaseTables

namespace LoadOrder.Text

/-! ### One character -/

def isCased (c : Char) : Bool := inRanges casedRanges c.toNat

def isCaseIgnorable (c : Char) : Bool := inRanges caseIgnorableRanges c.toNat

/-- The code point of the lower-case form, where that is a single character. -/
def lowerCode (n : Nat) : Nat :=
  match caseRuns.find? fun r => r.covers n with
  | some r => (Int.ofNat n + r.shift).toNat
  | none => n

/-- The lower-case form of a character, whatever stands beside it. -/
def lowerForm (c : Char) : List Char :=
  if c = 'İ' then ['i', '\u0307'] else [Char.ofNat (lowerCode c.toNat)]

/-! ### A text -/

/-- Whether the nearest character that is not case-ignorable is cased. -/
def meetsCased (cs : List Char) : Bool :=
  match cs.dropWhile isCaseIgnorable with
  | c :: _ => isCased c
  | [] => false

/-- The lower-case form of `Σ` between the characters before it, nearest first,
    and the characters after it. -/
def lowerSigma (before after : List Char) : Char :=
  if meetsCased before && !meetsCased after then 'ς' else 'σ'

/-- The lower-case form of the rest of a text whose characters so far are
    `before`, nearest first. -/
def lowerFrom (before : List Char) : List Char → List Char
  | [] => []
  | c :: rest =>
    (if c = 'Σ' then [lowerSigma before rest] else lowerForm c) ++ lowerFrom (c :: before) rest

def lowercase (s : String) : String := String.ofList (lowerFrom [] s.toList)

end LoadOrder.Text
