/-
  LoadOrder/Text/Search.lean
  ==========================
  **One text inside another, and small cuts of a text.**

  A search compares code points and normalises nothing, so `occurs needle text`
  says exactly that `needle` is a run of neighbouring characters of `text`
  (`occurs_iff`).
-/

namespace LoadOrder.Text

/-- Whether the characters of `needle` stand somewhere in `text`, side by side. -/
def occurs (needle : List Char) : List Char → Bool
  | [] => needle.isEmpty
  | c :: rest => needle.isPrefixOf (c :: rest) || occurs needle rest

theorem occurs_iff (needle text : List Char) : occurs needle text = true ↔ needle <:+: text := by
  induction text with
  | nil => simp [occurs]
  | cons c rest ih =>
    simp only [occurs, Bool.or_eq_true, ih, List.isPrefixOf_iff_prefix]
    exact List.infix_cons_iff.symm

def contains (text needle : String) : Bool := occurs needle.toList text.toList

/-- The pieces of a text between the marks in it.  There is one piece more than there
    are marks, and any of them may be empty. -/
def cutAt (mark : Char) : List Char → List (List Char)
  | [] => [[]]
  | c :: rest =>
    if c = mark then [] :: cutAt mark rest
    else
      match cutAt mark rest with
      | [] => [[c]]
      | piece :: pieces => (c :: piece) :: pieces

/-- The texts, with the separator between neighbours. -/
def joined (separator : String) (parts : List String) : String := separator.intercalate parts

def byteCount : List Char → Nat
  | [] => 0
  | c :: rest => c.utf8Size + byteCount rest

def dropBytes : Nat → List Char → List Char
  | 0, cs => cs
  | _ + 1, [] => []
  | n + 1, c :: cs => dropBytes (n + 1 - c.utf8Size) cs

def takeBytes : Nat → List Char → List Char
  | 0, _ => []
  | _ + 1, [] => []
  | n + 1, c :: cs => c :: takeBytes (n + 1 - c.utf8Size) cs

def count (s : String) : Nat := s.toList.length

end LoadOrder.Text
