/-
  LoadOrder/Proofs/Terminal/StatusBar.lean
  ========================================
  **How the status bar fills its line.**

  At its left the bar has a text of any length, a status or a line that is edited, and at
  its right a hint about the keys.  Where there is too little room the hint goes first, as
  a whole, and only then is the text cut.  So a line is one of three: the text cut to the
  width, the text alone, or the text, blanks and the hint, which fill the width exactly.

  How many blanks there are is found by two subtractions, and a bar that subtracts too
  much is not a narrow one but none at all.  `barLine?` is the same rule by subtractions
  that can fail; none of them does (`barLine?_eq`).
-/
import LoadOrder.Terminal.Panels
import Mathlib.Data.Nat.PSub

namespace LoadOrder.Terminal

/-! ### The line -/

/-- The line of a bar, by subtractions that have no result where more is taken away than
    there is. -/
def barLine? (left right : List Char) (width : Nat) : Option (List Char) :=
  if width ≤ left.length then some (left.take width)
  else
    (Nat.psub width left.length).bind fun room =>
      if room ≤ right.length then some left
      else
        (Nat.psub room right.length).map fun blanks =>
          left ++ List.replicate blanks ' ' ++ right

variable {left right : List Char} {width : Nat}

/-- **Nothing is taken away that is not there.** -/
theorem barLine?_eq (left right : List Char) (width : Nat) :
    barLine? left right width = some (barLine left right width) := by
  unfold barLine? barLine
  by_cases hcut : width ≤ left.length
  · rw [if_pos hcut, if_pos hcut]
  · have hroom : Nat.psub width left.length = some (width - left.length) :=
      Nat.psub_eq_sub (Nat.le_of_not_le hcut)
    rw [if_neg hcut, if_neg hcut, hroom, Option.bind_some]
    by_cases halone : width - left.length ≤ right.length
    · rw [if_pos halone, if_pos halone]
    · rw [if_neg halone, if_neg halone, Nat.psub_eq_sub (Nat.le_of_not_le halone),
        Option.map_some]

theorem barLine_of_le (h : width ≤ left.length) : barLine left right width = left.take width :=
  if_pos h

/-- Without room for a blank and the hint the text stands alone. -/
theorem barLine_of_lt (hleft : left.length < width)
    (hright : width < left.length + 1 + right.length) : barLine left right width = left := by
  have hcut : ¬width ≤ left.length := Nat.not_le_of_lt hleft
  have halone : width - left.length ≤ right.length := by omega
  rw [barLine, if_neg hcut, if_pos halone]

/-- With room for both the blanks between them are what is left over. -/
theorem barLine_of_fits {blanks : Nat} (hblanks : 0 < blanks)
    (hwidth : left.length + blanks + right.length = width) :
    barLine left right width = left ++ List.replicate blanks ' ' ++ right := by
  have hcut : ¬width ≤ left.length := by omega
  have halone : ¬width - left.length ≤ right.length := by omega
  have hrest : width - left.length - right.length = blanks := by omega
  rw [barLine, if_neg hcut, if_neg halone, hrest]

theorem exists_blanks (h : left.length + 1 + right.length ≤ width) :
    ∃ blanks, 0 < blanks ∧ left.length + blanks + right.length = width := by
  refine ⟨width - left.length - right.length, ?_, ?_⟩ <;> omega

theorem length_between {blanks : Nat}
    (hwidth : left.length + blanks + right.length = width) :
    (left ++ List.replicate blanks ' ' ++ right).length = width := by
  rw [List.length_append, List.length_append, List.length_replicate, hwidth]

theorem length_barLine_le (left right : List Char) (width : Nat) :
    (barLine left right width).length ≤ width := by
  rcases Nat.lt_or_ge left.length width with hleft | hcut
  · rcases Nat.lt_or_ge width (left.length + 1 + right.length) with hright | hfits
    · rw [barLine_of_lt hleft hright]
      exact Nat.le_of_lt hleft
    · obtain ⟨blanks, hblanks, hwidth⟩ := exists_blanks hfits
      rw [barLine_of_fits hblanks hwidth, length_between hwidth]
  · rw [barLine_of_le hcut]
    exact List.length_take_le width left

/-! ### The bar of a desk -/

/-- **What the status bar says fits into it.**  Whatever the status is, or the line that is
    edited and its prompt, and however wide the bar is: its line can be made without taking
    away more than there is, and is never wider than the bar.  A text at the left that is
    as wide as the bar is cut to its width.  A narrower one is kept, alone if there is no
    room for a blank and the hint, and else with the hint at the right end of the bar and
    nothing but blanks between them. -/
theorem fits_statusLine (d : Desk) (width : Nat) :
    let left := (statusLeft d).toList
    let right := (statusRight d).toList
    let line := (statusLine d width).toList
    barLine? left right width = some line ∧ line.length ≤ width ∧
    (width ≤ left.length → line = left.take width) ∧
    (left.length < width → width < left.length + 1 + right.length → line = left) ∧
    (left.length + 1 + right.length ≤ width →
      line.length = width ∧
        ∃ blanks, 0 < blanks ∧ line = left ++ List.replicate blanks ' ' ++ right) := by
  intro left right line
  have hline : line = barLine left right width := String.toList_ofList
  rw [hline]
  refine ⟨barLine?_eq left right width, length_barLine_le left right width, barLine_of_le,
    barLine_of_lt, ?_⟩
  intro hfits
  obtain ⟨blanks, hblanks, hwidth⟩ := exists_blanks hfits
  rw [barLine_of_fits hblanks hwidth]
  exact ⟨length_between hwidth, blanks, hblanks, rfl⟩

/-- A search is typed.  The bar is narrower than its text, then just too narrow for a blank
    and the hint, and then just wide enough. -/
theorem fits_statusLine_search :
    let d : Desk :=
      { session := Session.new {} defaultPhrase
        keyboard := { mode := .editing "Search" "Ñandú.e" .search } }
    let line (width : Nat) := (statusLine d width).toList
    line 12 = "Search: Ñand".toList ∧ line 41 = "Search: Ñandú.e".toList ∧
      line 42 = "Search: Ñandú.e".toList ++ [' '] ++ "Enter confirm | Esc cancel".toList := by
  intro d line
  have hleft : (statusLeft d).toList = "Search: Ñandú.e".toList := by decide
  have hright : (statusRight d).toList = "Enter confirm | Esc cancel".toList := by decide
  obtain ⟨-, -, hcut, -, -⟩ := fits_statusLine d 12
  obtain ⟨-, -, -, halone, -⟩ := fits_statusLine d 41
  obtain ⟨-, -, -, -, hboth⟩ := fits_statusLine d 42
  rw [hleft] at hcut
  rw [hleft, hright] at halone hboth
  refine ⟨hcut (by decide), halone (by decide) (by decide), ?_⟩
  obtain ⟨hlength, blanks, -, hline⟩ := hboth (by decide)
  have hone : blanks = 1 := by
    rw [hline] at hlength
    simpa using hlength
  rw [hone] at hline
  exact hline

end LoadOrder.Terminal
