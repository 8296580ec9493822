/-
  LoadOrder/Proofs/Text/Trimmed.lean
  ==================================
  **Texts without blanks at their ends.**

  Cutting the blanks at the ends of a text leaves a text without any there
  (`trimmed_trim`), and leaves such a text alone (`Trimmed.trim_eq`).
-/
import LoadOrder.Text.Blank

namespace LoadOrder.Text

/-- A text that neither begins nor ends with a blank. -/
structure Trimmed (s : String) : Prop where
  front : ∀ c, s.toList.head? = some c → isBlank c = false
  back : ∀ c, s.toList.getLast? = some c → isBlank c = false

theorem isBlank_of_head?_dropWhile {cs : List Char} {c : Char}
    (h : (cs.dropWhile isBlank).head? = some c) : isBlank c = false := by
  have hnot := List.head?_dropWhile_not isBlank cs
  rw [h] at hnot
  exact hnot

/-- What is cut at the back leaves the front. -/
theorem head?_trimBack {cs : List Char} {c : Char} (h : (trimBack cs).head? = some c) :
    cs.head? = some c := by
  have hprefix : trimBack cs <+: cs := by
    have hsuffix := List.dropWhile_suffix isBlank (l := cs.reverse)
    rw [← List.reverse_prefix, List.reverse_reverse] at hsuffix
    exact hsuffix
  obtain ⟨rest, hrest⟩ := hprefix
  rw [← hrest, List.head?_append, h]
  rfl

theorem trimmed_trim (s : String) : Trimmed (trim s) where
  front := by
    intro c hc
    rw [trim, String.toList_ofList] at hc
    exact isBlank_of_head?_dropWhile (head?_trimBack hc)
  back := by
    intro c hc
    rw [trim, String.toList_ofList, trimBack, List.getLast?_reverse] at hc
    exact isBlank_of_head?_dropWhile hc

theorem dropWhile_isBlank_of_head? {cs : List Char}
    (h : ∀ c, cs.head? = some c → isBlank c = false) : cs.dropWhile isBlank = cs := by
  cases cs with
  | nil => rfl
  | cons c cs => rw [List.dropWhile_cons, h c rfl, if_neg Bool.false_ne_true]

theorem Trimmed.trim_eq {s : String} (h : Trimmed s) : trim s = s := by
  have hback : ∀ c, s.toList.reverse.head? = some c → isBlank c = false := by
    intro c hc
    rw [List.head?_reverse] at hc
    exact h.back c hc
  rw [trim, trimFront, dropWhile_isBlank_of_head? h.front, trimBack,
    dropWhile_isBlank_of_head? hback, List.reverse_reverse, String.ofList_toList]

/-! ### Texts that are trimmed -/

theorem trimmed_of_forall {cs : List Char} (h : ∀ c ∈ cs, isBlank c = false) :
    Trimmed (String.ofList cs) where
  front := by
    intro c hc
    rw [String.toList_ofList] at hc
    exact h c (List.mem_of_head? hc)
  back := by
    intro c hc
    rw [String.toList_ofList] at hc
    exact h c (List.mem_of_getLast? hc)

theorem trimmed_between {first last : Char} (hfirst : isBlank first = false)
    (hlast : isBlank last = false) (cs : List Char) :
    Trimmed (String.ofList (first :: (cs ++ [last]))) where
  front := by
    intro c hc
    rw [String.toList_ofList] at hc
    cases hc
    exact hfirst
  back := by
    intro c hc
    rw [String.toList_ofList, ← List.cons_append, List.getLast?_concat] at hc
    cases hc
    exact hlast

theorem isBlank_of_isDigit {c : Char} (h : c.isDigit = true) : isBlank c = false := by
  have hrange : 48 ≤ c.toNat ∧ c.toNat ≤ 57 := by
    simpa [Char.isDigit, UInt32.le_iff_toNat_le] using h
  rw [isBlank, inRanges, List.any_eq_false]
  intro r hr
  have hapart : ∀ r ∈ blankRanges, 57 < r.1 ∨ r.2 < 48 := by decide
  have := hapart r hr
  rw [Bool.and_eq_true, decide_eq_true_eq, decide_eq_true_eq]
  omega

end LoadOrder.Text
