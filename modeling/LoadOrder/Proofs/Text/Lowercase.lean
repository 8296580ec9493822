/-
  LoadOrder/Proofs/Text/Lowercase.lean
  ====================================
  **The lower-case form of a part of a text.**

  A text is put into lower case character by character, but the form of `Σ` depends on
  what stands around it.  So the form of a text is made of the forms that its parts have
  in their places (`lowerFrom_append`), and these need not be the forms of the parts when
  they stand alone: a word may go on behind the part, or may have begun before it.

  That is the only thing that can go wrong.  A part has the same form in its place as
  alone exactly if every `Σ` in it ends a word there if and only if it does so when the
  part stands alone (`lowerIn_eq_iff`); so it has if there is none in it.
-/
import LoadOrder.Text.Lowercase
import LoadOrder.Text.Search

namespace LoadOrder.Text

/-! ### A part in its place -/

/-- The lower-case form of a part of a text, between the characters before it, nearest
    first, and the characters after it. -/
def lowerIn (before : List Char) : List Char → List Char → List Char
  | [], _ => []
  | c :: rest, after =>
    (if c = 'Σ' then [lowerSigma before (rest ++ after)] else lowerForm c)
      ++ lowerIn (c :: before) rest after

/-- **The form of a text is made of the forms of its parts,** each in its place. -/
theorem lowerFrom_append (before part after : List Char) :
    lowerFrom before (part ++ after) =
      lowerIn before part after ++ lowerFrom (part.reverse ++ before) after := by
  induction part generalizing before with
  | nil => rfl
  | cons c rest ih =>
    rw [List.cons_append, lowerFrom, lowerIn, ih, List.append_assoc, List.reverse_cons,
      List.append_assoc, List.singleton_append]

theorem lowerIn_nil (before part : List Char) : lowerIn before part [] = lowerFrom before part := by
  have h := lowerFrom_append before part []
  rw [List.append_nil, lowerFrom, List.append_nil] at h
  exact h.symm

theorem toList_lowercase (s : String) : (lowercase s).toList = lowerFrom [] s.toList :=
  String.toList_ofList

/-! ### Two places -/

/-- The places of a character in a text with one more in front. -/
theorem forall_place_cons {mark c : Char} {rest : List Char} {P : List Char → List Char → Prop} :
    (∀ front back, c :: rest = front ++ mark :: back → P front back) ↔
      (c = mark → P [] rest) ∧
        ∀ front back, rest = front ++ mark :: back → P (c :: front) back := by
  constructor
  · intro h
    refine ⟨?_, ?_⟩
    · rintro rfl
      exact h [] rest rfl
    · rintro front back rfl
      exact h (c :: front) back rfl
  · rintro ⟨hfirst, hrest⟩ front back heq
    cases front with
    | nil =>
      obtain ⟨hc, rfl⟩ := List.cons.inj heq
      exact hfirst hc
    | cons d front =>
      obtain ⟨rfl, htail⟩ := List.cons.inj heq
      exact hrest front back htail

/-- **A part has the same form in two places** exactly if every `Σ` in it has. -/
theorem lowerIn_eq_lowerIn_iff (before before' part after after' : List Char) :
    lowerIn before part after = lowerIn before' part after' ↔
      ∀ front back, part = front ++ 'Σ' :: back →
        lowerSigma (front.reverse ++ before) (back ++ after) =
          lowerSigma (front.reverse ++ before') (back ++ after') := by
  induction part generalizing before before' with
  | nil => simp [lowerIn]
  | cons c rest ih =>
    simp only [forall_place_cons, lowerIn, List.reverse_cons, List.append_assoc,
      List.singleton_append, List.reverse_nil, List.nil_append, ← ih]
    -- of all characters only a `Σ` looks at what stands around it
    by_cases hc : c = 'Σ'
    · simp only [hc, if_true, List.singleton_append, List.cons.injEq, forall_const]
    · simp only [hc, if_false, List.append_cancel_left_eq, false_implies, true_and]

/-! ### A part that keeps its form -/

/-- Every `Σ` of a part has the same form in its place, between the characters before it,
    nearest first, and the characters after it, as it has when the part stands alone. -/
def KeepsSigmas (before part after : List Char) : Prop :=
  ∀ front back, part = front ++ 'Σ' :: back →
    lowerSigma (front.reverse ++ before) (back ++ after) = lowerSigma front.reverse back

theorem keepsSigmas_of_not_mem {part : List Char} (h : 'Σ' ∉ part) (before after : List Char) :
    KeepsSigmas before part after := by
  rintro front back rfl
  exact absurd (List.mem_append_right _ List.mem_cons_self) h

theorem lowerIn_eq_iff (before part after : List Char) :
    lowerIn before part after = lowerFrom [] part ↔ KeepsSigmas before part after := by
  rw [← lowerIn_nil, lowerIn_eq_lowerIn_iff]
  simp only [List.append_nil, KeepsSigmas]

theorem length_lowerIn (before before' part after after' : List Char) :
    (lowerIn before part after).length = (lowerIn before' part after').length := by
  induction part generalizing before before' with
  | nil => rfl
  | cons c rest ih =>
    rw [lowerIn, lowerIn, List.length_append, List.length_append, ih (c :: before) (c :: before')]
    split <;> rfl

/-- **The lower-case form of a part stands in its place** in the lower-case form of a text
    exactly if the part keeps every `Σ`. -/
theorem stands_iff {text part : String} {before after : List Char}
    (hplace : text.toList = before ++ (part.toList ++ after)) :
    (∃ back, (lowercase text).toList =
        lowerIn [] before (part.toList ++ after) ++ ((lowercase part).toList ++ back)) ↔
      KeepsSigmas before.reverse part.toList after := by
  rw [toList_lowercase, toList_lowercase, hplace, lowerFrom_append, lowerFrom_append,
    List.append_nil, ← lowerIn_eq_iff]
  constructor
  · rintro ⟨back, heq⟩
    -- what stands at the place is cut off by its length, which is the same for both forms
    have hlength : (lowerIn before.reverse part.toList after).length =
        (lowerFrom [] part.toList).length := by
      rw [← lowerIn_nil]
      exact length_lowerIn _ _ _ _ _
    exact (List.append_inj (List.append_cancel_left heq) hlength).1
  · intro heq
    exact ⟨_, by rw [heq]⟩

theorem contains_of_stands {text needle : String} {front back : List Char}
    (h : text.toList = front ++ (needle.toList ++ back)) : contains text needle = true := by
  rw [contains, occurs_iff, h]
  exact List.infix_append' _ _ _

end LoadOrder.Text
