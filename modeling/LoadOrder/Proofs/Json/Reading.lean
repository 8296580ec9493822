/-
  LoadOrder/Proofs/Json/Reading.lean
  ==================================
  **What is left of a text behind a value is a tail of it.**

  A reader that succeeds has taken characters from the front and nothing else
  (`Read.Within`).  There is one lemma for each reader, in the order in which they are
  built from each other, and the last one says what a value that was read can be
  (`valueWith_eq_done`).

  The readers of lists and objects take the reader of the values inside as an argument,
  and read no less if that one does (`Read.Under`).  So a value that is read with some
  depth left is read just so with more of it (`value_mono`).
-/
import LoadOrder.Proofs.Json.Path
import Mathlib.Tactic.SplitIfs

namespace LoadOrder.Json

/-- Whether a value is a number. -/
def isNumber : Json → Bool
  | .int _ => true
  | .real _ => true
  | _ => false

/-- Whether a value is a double. -/
def isReal : Json → Bool
  | .real _ => true
  | _ => false

/-- If a value was read, what is left is a tail of the text. -/
def Read.Within {α : Type} (text : List Char) (r : Read α) : Prop :=
  ∀ v next, r = .done v next → next.rest <:+ text

section

variable {α β : Type} {text : List Char} {r : Read α} {c : Cursor}

theorem within_done {v : α} (h : c.rest <:+ text) : (Read.done v c).Within text := by
  intro w next heq
  cases heq
  exact h

theorem within_stop {fault : Fault} : (Read.stop fault c : Read α).Within text := nofun

theorem within_fail {p : Problem} : (c.fail p : Read α).Within text := nofun

theorem within_refuse {p : Problem} : (c.refuse p : Read α).Within text := nofun

theorem within_refuseTaken {p : Problem} : (c.refuseTaken p : Read α).Within text := nofun

theorem Read.Within.andThen {f : α → Cursor → Read β} (hr : r.Within text)
    (hf : ∀ v c, c.rest <:+ text → (f v c).Within text) : (r.andThen f).Within text := by
  cases r with
  | done v c => exact hf v c (hr v c rfl)
  | stop fault c => exact within_stop

theorem andThen_eq_done {f : α → Cursor → Read β} {w : β} (h : r.andThen f = .done w c) :
    ∃ v d, r = .done v d ∧ f v d = .done w c := by
  cases r with
  | done v d => exact ⟨v, d, rfl, h⟩
  | stop fault d => cases h

theorem map_eq_done {f : α → β} {w : β} (h : r.map f = .done w c) :
    ∃ v, r = .done v c ∧ w = f v := by
  cases r with
  | done v d =>
    cases h
    exact ⟨v, rfl, rfl⟩
  | stop fault d => cases h

/-- Whatever comes of one reading step comes of another one too. -/
def Read.Under (r r' : Read α) : Prop := ∀ v next, r = .done v next → r' = .done v next

theorem under_refl (r : Read α) : r.Under r := fun _ _ h => h

theorem Read.Under.andThen {r' : Read α} {f f' : α → Cursor → Read β} (h : r.Under r')
    (hf : ∀ v c, (f v c).Under (f' v c)) : (r.andThen f).Under (r'.andThen f') := by
  intro w next hw
  obtain ⟨v, c, hv, hw⟩ := andThen_eq_done hw
  rw [h v c hv]
  exact hf v c w next hw

theorem Read.Under.map {r' : Read α} (h : r.Under r') (f : α → β) :
    (r.map f).Under (r'.map f) := by
  intro w next hw
  obtain ⟨v, hv, rfl⟩ := map_eq_done hw
  rw [h v next hv]
  rfl

theorem Read.Within.mono {other : List Char} (hr : r.Within text) (h : text <:+ other) :
    r.Within other := fun v next heq => (hr v next heq).trans h

end

namespace Cursor

variable {c : Cursor} {text : List Char}

/-! ### Steps and blanks -/

theorem step_rest (c : Cursor) : c.step.rest = c.rest.tail := by
  unfold step
  split
  · rename_i h
    rw [h]
    rfl
  · rename_i h
    rw [h]
    rfl

theorem step_suffix (c : Cursor) : c.step.rest <:+ c.rest := by
  rw [step_rest]
  exact List.tail_suffix c.rest

theorem blanksFrom_suffix (cs : List Char) (p : Position) : (blanksFrom cs p).rest <:+ cs := by
  induction cs generalizing p with
  | nil => exact List.suffix_rfl
  | cons ch rest ih =>
    rw [blanksFrom]
    split
    · exact (ih _).trans (List.suffix_cons ch rest)
    · exact List.suffix_rfl

theorem skipBlanks_suffix (c : Cursor) : c.skipBlanks.rest <:+ c.rest := blanksFrom_suffix _ _

theorem blanksFrom_blanksFrom (cs : List Char) (p : Position) :
    blanksFrom (blanksFrom cs p).rest (blanksFrom cs p).place = blanksFrom cs p := by
  induction cs generalizing p with
  | nil => rfl
  | cons ch rest ih =>
    rw [blanksFrom]
    split
    · exact ih _
    · rename_i hblank
      rw [blanksFrom, if_neg hblank]

theorem skipBlanks_skipBlanks (c : Cursor) : c.skipBlanks.skipBlanks = c.skipBlanks :=
  blanksFrom_blanksFrom c.rest c.place

/-! ### Words and numbers -/

theorem within_word (letters : List Char) (c : Cursor) : (word letters c).Within c.rest := by
  induction letters generalizing c with
  | nil => exact within_done List.suffix_rfl
  | cons letter letters ih =>
    rw [word]
    split
    · exact within_fail
    · split
      · exact (ih c.step).mono c.step_suffix
      · exact within_refuseTaken

theorem takeDigits_suffix (limit : Nat) (cs : List Char) (p : Position) (value taken : Nat) :
    (takeDigits limit cs p value taken).2.2.rest <:+ cs := by
  induction cs generalizing p value taken with
  | nil => exact List.suffix_rfl
  | cons ch rest ih =>
    rw [takeDigits]
    split
    · split
      · exact (ih _ _ _).trans (List.suffix_cons ch rest)
      · exact List.suffix_rfl
    · exact List.suffix_rfl

theorem takeDigits_le {limit value : Nat} (h : value ≤ limit) (cs : List Char) (p : Position)
    (taken : Nat) : (takeDigits limit cs p value taken).1 ≤ limit := by
  induction cs generalizing p value taken with
  | nil => exact h
  | cons ch rest ih =>
    rw [takeDigits]
    split
    · split
      · rename_i hfits
        exact ih hfits _ _
      · exact h
    · exact h

theorem skipDigits_suffix (cs : List Char) (p : Position) (n : Nat) :
    (skipDigits cs p n).2.rest <:+ cs := by
  induction cs generalizing p n with
  | nil => exact List.suffix_rfl
  | cons ch rest ih =>
    rw [skipDigits]
    split
    · exact (ih _ _).trans (List.suffix_cons ch rest)
    · exact List.suffix_rfl

theorem within_realAt {negative : Bool} {digits : Nat} {exponent : Int} :
    (realAt negative digits exponent c).Within c.rest := by
  unfold realAt
  split
  · exact within_done List.suffix_rfl
  · exact within_fail

theorem within_exponentDigits {negative down : Bool} {digits : Nat} {exponent : Int} :
    (exponentDigits negative down digits exponent c).Within c.rest := by
  unfold exponentDigits
  split
  · exact within_fail
  · split
    · split
      rename_i e taken next htake
      have hnext : next.rest <:+ c.rest := by
        have h := takeDigits_suffix maxWrittenExponent c.rest c.place 0 0
        rwa [htake] at h
      split
      · split
        · exact within_fail
        · exact within_done ((skipDigits_suffix _ _ _).trans hnext)
      · exact within_realAt.mono hnext
    · exact within_refuseTaken

theorem within_exponent {negative : Bool} {digits : Nat} {before : Int} :
    (exponent negative digits before c).Within c.rest := by
  have hstep := c.step_suffix
  have hsign := c.step.step_suffix.trans hstep
  unfold exponent
  split
  · exact within_exponentDigits.mono hsign
  · exact within_exponentDigits.mono hsign
  · exact within_exponentDigits.mono hstep

theorem within_fraction {negative : Bool} {digits : Nat} {before : Int} :
    (fraction negative digits before c).Within c.rest := by
  unfold fraction
  split
  rename_i sum taken next htake
  have hnext : (skipDigits next.rest next.place 0).2.rest <:+ c.rest := by
    have h := takeDigits_suffix maxWhole c.step.rest c.step.place digits 0
    rw [htake] at h
    exact (skipDigits_suffix _ _ _).trans (h.trans c.step_suffix)
  simp only
  split
  · split
    · exact within_refuse
    · exact within_refuse
  · split
    · exact within_exponent.mono hnext
    · exact within_realAt.mono hnext

theorem within_number {negative : Bool} : (number negative c).Within c.rest := by
  unfold number
  split
  · exact within_fail
  · split
    · exact within_refuseTaken
    · split
      · exact within_refuse
      · split
        rename_i digits taken next htake
        have hnext : (skipDigits next.rest next.place 0).2.rest <:+ c.rest := by
          have h := takeDigits_suffix maxWhole c.rest c.place 0 0
          rw [htake] at h
          exact (skipDigits_suffix _ _ _).trans h
        simp only
        split
        · exact within_fraction.mono hnext
        · split
          · exact within_exponent.mono hnext
          · split
            · exact within_realAt.mono hnext
            · exact within_done hnext

/-! ### What a number is -/

section

variable {next : Cursor} {v : Json} {negative : Bool} {digits : Nat} {before : Int}

theorem isReal_realAt (h : realAt negative digits before c = .done v next) :
    v.isReal = true := by
  unfold realAt at h
  split at h
  · cases h
    rfl
  · cases h

theorem isReal_exponentDigits {down : Bool}
    (h : exponentDigits negative down digits before c = .done v next) : v.isReal = true := by
  unfold exponentDigits at h
  split at h
  · cases h
  · simp only at h
    split_ifs at h
    · cases h
    · cases h
      rfl
    · exact isReal_realAt h
    · exact isReal_realAt h
    · cases h

theorem isReal_exponent (h : exponent negative digits before c = .done v next) :
    v.isReal = true := by
  unfold exponent at h
  split at h
  · exact isReal_exponentDigits h
  · exact isReal_exponentDigits h
  · exact isReal_exponentDigits h

theorem isReal_fraction (h : fraction negative digits before c = .done v next) :
    v.isReal = true := by
  unfold fraction at h
  simp only at h
  split_ifs at h
  · split at h
    · cases h
    · cases h
  · exact isReal_exponent h
  · exact isReal_realAt h

theorem isNumber_whole : (whole negative digits).isNumber = true := by
  unfold whole
  split_ifs
  · rfl
  · rfl
  · rfl

/-- What is read as a number is a double, or whole and has digits that fit in 64 bits. -/
theorem number_eq_done (h : number negative c = .done v next) :
    v.isReal = true ∨ ∃ n ≤ maxWhole, v = whole negative n := by
  unfold number at h
  split at h
  · cases h
  · split at h
    · cases h
    · split at h
      · cases h
      · simp only at h
        split at h
        · exact .inl (isReal_fraction h)
        · split at h
          · exact .inl (isReal_exponent h)
          · split at h
            · exact .inl (isReal_realAt h)
            · cases h
              exact .inr ⟨_, takeDigits_le (Nat.zero_le _) _ _ _, rfl⟩

theorem isNumber_number (h : number negative c = .done v next) : v.isNumber = true := by
  rcases number_eq_done h with hreal | ⟨n, -, rfl⟩
  · cases v <;> first | rfl | cases hreal
  · exact isNumber_whole

theorem isLeaf_number (h : number negative c = .done v next) : v.isLeaf = true := by
  have hnumber := isNumber_number h
  cases v <;> first | rfl | cases hnumber

end

/-! ### Texts -/

theorem within_codeUnit : (codeUnit c).Within c.rest := by
  unfold codeUnit
  split
  · exact within_fail
  · simp only
    split
    · exact within_done (List.drop_suffix 4 c.rest)
    · exact within_fail

theorem within_pairMark {mark : Char} : (pairMark mark c).Within c.rest := by
  unfold pairMark
  split
  · exact within_fail
  · split
    · exact within_done c.step_suffix
    · exact within_refuseTaken

theorem within_lowSurrogate {high : Nat} : (lowSurrogate high c).Within c.rest := by
  unfold lowSurrogate
  refine within_pairMark.andThen fun _ c' h' => (within_pairMark.mono h').andThen fun _ d hd => ?_
  refine (within_codeUnit.mono hd).andThen fun low e he => ?_
  split
  · exact within_done he
  · exact within_fail

theorem within_codedChar : (codedChar c).Within c.rest := by
  unfold codedChar
  refine within_codeUnit.andThen fun n d hd => ?_
  split
  · exact within_fail
  · split
    · exact within_lowSurrogate.mono hd
    · exact within_done hd

theorem within_escaped : (escaped c).Within c.rest := by
  unfold escaped
  split
  · exact within_fail
  · split
    · exact within_done c.step_suffix
    · split
      · exact within_codedChar.mono c.step_suffix
      · exact within_refuseTaken

theorem within_textRounds (rounds seen : List Char) (c : Cursor) :
    (textRounds rounds seen c).Within c.rest := by
  induction rounds generalizing seen c with
  | nil => exact within_fail
  | cons _ rounds ih =>
    rw [textRounds]
    split
    · exact within_fail
    · split
      · exact within_done c.step_suffix
      · split
        · split
          · rename_i plain next hescaped
            have hnext := (within_escaped plain next hescaped).trans c.step_suffix
            exact (ih _ next).mono hnext
          · exact within_stop
        · split
          · exact within_refuseTaken
          · exact (ih _ c.step).mono c.step_suffix

theorem within_text : (Cursor.text c).Within c.rest := within_textRounds _ _ _

theorem within_colon : (colon c).Within c.rest := by
  unfold colon
  simp only
  split
  · exact within_refuse
  · exact within_done (c.skipBlanks.step_suffix.trans c.skipBlanks_suffix)
  · exact within_refuse

/-! ### Values -/

/-- What a value that was read is: a single one, a list or an object. -/
theorem valueWith_eq_done {next : Cursor} {inner : Option (Cursor → Read Json)} {v : Json}
    (h : valueWith inner c = .done v next) :
    (v.isLeaf = true ∧ next.rest <:+ c.rest) ∨
      (∃ item, inner = some item ∧ ∃ vs, v = .list vs ∧ items item c.skipBlanks.step = .done vs next) ∨
      ∃ item, inner = some item ∧ ∃ ms, v = .object ms ∧ c.skipBlanks.rest.head? = some '\x7b' ∧
        members item c.skipBlanks.step = .done ms next := by
  have hblanks := c.skipBlanks_suffix
  have hstep := c.skipBlanks.step_suffix.trans hblanks
  have hleaf {α : Type} {r : Read α} {f : α → Json} (hr : r.Within c.skipBlanks.step.rest)
      (hf : ∀ a, (f a).isLeaf = true) (hdone : r.map f = .done v next) :
      v.isLeaf = true ∧ next.rest <:+ c.rest := by
    obtain ⟨a, ha, rfl⟩ := map_eq_done hdone
    exact ⟨hf a, (hr _ _ ha).trans hstep⟩
  unfold valueWith at h
  simp only at h
  split at h
  · cases h
  rename_i ch rest hrest
  split_ifs at h with hn ht hf hminus hdigit hquote hbracket hbrace
  · exact .inl (hleaf (within_word _ _) (fun _ => rfl) h)
  · exact .inl (hleaf (within_word _ _) (fun _ => rfl) h)
  · exact .inl (hleaf (within_word _ _) (fun _ => rfl) h)
  · exact .inl ⟨isLeaf_number h, (within_number _ _ h).trans hstep⟩
  · exact .inl ⟨isLeaf_number h, (within_number _ _ h).trans hblanks⟩
  · exact .inl (hleaf within_text (fun _ => rfl) h)
  · split at h
    · rename_i item
      obtain ⟨vs, hvs, rfl⟩ := map_eq_done h
      exact .inr (.inl ⟨item, rfl, vs, rfl, hvs⟩)
    · cases h
  · split at h
    · rename_i item
      obtain ⟨ms, hms, rfl⟩ := map_eq_done h
      refine .inr (.inr ⟨item, rfl, ms, rfl, ?_, hms⟩)
      rw [hrest, hbrace]
      rfl
    · cases h
  · cases h

/-! ### More depth -/

section

variable {item item' : Cursor → Read Json}

section

variable (h : ∀ c, (item c).Under (item' c))
include h

theorem under_moreItems (rounds : List Char) (c : Cursor) :
    (moreItems item rounds c).Under (moreItems item' rounds c) := by
  induction rounds generalizing c with
  | nil => exact under_refl _
  | cons mark rounds ih =>
    rw [moreItems, moreItems]
    simp only
    split
    · exact under_refl _
    · exact under_refl _
    · split
      · exact under_refl _
      · exact under_refl _
      · exact (h _).andThen fun v c => (ih c).map _
    · exact under_refl _

theorem under_items (c : Cursor) : (items item c).Under (items item' c) := by
  rw [items, items]
  split
  · exact under_refl _
  · exact under_refl _
  · exact (h _).andThen fun v c => (under_moreItems h _ c).map _

theorem under_member (c : Cursor) : (member item c).Under (member item' c) :=
  (under_refl _).andThen fun _ _ => (under_refl _).andThen fun _ c => (h c).map _

theorem under_moreMembers (rounds : List Char) (c : Cursor) :
    (moreMembers item rounds c).Under (moreMembers item' rounds c) := by
  induction rounds generalizing c with
  | nil => exact under_refl _
  | cons mark rounds ih =>
    rw [moreMembers, moreMembers]
    simp only
    split
    · exact under_refl _
    · exact under_refl _
    · split
      · exact under_refl _
      · exact (under_member h _).andThen fun m c => (ih c).map _
      · exact under_refl _
      · exact under_refl _
    · exact under_refl _

theorem under_members (c : Cursor) : (members item c).Under (members item' c) := by
  rw [members, members]
  split
  · exact under_refl _
  · exact under_refl _
  · exact (under_member h _).andThen fun m c => (under_moreMembers h _ c).map _
  · exact under_refl _

end

theorem under_valueWith {inner : Option (Cursor → Read Json)}
    (h : ∀ item ∈ inner, ∀ c, (item c).Under (item' c)) (c : Cursor) :
    (valueWith inner c).Under (valueWith (some item') c) := by
  unfold valueWith
  simp only
  split
  · exact under_refl _
  · split_ifs
    any_goals exact under_refl _
    · split
      · rename_i item
        exact (under_items (h item rfl) _).map _
      · nofun
    · split
      · rename_i item
        exact (under_members (h item rfl) _).map _
      · nofun

end

/-- A value that is read with some depth left is read just so with more of it. -/
theorem value_mono {depth depth' : Nat} (h : depth ≤ depth') (c : Cursor) :
    (value depth c).Under (value depth' c) := by
  induction depth' generalizing depth c with
  | zero => exact Nat.le_zero.mp h ▸ under_refl _
  | succ depth' ih =>
    cases depth with
    | zero =>
      refine under_valueWith (fun item hitem => ?_) c
      cases hitem
    | succ depth =>
      refine under_valueWith (fun item hitem c => ?_) c
      cases hitem
      exact ih (Nat.le_of_succ_le_succ h) c

end Cursor

end LoadOrder.Json
