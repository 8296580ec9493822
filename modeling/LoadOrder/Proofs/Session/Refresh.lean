/-
  LoadOrder/Proofs/Session/Refresh.lean
  =====================================
  **What a refresh and an outcome change, and what they leave.**

  A refresh does one of three things (`refresh_cases`): it is held, it filters, or it
  asks.  An outcome is dealt with in one of three ways (`handle_cases`), and the first
  two end in a refresh.  Whatever is shown of the two operations elsewhere is shown in
  these cases.

  Below stands what each part of this leaves alone.  The one fact with something in
  it is that a filter pass, a search and new cards write marks and nothing else into
  the plugins (`finishRefresh_unmarked`, `search_unmarked`, `showCards_bare`).
-/
import LoadOrder.Proofs.Totals.Balance
import LoadOrder.Session.Refresh

namespace LoadOrder.Session

variable (s : Session)

/-! ### Marks -/

/-- A search writes its own mark only. -/
theorem search_unmarked (needle : String) :
    (s.search needle).plugins.map Plugin.unmarked = s.plugins.map Plugin.unmarked := by
  apply View.map_mapIdx_of_eq
  intro i p
  rfl

/-- A filter pass writes the marks of messages and of the search only. -/
theorem finishRefresh_unmarked (names : Names) :
    (s.finishRefresh names).plugins.map Plugin.unmarked = s.plugins.map Plugin.unmarked :=
  (search_unmarked _ s.needle).trans (View.changeAt_markMessages_unmarked s.criteria _ s.plugins)

/-- New cards leave everything but the cards. -/
theorem showCards_bare : s.showCards.plugins.map Plugin.bare = s.plugins.map Plugin.bare := by
  unfold showCards
  rw [List.map_map]
  rfl

/-! ### A refresh -/

theorem isBusy_eq_false_iff {s : Session} : s.isBusy = false ↔ s.courier.active = none := by
  rw [isBusy, Courier.isBusy, Option.isSome_eq_false_iff, Option.isNone_iff_eq_none]

theorem refresh_of_out {s : Session} {plugin : String} (h : s.courier.active = some plugin) :
    s.refresh = { s with refreshHeld := true } := by
  have hbusy : s.isBusy = true := by rw [isBusy, Courier.isBusy, h]; rfl
  simp only [refresh, hbusy, if_true]

theorem refresh_of_none {s : Session} (h : s.courier.active = none)
    (hconf : s.criteria.conflictPlugin = none) : s.refresh = s.finishRefresh [] := by
  simp only [refresh, isBusy_eq_false_iff.mpr h, hconf, Bool.false_eq_true, if_false]

theorem refresh_of_some {s : Session} (h : s.courier.active = none) {plugin : String}
    (hconf : s.criteria.conflictPlugin = some plugin) : s.refresh = s.ask plugin := by
  simp only [refresh, isBusy_eq_false_iff.mpr h, hconf, Bool.false_eq_true, if_false]

/-- **What a refresh comes to:** it is held, or it is a pass, or a question. -/
theorem refresh_cases (s : Session) :
    (∃ plugin, s.courier.active = some plugin ∧ s.refresh = { s with refreshHeld := true }) ∨
      (s.courier.active = none ∧ s.criteria.conflictPlugin = none ∧
        s.refresh = s.finishRefresh []) ∨
      ∃ plugin, s.courier.active = none ∧ s.criteria.conflictPlugin = some plugin ∧
        s.refresh = s.ask plugin := by
  cases hactive : s.courier.active with
  | some plugin => exact .inl ⟨plugin, rfl, refresh_of_out hactive⟩
  | none =>
    cases hconf : s.criteria.conflictPlugin with
    | none => exact .inr (.inl ⟨rfl, rfl, refresh_of_none hactive hconf⟩)
    | some plugin => exact .inr (.inr ⟨plugin, rfl, rfl, refresh_of_some hactive hconf⟩)

/-! ### An outcome -/

/-- The session that has cleared the header and drops an outcome. -/
def dropping (s : Session) (o : Outcome) : Session :=
  { ({ s with progress := none } : Session).noteDropped o with refreshHeld := false }

/-- The session that has cleared the header and taken over the data of an outcome. -/
def taking (s : Session) (o : Outcome) : Session := ({ s with progress := none } : Session).take o

theorem handle_of_late {s : Session} (h : s.askedEdition ≠ s.edition) (o : Outcome) :
    s.handle o = (s.dropping o).refresh := by
  simp only [handle, ne_eq, h, not_false_eq_true, if_true, release, dropping]

theorem handle_of_held {s : Session} (h : s.askedEdition = s.edition)
    (hheld : s.refreshHeld = true) (o : Outcome) :
    s.handle o = ({ s.taking o with refreshHeld := false } : Session).refresh := by
  simp only [handle, ne_eq, h, not_true_eq_false, if_false, hheld, if_true, release, taking]

theorem handle_of_free {s : Session} (h : s.askedEdition = s.edition)
    (hheld : s.refreshHeld = false) (o : Outcome) :
    s.handle o = ((s.taking o).finishRefresh (s.mergeOf o).names).blame o := by
  simp only [handle, ne_eq, h, not_true_eq_false, if_false, hheld, Bool.false_eq_true, taking]
  cases o <;> rfl

/-- **What becomes of an outcome:** it is too late, or a refresh is owed, or its pass is
    made. -/
theorem handle_cases (s : Session) (o : Outcome) :
    (s.askedEdition ≠ s.edition ∧ s.handle o = (s.dropping o).refresh) ∨
      (s.askedEdition = s.edition ∧ s.refreshHeld = true ∧
        s.handle o = ({ s.taking o with refreshHeld := false } : Session).refresh) ∨
      (s.askedEdition = s.edition ∧ s.refreshHeld = false ∧
        s.handle o = ((s.taking o).finishRefresh (s.mergeOf o).names).blame o) := by
  by_cases hlate : s.askedEdition = s.edition
  · cases hheld : s.refreshHeld with
    | true => exact .inr (.inl ⟨hlate, rfl, handle_of_held hlate hheld o⟩)
    | false => exact .inr (.inr ⟨hlate, rfl, handle_of_free hlate hheld o⟩)
  · exact .inl ⟨hlate, handle_of_late hlate o⟩

@[simp] theorem taking_courier (s : Session) (o : Outcome) : (s.taking o).courier = s.courier :=
  take_courier _ o

@[simp] theorem taking_refreshHeld (s : Session) (o : Outcome) :
    (s.taking o).refreshHeld = s.refreshHeld :=
  take_refreshHeld _ o

@[simp] theorem taking_criteria (s : Session) (o : Outcome) :
    (s.taking o).criteria = s.criteria := by
  cases o <;> rfl

@[simp] theorem dropping_courier (s : Session) (o : Outcome) :
    (s.dropping o).courier = s.courier := rfl

@[simp] theorem finishRefresh_courier (s : Session) (names : Names) :
    (s.finishRefresh names).courier = s.courier := rfl

@[simp] theorem finishRefresh_criteria (s : Session) (names : Names) :
    (s.finishRefresh names).criteria = s.criteria := rfl

@[simp] theorem blame_courier (s : Session) (o : Outcome) : (s.blame o).courier = s.courier := by
  cases o <;> rfl

end LoadOrder.Session
