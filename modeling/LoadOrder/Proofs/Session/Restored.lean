/-
  LoadOrder/Proofs/Session/Restored.lean
  ======================================
  **When restored switches can do without a refresh.**

  Switches that were saved are restored all at once, and then applied.  Applying them
  makes one refresh if a switch is on that decides what is shown, and none otherwise: a
  program that starts has filtered nothing yet, and the refresh would find nothing to
  do.

  The rule looks at the new switches only.  With none of the five on, the view stays as
  it was made before, and it is the one that a filter pass would give now exactly if it
  was that already (`passed_applyToggles_iff`); so it is if it was made with none of
  them on, too.  Switches that take away what hid a plugin leave it hidden
  (`not_passed_applyToggles`).
-/
import LoadOrder.Proofs.Session.Settled
import LoadOrder.Proofs.Session.Reached

namespace LoadOrder

/-! ### Switches that decide what is shown -/

namespace Toggles

/-- The positions of the switches that decide what is shown are the same. -/
structure SameContent (t u : Toggles) : Prop where
  hideMessageless : t.hideMessageless = u.hideMessageless
  hideInactive : t.hideInactive = u.hideInactive
  hideNotes : t.hideNotes = u.hideNotes
  hideDoNotClean : t.hideDoNotClean = u.hideDoNotClean
  hideAllMessages : t.hideAllMessages = u.hideAllMessages

theorem sameContent_of_none {t u : Toggles} (ht : t.anyContent = false)
    (hu : u.anyContent = false) : t.SameContent u := by
  simp only [anyContent, Bool.or_eq_false_iff] at ht hu
  obtain ⟨⟨⟨⟨h1, h2⟩, h3⟩, h4⟩, h5⟩ := ht
  obtain ⟨⟨⟨⟨k1, k2⟩, k3⟩, k4⟩, k5⟩ := hu
  exact ⟨h1.trans k1.symm, h2.trans k2.symm, h3.trans k3.symm, h4.trans k4.symm,
    h5.trans k5.symm⟩

theorem SameContent.eq {t u : Toggles} (h : t.SameContent u) :
    t = { u with
      hideVersions := t.hideVersions, hideCrcs := t.hideCrcs, hideBashTags := t.hideBashTags } := by
  cases t
  cases u
  obtain ⟨rfl, rfl, rfl, rfl, rfl⟩ := h
  rfl

end Toggles

theorem Criteria.showsMessage_sameContent (c : Criteria) {t : Toggles}
    (h : t.SameContent c.toggles) (m : Message) :
    ({ c with toggles := t } : Criteria).showsMessage m = c.showsMessage m := by
  rw [h.eq]
  rfl

theorem View.of_sameContent (c : Criteria) {t : Toggles} (h : t.SameContent c.toggles)
    (names : Names) (l : List Plugin) :
    View.of { c with toggles := t } names l = View.of c names l := by
  rw [h.eq]
  rfl

namespace Session

variable {s : Session}

/-! ### A full pass -/

/-- The view, the number of shown messages and the hidden marks of the shown plugins are
    those of a filter pass made now, without a conflict set. -/
def Passed (s : Session) : Prop := ({ s with conflicts := [] } : Session).UpToDate

theorem Passed.congr {t : Session} (h : s.Passed) (hview : t.view = s.view)
    (hcriteria : t.criteria = s.criteria) (htotals : t.totals = s.totals)
    (hcards : t.plugins.map Plugin.uncarded = s.plugins.map Plugin.uncarded) : t.Passed :=
  UpToDate.congr h hview hcriteria rfl htotals hcards

theorem passed_showCards_iff : s.showCards.Passed ↔ s.Passed :=
  ⟨fun h => h.congr rfl rfl rfl s.showCards_uncarded.symm,
    fun h => h.congr rfl rfl rfl s.showCards_uncarded⟩

theorem passed_finishRefresh (h : s.Balanced) : (s.finishRefresh []).Passed :=
  upToDate_finishRefresh h []

theorem Passed.restoreToggles (h : s.Passed) {t : Toggles}
    (hsame : t.SameContent s.criteria.toggles) : (s.restoreToggles t).Passed where
  view := h.view.trans (View.of_sameContent s.criteria hsame [] s.plugins).symm
  shownMessages := h.shownMessages
  hidden_le := h.hidden_le
  marks := by
    intro p hp m hm
    rw [h.marks p hp m hm]
    exact congrArg _ (Criteria.showsMessage_sameContent s.criteria hsame m).symm

/-! ### Applying switches -/

theorem applyToggles_of_content (hactive : s.courier.active = none)
    (hconf : s.criteria.conflictPlugin = none) (h : s.criteria.toggles.anyContent = true) :
    s.applyToggles = (s.finishRefresh []).showCards := by
  rw [applyToggles, if_pos h, refresh_of_none hactive hconf]

theorem applyToggles_of_none (h : s.criteria.toggles.anyContent = false) :
    s.applyToggles = s.showCards := by
  simp only [applyToggles, h, Bool.false_eq_true, if_false]

/-- **When applied switches leave the view of a full pass:** if one of them asks for a
    refresh, or if the view is that of a full pass before. -/
theorem passed_applyToggles_iff (hb : s.Balanced) (hactive : s.courier.active = none)
    (hconf : s.criteria.conflictPlugin = none) :
    s.applyToggles.Passed ↔ s.criteria.toggles.anyContent = true ∨ s.Passed := by
  cases hcontent : s.criteria.toggles.anyContent with
  | true =>
    rw [applyToggles_of_content hactive hconf hcontent, passed_showCards_iff]
    exact iff_of_true (passed_finishRefresh hb) (.inl rfl)
  | false =>
    rw [applyToggles_of_none hcontent, passed_showCards_iff]
    simp only [Bool.false_eq_true, false_or]

theorem applyToggles_criteria (s : Session) : s.applyToggles.criteria = s.criteria := by
  rcases applyToggles_eq s with heq | heq <;> rw [heq]
  · exact refresh_criteria s
  · rfl

theorem applyToggles_bare (hactive : s.courier.active = none)
    (hconf : s.criteria.conflictPlugin = none) :
    s.applyToggles.plugins.map Plugin.bare = s.plugins.map Plugin.bare := by
  cases hcontent : s.criteria.toggles.anyContent with
  | true =>
    rw [applyToggles_of_content hactive hconf hcontent, showCards_bare]
    exact Plugin.map_bare_of_map_unmarked (s.finishRefresh_unmarked [])
  | false => rw [applyToggles_of_none hcontent, showCards_bare]

/-- In everyday use the view is always that of a full pass, while there is no conflict
    plugin and no question is out. -/
theorem passed_run_new (toggles : Toggles) (phrase : String) {acts : List Act}
    (hacts : ∀ a ∈ acts, a.isEveryday = true)
    (hactive : ((new toggles phrase).run acts).courier.active = none)
    (hconf : ((new toggles phrase).run acts).criteria.conflictPlugin = none) :
    ((new toggles phrase).run acts).Passed := by
  have h := settled_run (settled_new toggles phrase) hacts
  have hnone := (h.conflicts hactive).eq_nil_iff.mpr hconf
  exact (h.upToDate hactive).congr rfl rfl hnone.symm rfl rfl

/-- **When restored switches can do without a refresh.**  Whatever was done with a session,
    when no question is out and there is no conflict plugin, switches that are restored and
    applied leave the view of a full pass under them if and only if one of the five is on
    that decide what is shown, or the view was that of such a pass before.  If none is on,
    nothing changes but the switches and the cards.  So the view is right in that case,
    too, if it was made with none of the five on; and in everyday use it is made anew
    whenever something changes that it depends on. -/
theorem applied_run_new (toggles : Toggles) (phrase : String) (acts : List Act)
    (restored : Toggles) :
    let s := (new toggles phrase).run acts
    s.isBusy = false → s.criteria.conflictPlugin = none →
      let t := (s.restoreToggles restored).applyToggles
      t.criteria = { s.criteria with toggles := restored } ∧
      t.plugins.map Plugin.bare = s.plugins.map Plugin.bare ∧
      (t.Passed ↔ restored.anyContent = true ∨ (s.restoreToggles restored).Passed) ∧
      (restored.anyContent = false → t.view = s.view ∧ t.totals = s.totals ∧
        t.plugins.map Plugin.uncarded = s.plugins.map Plugin.uncarded) ∧
      (s.Passed → s.criteria.toggles.anyContent = false → t.Passed) ∧
      ((∀ a ∈ acts, a.isEveryday = true) → s.Passed) := by
  intro s hidle hconf t
  have hactive : s.courier.active = none := isBusy_eq_false_iff.mp hidle
  have hb : (s.restoreToggles restored).Balanced :=
    ((reached_run_new toggles phrase acts).perform (.restoreToggles restored)).balanced
  have hiff : t.Passed ↔ restored.anyContent = true ∨ (s.restoreToggles restored).Passed :=
    passed_applyToggles_iff hb hactive hconf
  refine ⟨applyToggles_criteria _, applyToggles_bare hactive hconf, hiff, ?_, ?_, ?_⟩
  · intro hnone
    have heq : t = (s.restoreToggles restored).showCards := applyToggles_of_none hnone
    rw [heq]
    exact ⟨rfl, rfl, showCards_uncarded _⟩
  · -- from none of the five to none of them, so a pass would come to the same
    intro hpassed hbefore
    cases hafter : restored.anyContent with
    | true => exact hiff.mpr (.inl hafter)
    | false =>
      exact hiff.mpr (.inr (hpassed.restoreToggles (Toggles.sameContent_of_none hafter hbefore)))
  · exact fun hacts => passed_run_new toggles phrase hacts hactive hconf

/-- Everything is shown; then switches are restored that hide inactive plugins, or others
    that concern the cards alone. -/
theorem applied_run_new_hideInactive :
    let acts : List Act :=
      [.load none [Plugin.ofData "A.esp" {}, Plugin.ofData "B.esp" { active := true }]]
    let s := (new {} defaultPhrase).run acts
    let t := (s.restoreToggles { hideInactive := true }).applyToggles
    let u := (s.restoreToggles { hideCrcs := true }).applyToggles
    s.isBusy = false ∧ s.criteria.conflictPlugin = none ∧
      t.Passed ∧ t.view.shown = [1] ∧ u.Passed ∧ u.view.shown = [0, 1] := by
  intro acts s t u
  have hidle : s.isBusy = false := rfl
  have hconf : s.criteria.conflictPlugin = none := rfl
  have hacts : ∀ a ∈ acts, a.isEveryday = true := by decide
  obtain ⟨-, -, hiff, -, -, -⟩ :=
    applied_run_new {} defaultPhrase acts { hideInactive := true } hidle hconf
  obtain ⟨-, -, -, hsame, hnone, hpassed⟩ :=
    applied_run_new {} defaultPhrase acts { hideCrcs := true } hidle hconf
  refine ⟨hidle, hconf, hiff.mpr (.inl rfl), by decide, hnone (hpassed hacts) rfl, ?_⟩
  rw [(hsame rfl).1]
  decide

/-- **A refresh may be wanting.**  Inactive plugins are hidden, and switches are restored
    with which they would be shown: the view goes on hiding them. -/
theorem not_passed_applyToggles :
    let acts : List Act :=
      [.load none [Plugin.ofData "A.esp" {}, Plugin.ofData "B.esp" { active := true }],
       .setToggle .hideInactive true]
    let s := (new {} defaultPhrase).run acts
    let t := (s.restoreToggles {}).applyToggles
    s.isBusy = false ∧ s.criteria.conflictPlugin = none ∧ t.isBusy = false ∧
      t.view.shown = [1] ∧ (View.of t.criteria [] t.plugins).shown = [0, 1] ∧ ¬t.Passed := by
  intro acts s t
  have hshown : t.view.shown = [1] := by decide
  have hfull : (View.of t.criteria [] t.plugins).shown = [0, 1] := by decide
  refine ⟨rfl, rfl, rfl, hshown, hfull, fun hpassed => ?_⟩
  have hview : t.view = View.of t.criteria [] t.plugins := hpassed.view
  rw [hview, hfull] at hshown
  cases hshown

end Session

end LoadOrder
