/-
  LoadOrder/Proofs/Session/Reached.lean
  =====================================
  **What holds of every session that was ever reached.**

  Three things hold of a session after any run, with edits and with switches that were
  restored (`Reached`): its courier is sound, its totals are right, and it rests when
  no question is out (`Resting`).  To rest means that no refresh is owed; and the
  header speaks of a question exactly while one is out.

  Below stands what an outcome comes to for the plugins: all the edits of its findings
  (`taking_plugins`), and a set of names that depends on the outcome alone
  (`mergeOf_names_congr`); and what is left alone by it.
-/
import LoadOrder.Proofs.Conflict.Merge
import LoadOrder.Proofs.Session.Balance

namespace LoadOrder

/-- The findings that an outcome brings. -/
def Outcome.findings : Outcome → Report
  | .completed _ report => report.getD []
  | .failed _ _ => []

namespace Session

variable {s t : Session}

/-! ### Rest -/

/-- No refresh is owed when no question is out, and the header says whether one is. -/
structure Resting (s : Session) : Prop where
  held : s.courier.active = none → s.refreshHeld = false
  progress : s.progress.isSome = s.courier.active.isSome

theorem Resting.progress_eq_none (h : s.Resting) (hidle : s.courier.active = none) :
    s.progress = none := by
  rw [← Option.isNone_iff_eq_none, ← Option.isSome_eq_false_iff, h.progress, hidle]
  rfl

theorem Resting.refresh (h : s.Resting) (hs : s.courier.Sound) : s.refresh.Resting := by
  rcases s.refresh_cases with ⟨plugin, hactive, heq⟩ | ⟨-, -, heq⟩ | ⟨plugin, hactive, -, heq⟩ <;>
    rw [heq]
  · refine ⟨fun hidle => ?_, h.progress⟩
    have hout : s.courier.active = none := hidle
    rw [hactive] at hout
    cases hout
  · exact ⟨h.held, h.progress⟩
  · have hsend : (s.ask plugin).courier = _ := hs.send_of_free hactive plugin
    constructor
    · intro hidle
      rw [hsend] at hidle
      cases hidle
    · rw [hsend]
      rfl

theorem resting_handle (hs : s.courier.Sound) (hidle : s.courier.active = none) (o : Outcome) :
    (s.handle o).Resting := by
  have hquiet : ∀ t : Session, t.courier = s.courier → t.progress = none →
      t.refreshHeld = false → t.Resting := by
    intro t hcourier hprogress hheld
    refine ⟨fun _ => hheld, ?_⟩
    rw [hprogress, hcourier, hidle]
  have hprogress : (s.taking o).progress = none := by cases o <;> rfl
  rcases s.handle_cases o with ⟨-, heq⟩ | ⟨-, -, heq⟩ | ⟨-, hheld, heq⟩ <;> rw [heq]
  · exact (hquiet (s.dropping o) rfl rfl rfl).refresh hs
  · refine (hquiet { s.taking o with refreshHeld := false } (taking_courier s o) hprogress
      rfl).refresh ?_
    rwa [taking_courier]
  · have hfree : (s.taking o).Resting := by
      refine hquiet _ (taking_courier s o) hprogress ?_
      rwa [taking_refreshHeld]
    cases o <;> exact ⟨hfree.held, hfree.progress⟩

theorem Resting.step {k : List PickUp} (h : s.Resting) (hst : Step s k t)
    (hs : s.courier.Sound) : t.Resting := by
  cases hst with
  | aside => exact ⟨h.held, h.progress⟩
  | search needle => exact ⟨h.held, h.progress⟩
  | refresh criteria =>
    have hnew : ({ s with criteria := criteria } : Session).Resting := ⟨h.held, h.progress⟩
    exact hnew.refresh hs
  | answer engine =>
    obtain ⟨-, -, hactive⟩ := hs.arrive (.always engine)
    have hsame : (s.deliver engine).courier.active = s.courier.active := hactive
    refine ⟨fun hidle => h.held (hsame ▸ hidle), ?_⟩
    rw [hsame]
    exact h.progress
  | @pickUp _ o c hp =>
    obtain ⟨_, _, _, _, rfl⟩ := hs.poll_eq_some hp
    exact resting_handle (.freed _) rfl o

/-! ### Reached sessions -/

/-- What every session has that was reached from a new one. -/
structure Reached (s : Session) : Prop where
  sound : s.courier.Sound
  balanced : s.Balanced
  resting : s.Resting

namespace Reached

theorem step {k : List PickUp} (h : s.Reached) (hst : Step s k t) : t.Reached :=
  ⟨sound_step hst h.sound, h.balanced.step hst, h.resting.step hst h.sound⟩

theorem path {k : List PickUp} (h : s.Reached) (hpath : Path s k t) : t.Reached :=
  hpath.kept (fun hst hs => hs.step hst) h

theorem refresh (h : s.Reached) : s.refresh.Reached := h.step (.refresh s s.criteria)

theorem perform (h : s.Reached) (a : Act) : (s.perform a).Reached := by
  have hresting : (s.perform a).Resting := by
    cases s.effect h.sound a with
    | path hpath => exact (h.path hpath).resting
    | load title plugins =>
      have hloaded : (s.loaded title plugins).Resting := ⟨h.resting.held, h.resting.progress⟩
      exact hloaded.refresh h.sound
    | edit name e => exact ⟨h.resting.held, h.resting.progress⟩
    | restoreToggles toggles => exact ⟨h.resting.held, h.resting.progress⟩
    | applyToggles =>
      have hrefresh := h.refresh.resting
      rcases applyToggles_eq s with heq | heq <;> rw [Session.perform, heq]
      · exact ⟨hrefresh.held, hrefresh.progress⟩
      · exact ⟨h.resting.held, h.resting.progress⟩
    | showCards => exact ⟨h.resting.held, h.resting.progress⟩
    | turn toggle on _ _ _ heq =>
      rw [heq]
      exact ⟨h.resting.held, h.resting.progress⟩
  exact ⟨sound_perform h.sound a, h.balanced.perform h.sound a, hresting⟩

theorem run (h : s.Reached) (acts : List Act) : (s.run acts).Reached :=
  run_kept (fun _ a _ ht => ht.perform a) h

theorem waitForConflicts (h : s.Reached) (engine : Engine) :
    (s.waitForConflicts engine).Reached := h.perform (.wait engine)

end Reached

theorem reached_run_new (toggles : Toggles) (phrase : String) (acts : List Act) :
    ((new toggles phrase).run acts).Reached :=
  Reached.run
    ⟨sound_new toggles phrase, balanced_new toggles phrase, fun _ => rfl, rfl⟩ acts

theorem poll_of_idle (hs : s.courier.Sound) (hidle : s.courier.active = none)
    (arrival : Courier.Arrival) : s.courier.poll arrival = none := by
  cases hp : s.courier.poll arrival with
  | none => rfl
  | some pair =>
    obtain ⟨plugin, _, hactive, -⟩ := hs.poll_eq_some hp
    cases hidle.symm.trans hactive

theorem handle_courier_of_free (hlate : s.askedEdition = s.edition)
    (hheld : s.refreshHeld = false) (o : Outcome) : (s.handle o).courier = s.courier := by
  rw [handle_of_free hlate hheld, blame_courier, finishRefresh_courier, taking_courier]

/-- With no refresh owed, a loop ends after one outcome. -/
theorem pollConflicts_of_free (hs : s.courier.Sound) (hlate : s.askedEdition = s.edition)
    (hheld : s.refreshHeld = false) {arrival : Courier.Arrival} {o : Outcome} {c : Courier}
    (hp : s.courier.poll arrival = some (o, c)) :
    s.pollConflicts arrival = (s.withCourier c).handle o := by
  obtain ⟨_, _, _, _, rfl⟩ := hs.poll_eq_some hp
  have hcourier : ((s.withCourier s.courier.freed).handle o).courier = s.courier.freed :=
    handle_courier_of_free (s := s.withCourier s.courier.freed) hlate hheld o
  rw [pollConflicts_of_some hp]
  apply pollConflicts_of_none
  rw [hcourier]
  rfl

/-! ### Outcomes that are taken over -/

theorem mergeOf_plugins (s : Session) (o : Outcome) :
    (s.mergeOf o).plugins = Merge.editAll o.findings s.plugins := by
  cases o <;> exact Merge.run_plugins _ _ _ _

/-- The names that an outcome leads to do not depend on the session. -/
theorem mergeOf_names_congr (s t : Session) (o : Outcome) :
    (s.mergeOf o).names = (t.mergeOf o).names := by
  cases o <;> exact Merge.run_names_congr _ _ _ _ _ _

theorem taking_plugins (s : Session) (o : Outcome) :
    (s.taking o).plugins = Merge.editAll o.findings s.plugins := by
  rw [← mergeOf_plugins]
  cases o <;> rfl

/-! ### What is left alone -/

theorem taking_rest (s : Session) (o : Outcome) :
    (s.taking o).title = s.title ∧ (s.taking o).needle = s.needle ∧
      (s.taking o).progress = none ∧ (s.taking o).selected = s.selected ∧
      (s.taking o).refreshHeld = s.refreshHeld ∧ (s.taking o).edition = s.edition ∧
      (s.taking o).askedEdition = s.askedEdition ∧ (s.taking o).clock = s.clock := by
  -- with the fields of the session at hand, no two sessions are compared as a whole
  cases s
  cases o <;> exact ⟨rfl, rfl, rfl, rfl, rfl, rfl, rfl, rfl⟩

theorem blame_rest (s : Session) (o : Outcome) :
    (s.blame o).criteria = s.criteria ∧ (s.blame o).plugins = s.plugins ∧
      (s.blame o).conflicts = s.conflicts := by
  cases o <;> exact ⟨rfl, rfl, rfl⟩

theorem refresh_criteria (s : Session) : s.refresh.criteria = s.criteria := by
  rcases s.refresh_cases with ⟨_, -, heq⟩ | ⟨-, -, heq⟩ | ⟨_, -, -, heq⟩ <;> rw [heq] <;> rfl

theorem handle_criteria (s : Session) (o : Outcome) : (s.handle o).criteria = s.criteria := by
  rcases s.handle_cases o with ⟨-, heq⟩ | ⟨-, -, heq⟩ | ⟨-, -, heq⟩ <;> rw [heq]
  · exact refresh_criteria _
  · rw [refresh_criteria]
    exact taking_criteria s o
  · rw [(blame_rest _ o).1, finishRefresh_criteria, taking_criteria]

end Session

end LoadOrder
