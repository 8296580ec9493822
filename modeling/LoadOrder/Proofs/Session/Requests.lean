/-
  LoadOrder/Proofs/Session/Requests.lean
  ======================================
  **However often a refresh is asked for while a question is out, one is made.**

  While a question is out, every request for a refresh comes to the same: one is owed
  from then on (`stillOut_perform`).  When the outcome is picked up, the debt is paid by
  one filter pass or by one question (`refreshed_handle`), for the criteria of that
  moment.  Nothing is owed after that, so a question that was asked to pay the debt
  brings its pass and no further question (`Refreshed.pollConflicts`).

  The loops are bounded for the same reason.  Each outcome that is dealt with leaves
  less to do (`work_handle_lt`), and there is never more to do than to deal with one
  outcome and to pay one debt (`work_le_two`).
-/
import LoadOrder.Proofs.Session.Reached

namespace LoadOrder

/-! ### Passes -/

/-- Whether an event tells of a filter pass. -/
def Event.isPass : Event → Bool
  | .passComplete _ _ _ => true
  | _ => false

theorem Totals.isPass_of_mem_applyEvents {t : Totals} {c : Change} {e : Event}
    (h : e ∈ t.applyEvents c) : e.isPass = false := by
  have hclamp : ∀ counter value add sub, e ∈ clampEvent counter value add sub →
      e.isPass = false := by
    intro counter value add sub hmem
    unfold clampEvent at hmem
    split at hmem
    · rw [List.mem_singleton.mp hmem]
      rfl
    · cases hmem
  cases c with
  | messages old new =>
    simp only [applyEvents, List.mem_append] at h
    rcases h with ((h | h) | h) | h <;> exact hclamp _ _ _ _ h
  | dirty isDirty =>
    cases isDirty with
    | true => cases h
    | false => exact hclamp _ _ _ _ h

theorem Totals.isPass_of_mem_applyAllEvents {changes : List Change} {t : Totals} {e : Event}
    (h : e ∈ t.applyAllEvents changes) : e.isPass = false := by
  induction changes generalizing t with
  | nil => cases h
  | cons c rest ih =>
    rcases List.mem_append.mp h with h | h
    · exact isPass_of_mem_applyEvents h
    · exact ih h

theorem Plugin.isPass_of_mem_editEvents {p : Plugin} {edit : Edit} {t : Totals} {e : Event}
    (h : e ∈ p.editEvents edit t) : e.isPass = false := by
  rcases List.mem_append.mp h with h | h
  · exact Totals.isPass_of_mem_applyAllEvents h
  · split at h
    · cases h
    · rw [List.mem_singleton.mp h]
      rfl

namespace Merge

/-- No filter pass is part of a merge. -/
def Passless (m : Merge) : Prop := ∀ e ∈ m.events, e.isPass = false

theorem Passless.editNamed {m : Merge} (h : m.Passless) (name : String) (edit : Edit) :
    (m.editNamed name edit).Passless := by
  cases hp : named? name m.plugins with
  | none =>
    rw [editNamed_of_none hp]
    exact h
  | some p =>
    rw [editNamed_of_some hp]
    intro e he
    rcases List.mem_append.mp he with he | he
    · exact h e he
    · exact Plugin.isPass_of_mem_editEvents he

theorem Passless.addFinding {m : Merge} (h : m.Passless) (entry : String × Finding) :
    (m.addFinding entry).Passless := by
  apply Passless.editNamed
  have hconflict : (m.noteConflict entry.1 entry.2.conflicts).Passless := by
    unfold noteConflict
    split <;> exact h
  unfold noteMissing
  split
  · intro e he
    rcases List.mem_append.mp he with he | he
    · exact hconflict e he
    · rw [List.mem_singleton.mp he]
      rfl
  · exact hconflict

theorem passless_run (l : List Plugin) (totals : Totals) (plugin : String)
    (report : Option Report) : (run l totals plugin report).Passless := by
  have hfold : ∀ (entries : Report) (m : Merge), m.Passless →
      (entries.foldl addFinding m).Passless := by
    intro entries
    induction entries with
    | nil => exact fun _ h => h
    | cons entry rest ih => exact fun m h => ih _ (h.addFinding entry)
  exact hfold _ _ fun _ he => by cases he

end Merge

namespace Session

variable {s t u : Session}

/-- How many filter passes were made. -/
def passes (s : Session) : Nat := s.trace.countP Event.isPass

theorem passes_absorb {m : Merge} (h : m.Passless) (s : Session) :
    (s.absorb m).passes = s.passes := by
  have hevents : m.events.reverse.countP Event.isPass = 0 := by
    rw [List.countP_eq_zero]
    intro e he
    rw [h e (List.mem_reverse.mp he)]
    exact Bool.false_ne_true
  show (m.events.reverse ++ s.trace).countP Event.isPass = _
  rw [List.countP_append, hevents, Nat.zero_add, passes]

theorem passes_taking (s : Session) (o : Outcome) : (s.taking o).passes = s.passes := by
  cases o with
  | completed plugin report =>
    exact passes_absorb (Merge.passless_run s.plugins s.totals plugin report)
      { s with progress := none }
  | failed plugin text =>
    have hnone := Merge.passless_run s.plugins s.totals plugin none
    exact passes_absorb hnone ((({ s with progress := none } : Session).note _ _).notify _ _ _)

theorem passes_finishRefresh (s : Session) (names : Names) :
    (s.finishRefresh names).passes = s.passes + 1 :=
  List.countP_cons_of_pos rfl

theorem passes_blame (s : Session) (o : Outcome) : (s.blame o).passes = s.passes := by
  cases o <;> rfl

theorem passes_handle_of_free (hlate : s.askedEdition = s.edition)
    (hheld : s.refreshHeld = false) (o : Outcome) : (s.handle o).passes = s.passes + 1 := by
  rw [handle_of_free hlate hheld, passes_blame, passes_finishRefresh, passes_taking]

/-! ### The bound of the loops -/

/-- The outcomes that one picks up who waits, the latest first. -/
def waitPickUps (s : Session) (engine : Engine) : List PickUp :=
  match _h : s.courier.await engine with
  | none => []
  | some (o, c) =>
    ((s.withCourier c).handle o).waitPickUps engine ++ [⟨s.withCourier c, o⟩]
termination_by s.work
decreasing_by exact work_handle_lt s c o (Courier.await_eq_some _h).1 (Courier.await_eq_some _h).2

theorem waitPickUps_eq (hs : s.courier.Sound) (engine : Engine) :
    s.waitPickUps engine = s.pollPickUps (.always engine) := by
  fun_induction waitPickUps s engine with
  | case1 s hp =>
    rw [hs.await_eq_poll] at hp
    rw [pollPickUps_of_none hp]
  | case2 s o c hp ih =>
    rw [hs.await_eq_poll] at hp
    rw [pollPickUps_of_some hp, ih (sound_pickUp hs hp)]

theorem length_pollPickUps_le (s : Session) (arrival : Courier.Arrival) :
    (s.pollPickUps arrival).length ≤ s.work := by
  fun_induction pollPickUps s arrival with
  | case1 s hp => exact Nat.zero_le _
  | case2 s o c hp ih =>
    obtain ⟨hpending, hidle⟩ := Courier.poll_eq_some hp
    have hless := work_handle_lt s c o hpending hidle
    rw [List.length_append, List.length_singleton]
    omega

theorem pending_le_one {c : Courier} (h : c.Sound) : c.pending ≤ 1 := by
  cases h <;> simp [Courier.pending]

/-- **There is never more to do than to deal with one outcome and to pay one debt.** -/
theorem work_le_two (hs : s.courier.Sound) : s.work ≤ 2 := by
  have hpending := pending_le_one hs
  unfold work
  split <;> omega

/-! ### Requests -/

/-- Whether an act requests a refresh, under some criteria. -/
def Act.requests (c : Criteria) : Act → Bool
  | .load _ _ => true
  | .setToggle toggle on => !toggle.isDisplayOnly && c.toggles.get toggle != on
  | .flipToggle toggle => !toggle.isDisplayOnly
  | .applyToggles => c.toggles.anyContent
  | .setContentFilter value => Text.trim value != c.needle
  | .showConflicts plugin => plugin != c.conflictPlugin
  | .refresh => true
  | .refreshAndWait _ => true
  | _ => false

/-- How many acts request a refresh. -/
def requestCount (s : Session) : List Act → Nat
  | [] => 0
  | a :: rest => (if a.requests s.criteria then 1 else 0) + (s.perform a).requestCount rest

/-- The question that is out in `s` is still out in `t`, and since then nothing was asked
    and no pass was made. -/
structure StillOut (s t : Session) : Prop where
  active : t.courier.active = s.courier.active
  asked : t.courier.asked = s.courier.asked
  passes : t.passes = s.passes

theorem StillOut.trans (hst : StillOut s t) (htu : StillOut t u) : StillOut s u where
  active := htu.active.trans hst.active
  asked := htu.asked.trans hst.asked
  passes := htu.passes.trans hst.passes

theorem refresh_of_busy (hout : s.isBusy = true) : s.refresh = { s with refreshHeld := true } := by
  simp only [refresh, hout, if_true]

theorem pollConflicts_of_pickUps_nil {arrival : Courier.Arrival}
    (h : s.pollPickUps arrival = []) : s.pollConflicts arrival = s := by
  cases hp : s.courier.poll arrival with
  | none => exact pollConflicts_of_none hp
  | some pair =>
    rw [pollPickUps_of_some hp] at h
    exact absurd h (List.append_ne_nil_of_right_ne_nil _ (List.cons_ne_nil _ _))

/-- The act leaves the question out, and a refresh is owed afterwards if and only if it
    was before or the act requests one. -/
def Defers (s : Session) (a : Act) : Prop :=
  StillOut s (s.perform a) ∧
    (s.perform a).refreshHeld = (s.refreshHeld || a.requests s.criteria)

theorem defers_of_same {a : Act} (hnone : a.requests s.criteria = false)
    (heq : s.perform a = t) (hcourier : t.courier = s.courier) (hpasses : t.passes = s.passes)
    (hheld : t.refreshHeld = s.refreshHeld) : s.Defers a := by
  rw [Defers, heq, hnone, hheld, Bool.or_false]
  refine ⟨⟨?_, ?_, hpasses⟩, rfl⟩ <;> rw [hcourier]

theorem defers_of_held {a : Act} (hrequest : a.requests s.criteria = true)
    (heq : s.perform a = t) (hcourier : t.courier = s.courier) (hpasses : t.passes = s.passes)
    (hheld : t.refreshHeld = true) : s.Defers a := by
  rw [Defers, heq, hrequest, hheld, Bool.or_true]
  refine ⟨⟨?_, ?_, hpasses⟩, rfl⟩ <;> rw [hcourier]

theorem defers_of_refresh {a : Act} (hout : s.isBusy = true)
    (hrequest : a.requests s.criteria = true) (heq : s.perform a = t.refresh)
    (hcourier : t.courier = s.courier) (hpasses : t.passes = s.passes) : s.Defers a := by
  have hbusy : t.isBusy = true := by rwa [isBusy, hcourier]
  rw [refresh_of_busy hbusy] at heq
  exact defers_of_held hrequest heq hcourier hpasses rfl

theorem passes_tell {e : Event} (h : e.isPass = false) (s : Session) :
    (s.tell e).passes = s.passes := by
  refine List.countP_cons_of_neg ?_
  rw [h]
  exact Bool.false_ne_true

theorem defers_setToggle {a : Act} (hout : s.isBusy = true) (toggle : Toggle) (on : Bool)
    (hperform : s.perform a = s.setToggle toggle on)
    (hrequests : a.requests s.criteria =
      (!toggle.isDisplayOnly && s.criteria.toggles.get toggle != on)) : s.Defers a := by
  rw [setToggle_eq] at hperform
  have hpasses : (s.turned toggle on).passes = s.passes := passes_tell rfl s
  by_cases hsame : s.criteria.toggles.get toggle = on
  · rw [if_pos hsame] at hperform
    refine defers_of_same ?_ hperform rfl rfl rfl
    simp [hrequests, hsame]
  · rw [if_neg hsame] at hperform
    cases hcard : toggle.isDisplayOnly with
    | true =>
      rw [hcard, if_pos rfl] at hperform
      refine defers_of_same ?_ hperform rfl hpasses rfl
      rw [hrequests, hcard]
      rfl
    | false =>
      rw [hcard, if_neg Bool.false_ne_true] at hperform
      refine defers_of_refresh hout ?_ hperform rfl hpasses
      rw [hrequests, hcard]
      simpa using hsame

/-- **While a question is out, a request for a refresh is remembered and nothing else is
    done about it.** -/
theorem defers (hs : s.courier.Sound) (hout : s.isBusy = true) {a : Act}
    (hnone : s.pickUpsOf a = []) : s.Defers a := by
  cases a with
  | load title plugins =>
    exact defers_of_refresh hout rfl (load_eq s title plugins) rfl (passes_tell rfl _)
  | edit name e =>
    have hedit := Merge.Passless.editNamed (m := { plugins := s.plugins, totals := s.totals })
      (fun _ he => by cases he) name e
    exact defers_of_same rfl rfl rfl (passes_absorb hedit s) rfl
  | setToggle toggle on => exact defers_setToggle hout toggle on rfl rfl
  | flipToggle toggle =>
    refine defers_setToggle hout toggle _ rfl ?_
    cases hcard : toggle.isDisplayOnly <;> simp [Act.requests, hcard]
  | applyToggles =>
    cases hany : s.criteria.toggles.anyContent with
    | true =>
      have heq : s.applyToggles = ({ s with refreshHeld := true } : Session).showCards := by
        simp only [applyToggles, hany, if_true, refresh_of_busy hout]
      exact defers_of_held hany heq rfl rfl rfl
    | false =>
      have heq : s.applyToggles = s.showCards := by
        simp only [applyToggles, hany, Bool.false_eq_true, if_false]
      exact defers_of_same hany heq rfl rfl rfl
  | setContentFilter value =>
    have heq : s.perform (.setContentFilter value) = _ := setContentFilter_eq s value
    by_cases hsame : Text.trim value = s.criteria.needle
    · rw [if_pos hsame] at heq
      refine defers_of_same ?_ heq rfl rfl rfl
      simp [Act.requests, hsame]
    · rw [if_neg hsame] at heq
      refine defers_of_refresh hout ?_ heq (filteredBy_courier s value) (passes_tell rfl _)
      simpa [Act.requests] using hsame
  | showConflicts plugin =>
    have heq : s.perform (.showConflicts plugin) = _ := showConflicts_eq s plugin
    by_cases hsame : plugin = s.criteria.conflictPlugin
    · rw [if_pos hsame] at heq
      refine defers_of_same ?_ heq rfl rfl rfl
      simp [Act.requests, hsame]
    · rw [if_neg hsame] at heq
      refine defers_of_refresh hout ?_ heq rfl rfl
      simpa [Act.requests] using hsame
  | refresh => exact defers_of_refresh hout rfl rfl rfl rfl
  | refreshAndWait engine =>
    have hwait : s.refreshAndWait engine = s.refresh := by
      rw [refreshAndWait, waitForConflicts_eq (sound_refresh hs)]
      exact pollConflicts_of_pickUps_nil hnone
    exact defers_of_refresh hout rfl hwait rfl rfl
  | answer engine =>
    obtain ⟨-, hasked, hactive⟩ := hs.arrive (.always engine)
    exact ⟨⟨hactive, hasked, rfl⟩, (Bool.or_false _).symm⟩
  | poll arrival =>
    exact defers_of_same rfl (pollConflicts_of_pickUps_nil hnone) rfl rfl rfl
  | wait engine =>
    have hwait : s.waitForConflicts engine = s := by
      rw [waitForConflicts_eq hs]
      exact pollConflicts_of_pickUps_nil hnone
    exact defers_of_same rfl hwait rfl rfl rfl
  | tick arrival =>
    have htick : s.tick arrival = { s with notice := s.liveNotice } :=
      pollConflicts_of_pickUps_nil hnone
    exact defers_of_same rfl htick rfl rfl rfl
  | note level text => exact defers_of_same rfl rfl rfl (passes_tell rfl s) rfl
  | selectNextResult =>
    have hrow : ∃ row, s.selectNextResult = { s with selected := row } := by
      rw [selectNextResult]
      split
      · exact ⟨_, rfl⟩
      · exact ⟨s.selected, rfl⟩
    obtain ⟨row, hrow⟩ := hrow
    exact defers_of_same rfl hrow rfl rfl rfl
  | _ => exact defers_of_same rfl rfl rfl rfl rfl

/-- **Several acts defer all the refreshes that they request,** as long as the outcome is
    not picked up. -/
theorem stillOut_run (hs : s.courier.Sound) (hout : s.isBusy = true) {acts : List Act}
    (hnone : s.pickUps acts = []) :
    StillOut s (s.run acts) ∧
      (s.run acts).refreshHeld = (s.refreshHeld || decide (1 ≤ s.requestCount acts)) := by
  induction acts generalizing s with
  | nil => exact ⟨⟨rfl, rfl, rfl⟩, (Bool.or_false _).symm⟩
  | cons a rest ih =>
    obtain ⟨hrest, hnow⟩ := List.append_eq_nil_iff.mp hnone
    obtain ⟨hstill, hheld⟩ := defers hs hout hnow
    have hout' : (s.perform a).isBusy = true := by
      rwa [isBusy, Courier.isBusy, hstill.active]
    obtain ⟨hstill', hheld'⟩ := ih (sound_perform hs a) hout' hrest
    refine ⟨hstill.trans hstill', ?_⟩
    -- the debt is there after the first act that requests a refresh, and stays
    rw [run_cons, hheld', hheld, requestCount, Bool.or_assoc]
    cases a.requests s.criteria <;> simp

/-! ### The debt is paid -/

/-- From `s` to `t` one refresh was started, for the criteria of `s`: a pass was made, or
    a question was asked. -/
structure Refreshed (s t : Session) : Prop where
  criteria : t.criteria = s.criteria
  active : t.courier.active = s.criteria.conflictPlugin
  asked : t.courier.asked = s.criteria.conflictPlugin.toList ++ s.courier.asked
  passes : t.passes = s.passes + if s.criteria.conflictPlugin.isNone then 1 else 0
  refreshHeld : t.refreshHeld = false
  inFlight : t.courier.active ≠ none → t.askedEdition = t.edition

theorem refreshed_refresh (hs : s.courier.Sound) (hidle : s.courier.active = none)
    (hheld : s.refreshHeld = false) : Refreshed s s.refresh := by
  rcases s.refresh_cases with ⟨_, hactive, -⟩ | ⟨-, hconf, heq⟩ | ⟨plugin, -, hconf, heq⟩
  · cases hidle.symm.trans hactive
  · rw [heq]
    constructor
    · rfl
    · rw [hconf]
      exact hidle
    · rw [hconf]
      rfl
    · rw [hconf]
      exact passes_finishRefresh s []
    · exact hheld
    · exact fun hout => absurd hidle hout
  · have hsend : (s.ask plugin).courier = _ := hs.send_of_free hidle plugin
    rw [heq]
    constructor
    · rfl
    · rw [hsend, hconf]
    · rw [hsend, hconf]
      rfl
    · rw [hconf]
      exact List.countP_cons_of_neg Bool.false_ne_true
    · exact hheld
    · exact fun _ => rfl

theorem Refreshed.of_eq {r : Session} (h : Refreshed r t) (hcriteria : r.criteria = s.criteria)
    (hasked : r.courier.asked = s.courier.asked) (hpasses : r.passes = s.passes) :
    Refreshed s t where
  criteria := h.criteria.trans hcriteria
  active := by rw [h.active, hcriteria]
  asked := by rw [h.asked, hcriteria, hasked]
  passes := by rw [h.passes, hcriteria, hpasses]
  refreshHeld := h.refreshHeld
  inFlight := h.inFlight

/-- **When a refresh is owed, an outcome starts one.** -/
theorem refreshed_handle (hs : s.courier.Sound) (hidle : s.courier.active = none)
    (hheld : s.refreshHeld = true) (o : Outcome) : Refreshed s (s.handle o) := by
  rcases s.handle_cases o with ⟨-, heq⟩ | ⟨-, -, heq⟩ | ⟨-, hfree, -⟩
  · rw [heq]
    refine (refreshed_refresh (s := s.dropping o) hs hidle rfl).of_eq rfl rfl ?_
    exact List.countP_cons_of_neg Bool.false_ne_true
  · rw [heq]
    have hcourier := taking_courier s o
    refine Refreshed.of_eq (refreshed_refresh ?_ ?_ rfl) (taking_criteria s o) ?_
      (passes_taking s o)
    · rwa [hcourier]
    · rwa [hcourier]
    · rw [hcourier]
  · cases hheld.symm.trans hfree

/-- **Nothing more is asked when the debt is paid,** and there is at most the one pass
    that it took; if nothing is out at the end, there is exactly that one. -/
theorem Refreshed.pollConflicts (h : Refreshed s t) (ht : t.courier.Sound)
    (arrival : Courier.Arrival) :
    (t.pollConflicts arrival).courier.asked = t.courier.asked ∧
      (t.pollConflicts arrival).passes ≤ s.passes + 1 ∧
      ((t.pollConflicts arrival).isBusy = false →
        (t.pollConflicts arrival).passes = s.passes + 1) := by
  have hpasses := h.passes
  cases hp : t.courier.poll arrival with
  | none =>
    rw [pollConflicts_of_none hp]
    refine ⟨rfl, ?_, fun hidle => ?_⟩
    · rw [hpasses]
      split <;> omega
    · have hconf := h.active.symm.trans (isBusy_eq_false_iff.mp hidle)
      rw [hpasses, hconf]
      rfl
  | some pair =>
    obtain ⟨o, c⟩ := pair
    obtain ⟨plugin, _, hactive, -, rfl⟩ := ht.poll_eq_some hp
    have hlate : t.askedEdition = t.edition := by
      apply h.inFlight
      rw [hactive]
      exact Option.some_ne_none plugin
    rw [pollConflicts_of_free ht hlate h.refreshHeld hp]
    have hmade : ((t.withCourier t.courier.freed).handle o).passes = t.passes + 1 :=
      passes_handle_of_free (s := t.withCourier t.courier.freed) hlate h.refreshHeld o
    have hcourier : ((t.withCourier t.courier.freed).handle o).courier = t.courier.freed :=
      handle_courier_of_free (s := t.withCourier t.courier.freed) hlate h.refreshHeld o
    -- the question was the refresh, so no pass had been made for it
    rw [← h.active, hactive] at hpasses
    refine ⟨?_, ?_, fun _ => ?_⟩
    · rw [hcourier]
      rfl
    · rw [hmade, hpasses]
      exact Nat.le_refl _
    · rw [hmade, hpasses]
      rfl

theorem refreshed_pickUp (hs : s.courier.Sound) (hheld : s.refreshHeld = true)
    {arrival : Courier.Arrival} {o : Outcome} {c : Courier}
    (hp : s.courier.poll arrival = some (o, c)) :
    Refreshed s ((s.withCourier c).handle o) := by
  obtain ⟨_, _, _, _, rfl⟩ := hs.poll_eq_some hp
  exact (refreshed_handle (s := s.withCourier s.courier.freed) (.freed _) rfl hheld o).of_eq
    rfl rfl rfl

theorem resting_waitForConflicts (h : s.Reached) (engine : Engine) :
    (s.waitForConflicts engine).isBusy = false ∧
      (s.waitForConflicts engine).refreshHeld = false ∧
      (s.waitForConflicts engine).progress = none := by
  have hidle := isBusy_waitForConflicts h.sound engine
  have hactive := isBusy_eq_false_iff.mp hidle
  have hresting := (h.waitForConflicts engine).resting
  exact ⟨hidle, hresting.held hactive, hresting.progress_eq_none hactive⟩

/-! ### Runs of a new session -/

/-- **However often a refresh is asked for while a question is out, one is made.**  One
    who waits deals with two outcomes at most, and then nothing is out, nothing is owed
    and the header is clear; one who looks deals with two at most as well.  And when
    refreshes are requested while a question is out, as often as may be, then none is
    made before its outcome is picked up, one is started then, for the criteria of that
    moment, and whatever the engine says to that leads to no further one. -/
theorem requests_run_new (toggles : Toggles) (phrase : String) (before : List Act) :
    let s := (new toggles phrase).run before
    (∀ engine, (s.waitPickUps engine).length ≤ 2 ∧
      (s.waitForConflicts engine).isBusy = false ∧
      (s.waitForConflicts engine).refreshHeld = false ∧
      (s.waitForConflicts engine).progress = none) ∧
    (∀ arrival, (s.pollPickUps arrival).length ≤ 2) ∧
    ∀ acts, s.isBusy = true → s.pickUps acts = [] → 1 ≤ s.requestCount acts →
      let t := s.run acts
      StillOut s t ∧
      ∀ arrival o c, t.courier.poll arrival = some (o, c) →
        let asked := t.criteria.conflictPlugin.toList ++ s.courier.asked
        Refreshed t ((t.withCourier c).handle o) ∧
        (t.pollConflicts arrival).courier.asked = asked ∧
        (t.pollConflicts arrival).passes ≤ s.passes + 1 ∧
        ∀ engine, arrival = .always engine →
          (t.waitForConflicts engine).courier.asked = asked ∧
          (t.waitForConflicts engine).passes = s.passes + 1 := by
  intro s
  have hreached : s.Reached := reached_run_new toggles phrase before
  have hs := hreached.sound
  have hbound : ∀ arrival, (s.pollPickUps arrival).length ≤ 2 := fun arrival =>
    Nat.le_trans (length_pollPickUps_le s arrival) (work_le_two hs)
  refine ⟨fun engine => ⟨?_, resting_waitForConflicts hreached engine⟩, hbound, ?_⟩
  · rw [waitPickUps_eq hs]
    exact hbound _
  · intro acts hout hnone hrequests t
    obtain ⟨hstill, hheld⟩ := stillOut_run hs hout hnone
    rw [decide_eq_true hrequests, Bool.or_true] at hheld
    have ht : t.courier.Sound := (hreached.run acts).sound
    refine ⟨hstill, fun arrival o c hpoll => ?_⟩
    intro asked
    have hrefreshed := refreshed_pickUp ht hheld hpoll
    obtain ⟨hasked, hpasses, hexact⟩ :=
      hrefreshed.pollConflicts (sound_pickUp ht hpoll) arrival
    rw [← pollConflicts_of_some hpoll] at hasked hpasses hexact
    rw [hrefreshed.asked, hstill.asked] at hasked
    rw [hstill.passes] at hpasses hexact
    refine ⟨hrefreshed, hasked, hpasses, ?_⟩
    rintro engine rfl
    have hidle := isBusy_waitForConflicts ht engine
    rw [waitForConflicts_eq ht] at hidle ⊢
    exact ⟨hasked, hexact hidle⟩

/-- Three refreshes are requested while a question is out, and the plugin is asked about
    once more. -/
theorem requests_showConflicts_three :
    let before : List Act :=
      [.load none [Plugin.ofData "A.esp" {}], .showConflicts (some "A.esp")]
    let acts : List Act :=
      [.setToggle .hideInactive true, .setContentFilter "a", .refresh]
    let s := (new {} defaultPhrase).run before
    let t := (s.run acts).waitForConflicts fun _ _ => .reply "null"
    s.requestCount acts = 3 ∧ t.courier.asked = ["A.esp", "A.esp"] ∧ t.passes = s.passes + 1 := by
  intro before acts s t
  have hcount : s.requestCount acts = 3 := by decide
  have hone : 1 ≤ s.requestCount acts := by omega
  obtain ⟨-, -, hall⟩ := requests_run_new {} defaultPhrase before
  obtain ⟨-, hpicked⟩ := hall acts rfl rfl hone
  obtain ⟨-, -, -, hwaited⟩ := hpicked (.always fun _ _ => .reply "null") _ _ rfl
  obtain ⟨hasked, hpasses⟩ := hwaited _ rfl
  exact ⟨hcount, hasked, hpasses⟩

end Session

end LoadOrder
