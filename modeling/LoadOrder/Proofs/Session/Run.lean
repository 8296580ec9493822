/-
  LoadOrder/Proofs/Session/Run.lean
  =================================
  **Runs of a session, and what they are made of.**

  A run is any sequence of acts (`Act`): what a user or a program does with a
  session, and the engine answering, which may happen between any two of them.
  Besides the session it leads to, a run has the outcomes that were picked up on the
  way (`pickUps`), each with the session that had to deal with it.

  Most acts come to the same few steps (`Step`): something beside the load order
  changes, a search, a refresh after a change of the criteria, an answer, an outcome
  that is picked up.  The loops are sequences of the last one (`path_pollConflicts`).
  So what is to hold along every run is shown for five steps, and for the acts that
  are none of them (`Effect`): a new load order, an edit, and what is done with the
  switches alone.
-/
import LoadOrder.Proofs.Conflict.Courier
import LoadOrder.Proofs.Session.Refresh
import LoadOrder.Session.Operations

namespace LoadOrder.Session

/-! ### Acts -/

/-- What may happen to a session. -/
inductive Act where
  | load (title : Option String) (plugins : List Plugin)
  | edit (name : String) (e : Edit)
  | setToggle (toggle : Toggle) (on : Bool)
  | flipToggle (toggle : Toggle)
  | restoreToggles (toggles : Toggles)
  | applyToggles
  | showCards
  | setContentFilter (value : String)
  | showConflicts (plugin : Option String)
  | search (needle : String)
  | moveSelection (rows : Int)
  | clampSelection
  | selectNextResult
  | refresh
  | refreshAndWait (engine : Engine)
  | answer (engine : Engine)
  | poll (arrival : Courier.Arrival)
  | wait (engine : Engine)
  | tick (arrival : Courier.Arrival)
  | note (level : LogLevel) (text : String)
  | scrollUp (lines : Nat)
  | scrollDown (lines : Nat)
  | notify (text : String) (level : NoticeLevel) (duration : Nat)
  | timePasses (time : Nat)

namespace Act

/-- Whether a load order is replaced. -/
def isLoad : Act → Bool
  | .load _ _ => true
  | _ => false

/-- The acts of everyday use: all but edits, and what a program does with switches
    that were saved. -/
def isEveryday : Act → Bool
  | .edit _ _ => false
  | .restoreToggles _ => false
  | .applyToggles => false
  | .showCards => false
  | _ => true

/-- Whether an act may turn a switch of the cards. -/
def turnsCards : Act → Bool
  | .setToggle toggle _ => toggle.isDisplayOnly
  | .flipToggle toggle => toggle.isDisplayOnly
  | _ => false

/-- Whether the plugins that an act loads all have a property. -/
def LoadsOnly (Loaded : Plugin → Prop) : Act → Prop
  | .load _ plugins => ∀ p ∈ plugins, Loaded p
  | _ => True

theorem loadsOnly_true (a : Act) : a.LoadsOnly fun _ => True := by
  unfold LoadsOnly
  split
  · exact fun _ _ => trivial
  · trivial

theorem loadsOnly_of_isLoad {a : Act} (h : a.isLoad = false) (Loaded : Plugin → Prop) :
    a.LoadsOnly Loaded := by
  unfold LoadsOnly
  split
  · cases h
  · trivial

end Act

/-- The session after an act. -/
def perform (s : Session) : Act → Session
  | .load title plugins => s.load title plugins
  | .edit name e => s.editPlugin name e
  | .setToggle toggle on => s.setToggle toggle on
  | .flipToggle toggle => s.flipToggle toggle
  | .restoreToggles toggles => s.restoreToggles toggles
  | .applyToggles => s.applyToggles
  | .showCards => s.showCards
  | .setContentFilter value => s.setContentFilter value
  | .showConflicts plugin => s.showConflicts plugin
  | .search needle => s.search needle
  | .moveSelection rows => s.moveSelection rows
  | .clampSelection => s.clampSelection
  | .selectNextResult => s.selectNextResult
  | .refresh => s.refresh
  | .refreshAndWait engine => s.refreshAndWait engine
  | .answer engine => s.deliver engine
  | .poll arrival => s.pollConflicts arrival
  | .wait engine => s.waitForConflicts engine
  | .tick arrival => s.tick arrival
  | .note level text => s.note level text
  | .scrollUp lines => { s with log := s.log.scrollUp lines }
  | .scrollDown lines => { s with log := s.log.scrollDown lines }
  | .notify text level duration => s.notify text level duration
  | .timePasses time => { s with clock := s.clock + time }

/-- The session after several acts. -/
def run (s : Session) (acts : List Act) : Session := acts.foldl perform s

@[simp] theorem run_nil (s : Session) : s.run [] = s := rfl

@[simp] theorem run_cons (s : Session) (a : Act) (acts : List Act) :
    s.run (a :: acts) = (s.perform a).run acts := rfl

theorem run_append (s : Session) (acts more : List Act) :
    s.run (acts ++ more) = (s.run acts).run more := List.foldl_append

/-! ### What is picked up -/

/-- An outcome that was picked up, and the session that had to deal with it. -/
structure PickUp where
  session : Session
  outcome : Outcome

/-- The outcomes that are picked up as long as there is one, the latest first. -/
def pollPickUps (s : Session) (arrival : Courier.Arrival) : List PickUp :=
  match _h : s.courier.poll arrival with
  | none => []
  | some (o, c) =>
    ((s.withCourier c).handle o).pollPickUps arrival ++ [⟨s.withCourier c, o⟩]
termination_by s.work
decreasing_by exact work_handle_lt s c o (Courier.poll_eq_some _h).1 (Courier.poll_eq_some _h).2

/-- The outcomes that are picked up in an act, the latest first.  One that waits
    picks up what one finds who looks at an engine that has answered
    (`waitForConflicts_eq`). -/
def pickUpsOf (s : Session) : Act → List PickUp
  | .poll arrival => s.pollPickUps arrival
  | .tick arrival => ({ s with notice := s.liveNotice } : Session).pollPickUps arrival
  | .wait engine => s.pollPickUps (.always engine)
  | .refreshAndWait engine => s.refresh.pollPickUps (.always engine)
  | _ => []

/-- The outcomes that are picked up in several acts, the latest first. -/
def pickUps (s : Session) : List Act → List PickUp
  | [] => []
  | a :: rest => (s.perform a).pickUps rest ++ s.pickUpsOf a

/-- **Induction along a run.**  What every act keeps, together with the outcomes
    picked up so far, holds after the run. -/
theorem run_induct {Q : Session → List PickUp → Prop} {acts : List Act}
    (hact : ∀ s l, ∀ a ∈ acts, Q s l → Q (s.perform a) (s.pickUpsOf a ++ l))
    {s : Session} {l : List PickUp} (hs : Q s l) : Q (s.run acts) (s.pickUps acts ++ l) := by
  induction acts generalizing s l with
  | nil => exact hs
  | cons a rest ih =>
    have hrest := ih (fun t k b hb => hact t k b (List.mem_cons_of_mem _ hb))
      (hact s l a List.mem_cons_self hs)
    rw [← List.append_assoc] at hrest
    exact hrest

theorem run_kept {P : Session → Prop} {acts : List Act}
    (hact : ∀ s, ∀ a ∈ acts, P s → P (s.perform a)) {s : Session} (hs : P s) : P (s.run acts) :=
  run_induct (Q := fun t _ => P t) (l := []) (fun t _ a ha => hact t a ha) hs

/-! ### The courier stays sound -/

theorem sound_refresh {s : Session} (h : s.courier.Sound) : s.refresh.courier.Sound := by
  rcases s.refresh_cases with ⟨_, -, heq⟩ | ⟨-, -, heq⟩ | ⟨_, -, -, heq⟩ <;> rw [heq]
  · exact h
  · exact h
  · exact h.send _

theorem sound_handle {s : Session} (h : s.courier.Sound) (o : Outcome) :
    (s.handle o).courier.Sound := by
  rcases s.handle_cases o with ⟨-, heq⟩ | ⟨-, -, heq⟩ | ⟨-, -, heq⟩ <;> rw [heq]
  · exact sound_refresh (by rwa [dropping_courier])
  · exact sound_refresh (by rwa [taking_courier])
  · rwa [blame_courier, finishRefresh_courier, taking_courier]

theorem sound_pickUp {s : Session} (h : s.courier.Sound) {arrival : Courier.Arrival}
    {o : Outcome} {c : Courier} (hp : s.courier.poll arrival = some (o, c)) :
    ((s.withCourier c).handle o).courier.Sound := by
  obtain ⟨_, _, _, _, rfl⟩ := h.poll_eq_some hp
  exact sound_handle (.freed _) o

/-! ### The loops -/

theorem pollConflicts_of_none {s : Session} {arrival : Courier.Arrival}
    (h : s.courier.poll arrival = none) : s.pollConflicts arrival = s := by
  rw [pollConflicts]
  split
  · rfl
  · rename_i hp
    rw [h] at hp
    cases hp

theorem pollConflicts_of_some {s : Session} {arrival : Courier.Arrival} {o : Outcome}
    {c : Courier} (h : s.courier.poll arrival = some (o, c)) :
    s.pollConflicts arrival = ((s.withCourier c).handle o).pollConflicts arrival := by
  rw [pollConflicts]
  split
  · rename_i hp
    rw [h] at hp
    cases hp
  · rename_i hp
    rw [h] at hp
    obtain ⟨rfl, rfl⟩ := Prod.mk.inj (Option.some.inj hp)
    rfl

theorem pollPickUps_of_none {s : Session} {arrival : Courier.Arrival}
    (h : s.courier.poll arrival = none) : s.pollPickUps arrival = [] := by
  rw [pollPickUps]
  split
  · rfl
  · rename_i hp
    rw [h] at hp
    cases hp

theorem pollPickUps_of_some {s : Session} {arrival : Courier.Arrival} {o : Outcome}
    {c : Courier} (h : s.courier.poll arrival = some (o, c)) :
    s.pollPickUps arrival =
      ((s.withCourier c).handle o).pollPickUps arrival ++ [⟨s.withCourier c, o⟩] := by
  rw [pollPickUps]
  split
  · rename_i hp
    rw [h] at hp
    cases hp
  · rename_i hp
    rw [h] at hp
    obtain ⟨rfl, rfl⟩ := Prod.mk.inj (Option.some.inj hp)
    rfl

/-- Waiting is looking at an engine that has answered, as long as there is something
    to wait for. -/
theorem waitForConflicts_eq {s : Session} (h : s.courier.Sound) (engine : Engine) :
    s.waitForConflicts engine = s.pollConflicts (.always engine) := by
  fun_induction waitForConflicts s engine with
  | case1 s hp =>
    rw [h.await_eq_poll] at hp
    rw [pollConflicts_of_none hp]
  | case2 s o c hp ih =>
    rw [h.await_eq_poll] at hp
    rw [pollConflicts_of_some hp, ih (sound_pickUp h hp)]

theorem isBusy_waitForConflicts {s : Session} (h : s.courier.Sound) (engine : Engine) :
    (s.waitForConflicts engine).isBusy = false := by
  fun_induction waitForConflicts s engine with
  | case1 s hp => exact isBusy_eq_false_iff.mpr (h.active_of_await_eq_none hp)
  | case2 s o c hp ih =>
    rw [h.await_eq_poll] at hp
    exact ih (sound_pickUp h hp)

/-! ### Steps -/

/-- What most acts are made of, and the outcomes that are picked up in it.  The
    session before a refresh may have new criteria. -/
inductive Step : Session → List PickUp → Session → Prop where
  | aside (s : Session) (status : String) (log : Log) (notice : Option Notice)
      (selected clock : Nat) (events : List Event) (h : ∀ e ∈ events, e.isMiscount = false) :
      Step s []
        { s with
          status := status, log := log, notice := notice, selected := selected, clock := clock
          trace := events ++ s.trace }
  | search (s : Session) (needle : String) : Step s [] (s.search needle)
  | refresh (s : Session) (criteria : Criteria) :
      Step s [] ({ s with criteria := criteria } : Session).refresh
  | answer (s : Session) (engine : Engine) : Step s [] (s.deliver engine)
  | pickUp {s : Session} {arrival : Courier.Arrival} {o : Outcome} {c : Courier}
      (h : s.courier.poll arrival = some (o, c)) :
      Step s [⟨s.withCourier c, o⟩] ((s.withCourier c).handle o)

/-- Several steps, and what is picked up in them, the latest first. -/
inductive Path : Session → List PickUp → Session → Prop where
  | refl (s : Session) : Path s [] s
  | head {s t u : Session} {k l : List PickUp} :
      Step s k t → Path t l u → Path s (l ++ k) u

theorem Path.single {s t : Session} {k : List PickUp} (h : Step s k t) : Path s k t :=
  .head h (.refl t)

/-- **Induction along a path.**  What every step keeps, together with the outcomes
    picked up so far, holds at the end. -/
theorem Path.induct {Q : Session → List PickUp → Prop}
    (hstep : ∀ {s k t l}, Step s k t → Q s l → Q t (k ++ l))
    {s t : Session} {k l : List PickUp} (h : Path s k t) (hs : Q s l) : Q t (k ++ l) := by
  induction h generalizing l with
  | refl s => exact hs
  | head hst _ ih =>
    rw [List.append_assoc]
    exact ih (hstep hst hs)

theorem Path.kept {P : Session → Prop} (hstep : ∀ {s k t}, Step s k t → P s → P t)
    {s t : Session} {k : List PickUp} (h : Path s k t) (hs : P s) : P t :=
  Path.induct (Q := fun u _ => P u) (l := []) (fun hst => hstep hst) h hs

theorem sound_step {s t : Session} {k : List PickUp} (h : Step s k t) (hs : s.courier.Sound) :
    t.courier.Sound := by
  cases h with
  | aside => exact hs
  | search => exact hs
  | refresh criteria => exact sound_refresh hs
  | answer engine => exact (hs.arrive (.always engine)).1
  | pickUp hp => exact sound_pickUp hs hp

/-- A look at the engine is a path along what it has answered. -/
theorem path_pollConflicts (s : Session) (arrival : Courier.Arrival) :
    Path s (s.pollPickUps arrival) (s.pollConflicts arrival) := by
  fun_induction pollConflicts s arrival with
  | case1 s hp =>
    rw [pollPickUps_of_none hp]
    exact .refl s
  | case2 s o c hp ih =>
    rw [pollPickUps_of_some hp]
    exact .head (.pickUp hp) ih

theorem path_aside (s : Session) (status : String) (log : Log) (notice : Option Notice)
    (selected clock : Nat) :
    Path s []
      { s with
        status := status, log := log, notice := notice, selected := selected, clock := clock } :=
  .single (.aside s status log notice selected clock [] fun _ h => by cases h)

/-! ### What an act comes to -/

/-- The session with a new load order, before the view is refreshed. -/
def loaded (s : Session) (title : Option String) (plugins : List Plugin) : Session :=
  ({ s with
    edition := s.edition + 1
    title := title.getD ""
    plugins := plugins
    totals := Totals.ofPlugins plugins
    criteria := { s.criteria with conflictPlugin := none }
    conflicts := []
    view := View.whole plugins
    selected := 0 } : Session).showCards.note .info
      ("Loaded " ++ toString plugins.length ++ " plugin(s)")

theorem load_eq (s : Session) (title : Option String) (plugins : List Plugin) :
    s.load title plugins = (s.loaded title plugins).refresh := rfl

/-- The session whose switch has been turned, before anything is brought up to date. -/
def turned (s : Session) (toggle : Toggle) (on : Bool) : Session :=
  ({ s with
    criteria := { s.criteria with toggles := s.criteria.toggles.set toggle on }
    status := toggle.label ++ ": " ++ (if on then "on" else "off") } : Session).tell
      (.toggled toggle.name on)

theorem setToggle_eq (s : Session) (toggle : Toggle) (on : Bool) :
    s.setToggle toggle on =
      if s.criteria.toggles.get toggle = on then s
      else if toggle.isDisplayOnly then (s.turned toggle on).showCards
      else (s.turned toggle on).refresh := rfl

/-- The session with a new content filter, before the view is refreshed. -/
def filteredBy (s : Session) (value : String) : Session :=
  ({ s with criteria := { s.criteria with needle := Text.trim value } } : Session).note .info
    (if Text.trim value = "" then "Content filter cleared"
     else "Content filter set: \"" ++ Text.trim value ++ "\"")

theorem filteredBy_courier (s : Session) (value : String) :
    (s.filteredBy value).courier = s.courier := by
  cases s
  rfl

theorem setContentFilter_eq (s : Session) (value : String) :
    s.setContentFilter value =
      if Text.trim value = s.criteria.needle then s else (s.filteredBy value).refresh := rfl

theorem showConflicts_eq (s : Session) (plugin : Option String) :
    s.showConflicts plugin =
      if plugin = s.criteria.conflictPlugin then s
      else
        ({ s with
          criteria := { s.criteria with conflictPlugin := plugin } } : Session).refresh :=
  rfl

/-- What an act comes to: a path, or one of the acts that are none. -/
inductive Effect (s : Session) : Act → Prop where
  | path {a : Act} (h : Path s (s.pickUpsOf a) (s.perform a)) : Effect s a
  | load (title : Option String) (plugins : List Plugin) : Effect s (.load title plugins)
  | edit (name : String) (e : Edit) : Effect s (.edit name e)
  | restoreToggles (toggles : Toggles) : Effect s (.restoreToggles toggles)
  | applyToggles : Effect s .applyToggles
  | showCards : Effect s .showCards
  | turn {a : Act} (toggle : Toggle) (on : Bool) (hcard : toggle.isDisplayOnly = true)
      (hturns : a.turnsCards = true) (hnone : s.pickUpsOf a = [])
      (h : s.perform a = (s.turned toggle on).showCards) : Effect s a

theorem path_refresh_turned (s : Session) (toggle : Toggle) (on : Bool) :
    Path s [] (s.turned toggle on).refresh := by
  refine .head (.aside s (toggle.label ++ ": " ++ (if on then "on" else "off")) s.log s.notice
    s.selected s.clock [.toggled toggle.name on] ?_)
    (.single (.refresh _ { s.criteria with toggles := s.criteria.toggles.set toggle on }))
  intro e he
  rw [List.mem_singleton.mp he]
  rfl

theorem effect_setToggle (s : Session) {a : Act} (toggle : Toggle) (on : Bool)
    (hturns : a.turnsCards = toggle.isDisplayOnly) (hnone : s.pickUpsOf a = [])
    (h : s.perform a = s.setToggle toggle on) : Effect s a := by
  rw [setToggle_eq] at h
  by_cases hsame : s.criteria.toggles.get toggle = on
  · rw [if_pos hsame] at h
    refine .path ?_
    rw [hnone, h]
    exact .refl s
  · rw [if_neg hsame] at h
    cases hcard : toggle.isDisplayOnly with
    | true => exact .turn toggle on hcard (hturns.trans hcard) hnone (by rw [h, hcard]; rfl)
    | false =>
      refine .path ?_
      rw [hnone, h, hcard]
      exact path_refresh_turned s toggle on

theorem path_setContentFilter (s : Session) (value : String) :
    Path s [] (s.setContentFilter value) := by
  unfold setContentFilter
  simp only
  split
  · exact .refl s
  · refine .head (.aside s s.status _ s.notice s.selected s.clock
      [.noted .info (if Text.trim value = "" then "Content filter cleared"
        else "Content filter set: \"" ++ Text.trim value ++ "\"")] ?_)
      (.single (.refresh _ { s.criteria with needle := Text.trim value }))
    intro e he
    rw [List.mem_singleton.mp he]
    rfl

theorem path_showConflicts (s : Session) (plugin : Option String) :
    Path s [] (s.showConflicts plugin) := by
  unfold showConflicts
  split
  · exact .refl s
  · exact .single (.refresh s { s.criteria with conflictPlugin := plugin })

theorem path_selectNextResult (s : Session) : Path s [] s.selectNextResult := by
  unfold selectNextResult
  simp only
  split
  · exact path_aside s s.status s.log s.notice _ s.clock
  · exact .refl s

theorem applyToggles_eq (s : Session) :
    s.applyToggles = s.refresh.showCards ∨ s.applyToggles = s.showCards := by
  unfold applyToggles
  split
  · exact .inl rfl
  · exact .inr rfl

/-- **What an act comes to.** -/
theorem effect (s : Session) (hs : s.courier.Sound) (a : Act) : Effect s a := by
  cases a with
  | load title plugins => exact .load title plugins
  | edit name e => exact .edit name e
  | setToggle toggle on => exact effect_setToggle s toggle on rfl rfl rfl
  | flipToggle toggle => exact effect_setToggle s toggle _ rfl rfl rfl
  | restoreToggles toggles => exact .restoreToggles toggles
  | applyToggles => exact .applyToggles
  | showCards => exact .showCards
  | setContentFilter value => exact .path (path_setContentFilter s value)
  | showConflicts plugin => exact .path (path_showConflicts s plugin)
  | search needle => exact .path (.single (.search s needle))
  | moveSelection rows => exact .path (path_aside s s.status s.log s.notice _ s.clock)
  | clampSelection => exact .path (path_aside s s.status s.log s.notice _ s.clock)
  | selectNextResult => exact .path (path_selectNextResult s)
  | refresh => exact .path (.single (.refresh s s.criteria))
  | refreshAndWait engine =>
    have hwait := waitForConflicts_eq (sound_refresh hs) engine
    refine .path ?_
    rw [perform, refreshAndWait, hwait, pickUpsOf, ← List.append_nil (pollPickUps _ _)]
    exact .head (.refresh s s.criteria) (path_pollConflicts s.refresh _)
  | answer engine => exact .path (.single (.answer s engine))
  | poll arrival => exact .path (path_pollConflicts s arrival)
  | wait engine =>
    refine .path ?_
    rw [perform, waitForConflicts_eq hs, pickUpsOf]
    exact path_pollConflicts s _
  | tick arrival =>
    refine .path ?_
    rw [perform, tick, pickUpsOf, ← List.append_nil (pollPickUps _ _)]
    exact .head (.aside s s.status s.log s.liveNotice s.selected s.clock []
      fun _ h => by cases h) (path_pollConflicts _ arrival)
  | note level text =>
    refine .path (.single (.aside s s.status (s.log.push ⟨level, text⟩) s.notice s.selected
      s.clock [.noted _ text] ?_))
    intro e he
    rw [List.mem_singleton.mp he]
    rfl
  | scrollUp lines => exact .path (path_aside s s.status _ s.notice s.selected s.clock)
  | scrollDown lines => exact .path (path_aside s s.status _ s.notice s.selected s.clock)
  | notify text level duration =>
    exact .path (path_aside s s.status s.log _ s.selected s.clock)
  | timePasses time => exact .path (path_aside s s.status s.log s.notice s.selected _)

theorem sound_perform {s : Session} (hs : s.courier.Sound) (a : Act) :
    (s.perform a).courier.Sound := by
  cases s.effect hs a with
  | path h => exact h.kept (fun hst => sound_step hst) hs
  | load title plugins => exact sound_refresh hs
  | edit name e => exact hs
  | restoreToggles toggles => exact hs
  | applyToggles =>
    rcases applyToggles_eq s with h | h <;> rw [perform, h]
    · exact sound_refresh hs
    · exact hs
  | showCards => exact hs
  | turn toggle on _ _ _ h =>
    rw [h]
    exact hs

end LoadOrder.Session
