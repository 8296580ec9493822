/-
  LoadOrder/Proofs/Session/Late.lean
  ==================================
  **An outcome of an earlier load order changes nothing in the present one.**

  A question bears the edition of the load order it was asked in (`askedEdition`), and
  every new load order is a new edition.  So an outcome is too late if the two differ
  when it is picked up.  What has to be shown is that they do differ whenever the
  question is older than the load order:

  * editions count load orders, and a question bears an edition that was there before
    (`Dated`), so the two can only be mixed up after `2 ^ 64` load orders;
  * the edition of a question stays on it until the next one is asked (`Since`).

  Both rest on what a step can do to the question that is out (`Onward`).
-/
import LoadOrder.Proofs.Session.Settled

namespace LoadOrder.Session

/-! ### What happens to the question that is out -/

/-- From one session to another of the same load order the question stays, or a new one
    is asked.  As long as it stays, there is no new conflict set before it has come
    back. -/
def Onward (s t : Session) : Prop :=
  t.edition = s.edition ∧
    ((t.courier.asked = s.courier.asked ∧ t.askedEdition = s.askedEdition ∧
        (t.courier.active ≠ none → s.courier.active ≠ none ∧ t.conflicts = s.conflicts)) ∨
      (s.courier.asked.length < t.courier.asked.length ∧ t.askedEdition = t.edition))

namespace Onward

variable {s t u : Session}

theorem of_same (hedition : t.edition = s.edition) (hasked : t.courier.asked = s.courier.asked)
    (hbears : t.askedEdition = s.askedEdition)
    (hactive : t.courier.active = s.courier.active) (hconf : t.conflicts = s.conflicts) :
    Onward s t :=
  ⟨hedition, .inl ⟨hasked, hbears, fun h => ⟨hactive ▸ h, hconf⟩⟩⟩

theorem of_idle (hedition : t.edition = s.edition) (hasked : t.courier.asked = s.courier.asked)
    (hbears : t.askedEdition = s.askedEdition) (hidle : t.courier.active = none) :
    Onward s t :=
  ⟨hedition, .inl ⟨hasked, hbears, fun h => absurd hidle h⟩⟩

theorem refl (s : Session) : Onward s s := of_same rfl rfl rfl rfl rfl

theorem trans (hst : Onward s t) (htu : Onward t u) : Onward s u := by
  obtain ⟨hedition, hst⟩ := hst
  obtain ⟨hedition', htu⟩ := htu
  refine ⟨hedition'.trans hedition, ?_⟩
  rcases htu with ⟨hasked', hbears', hkept'⟩ | ⟨hmore', hbears'⟩
  · rcases hst with ⟨hasked, hbears, hkept⟩ | ⟨hmore, hbears⟩
    · refine .inl ⟨hasked'.trans hasked, hbears'.trans hbears, fun hout => ?_⟩
      obtain ⟨hout', hconf'⟩ := hkept' hout
      obtain ⟨hout'', hconf⟩ := hkept hout'
      exact ⟨hout'', hconf'.trans hconf⟩
    · refine .inr ⟨?_, ?_⟩
      · rwa [hasked']
      · rw [hbears', hbears, hedition']
  · refine .inr ⟨?_, hbears'⟩
    rcases hst with ⟨hasked, -, -⟩ | ⟨hmore, -⟩
    · rwa [← hasked]
    · exact Nat.lt_trans hmore hmore'

end Onward

theorem onward_finishRefresh {s : Session} (hidle : s.courier.active = none) (names : Names) :
    Onward s (s.finishRefresh names) :=
  .of_idle rfl rfl rfl hidle

theorem onward_blame (s : Session) (o : Outcome) : Onward s (s.blame o) := by
  cases o <;> exact .of_same rfl rfl rfl rfl rfl

theorem onward_refresh {s : Session} (hs : s.courier.Sound) : Onward s s.refresh := by
  rcases s.refresh_cases with ⟨_, -, heq⟩ | ⟨hactive, -, heq⟩ | ⟨plugin, hactive, -, heq⟩ <;>
    rw [heq]
  · exact .of_same rfl rfl rfl rfl rfl
  · exact onward_finishRefresh hactive []
  · have hsend : (s.ask plugin).courier = _ := hs.send_of_free hactive plugin
    refine ⟨rfl, .inr ⟨?_, rfl⟩⟩
    rw [hsend]
    exact Nat.lt_succ_self _

theorem onward_handle {s : Session} (hs : s.courier.Sound) (hidle : s.courier.active = none)
    (o : Outcome) : Onward s (s.handle o) := by
  have hidle' : (s.taking o).courier.active = none := by rwa [taking_courier]
  have htaking : Onward s (s.taking o) :=
    .of_idle (take_edition _ o) (congrArg Courier.asked (taking_courier s o))
      (take_askedEdition _ o) hidle'
  rcases s.handle_cases o with ⟨-, heq⟩ | ⟨-, -, heq⟩ | ⟨-, -, heq⟩ <;> rw [heq]
  · exact Onward.trans (.of_same rfl rfl rfl rfl rfl) (onward_refresh (s := s.dropping o) hs)
  · refine (htaking.trans (.of_same rfl rfl rfl rfl rfl)).trans (onward_refresh ?_)
    rwa [taking_courier]
  · exact (htaking.trans (onward_finishRefresh hidle' _)).trans (onward_blame _ o)

theorem onward_step {s t : Session} {k : List PickUp} (hst : Step s k t)
    (hs : s.courier.Sound) : Onward s t := by
  cases hst with
  | aside => exact .of_same rfl rfl rfl rfl rfl
  | search => exact .of_same rfl rfl rfl rfl rfl
  | refresh criteria =>
    exact Onward.trans (.of_same rfl rfl rfl rfl rfl)
      (onward_refresh (s := { s with criteria := criteria }) hs)
  | answer engine =>
    obtain ⟨-, hasked, hactive⟩ := hs.arrive (.always engine)
    exact .of_same rfl hasked rfl hactive rfl
  | @pickUp _ o c hp =>
    obtain ⟨_, _, _, _, rfl⟩ := hs.poll_eq_some hp
    have hfreed : Onward s (s.withCourier s.courier.freed) := .of_idle rfl rfl rfl rfl
    exact hfreed.trans (onward_handle (.freed _) rfl o)

theorem onward_path {s t : Session} {k : List PickUp} (h : Path s k t)
    (hs : s.courier.Sound) : Onward s t :=
  (h.kept (P := fun u => u.courier.Sound ∧ Onward s u)
    (fun hst hu => ⟨sound_step hst hu.1, hu.2.trans (onward_step hst hu.1)⟩)
    ⟨hs, .refl s⟩).2

/-- Nothing but a new load order takes a session out of its edition. -/
theorem onward_perform {s : Session} (hs : s.courier.Sound) {a : Act} (ha : a.isLoad = false) :
    Onward s (s.perform a) := by
  cases s.effect hs a with
  | path h => exact onward_path h hs
  | load title plugins => cases ha
  | edit name e => exact .of_same rfl rfl rfl rfl rfl
  | restoreToggles toggles => exact .of_same rfl rfl rfl rfl rfl
  | applyToggles =>
    rcases applyToggles_eq s with h | h <;> rw [perform, h]
    · exact (onward_refresh hs).trans (.of_same rfl rfl rfl rfl rfl)
    · exact .of_same rfl rfl rfl rfl rfl
  | showCards => exact .of_same rfl rfl rfl rfl rfl
  | turn toggle on _ _ _ h =>
    rw [h]
    exact .of_same rfl rfl rfl rfl rfl

/-! ### Editions -/

/-- After a number of load orders the edition is that number, and the question that was
    asked last bears the edition of one of them. -/
structure Dated (s : Session) (loads : Nat) : Prop where
  edition : s.edition = UInt64.ofNat loads
  bears : ∃ asked ≤ loads, s.askedEdition = UInt64.ofNat asked

theorem Dated.onward {s t : Session} {loads : Nat} (h : s.Dated loads) (hst : Onward s t) :
    t.Dated loads := by
  obtain ⟨hedition, hquestion⟩ := hst
  refine ⟨hedition.trans h.edition, ?_⟩
  rcases hquestion with ⟨-, hbears, -⟩ | ⟨-, hbears⟩
  · obtain ⟨asked, hle, heq⟩ := h.bears
    exact ⟨asked, hle, hbears.trans heq⟩
  · exact ⟨loads, Nat.le_refl _, hbears.trans (hedition.trans h.edition)⟩

theorem Dated.load {s : Session} {loads : Nat} (hs : s.courier.Sound) (h : s.Dated loads)
    (title : Option String) (plugins : List Plugin) : (s.load title plugins).Dated (loads + 1) := by
  have hloaded : (s.loaded title plugins).Dated (loads + 1) := by
    obtain ⟨asked, hle, heq⟩ := h.bears
    refine ⟨?_, asked, Nat.le_succ_of_le hle, heq⟩
    show s.edition + 1 = UInt64.ofNat (loads + 1)
    rw [h.edition, UInt64.ofNat_add]
    rfl
  rw [load_eq]
  exact hloaded.onward (onward_refresh hs)

theorem dated_run {s : Session} {loads : Nat} (hs : s.courier.Sound) (h : s.Dated loads)
    (acts : List Act) : (s.run acts).Dated (loads + acts.countP Act.isLoad) := by
  induction acts generalizing s loads with
  | nil => exact h
  | cons a rest ih =>
    rw [run_cons, List.countP_cons]
    cases ha : a.isLoad with
    | true =>
      cases a with
      | load title plugins =>
        have hrest := ih (sound_perform hs (.load title plugins)) (h.load hs title plugins)
        rwa [if_pos rfl, Nat.add_comm (rest.countP _), ← Nat.add_assoc]
      | _ => cases ha
    | false =>
      rw [if_neg Bool.false_ne_true, Nat.add_zero]
      exact ih (sound_perform hs a) (h.onward (onward_perform hs ha))

/-! ### Since a question -/

/-- Since the session `asking`, either a new question was asked, or the last question is
    still that of `asking`, and there is no conflict set while it is out. -/
def Since (asking s : Session) : Prop :=
  asking.courier.asked.length < s.courier.asked.length ∨
    (s.courier.asked = asking.courier.asked ∧ s.askedEdition = asking.askedEdition ∧
      (s.courier.active ≠ none → s.conflicts = []))

theorem Since.onward {asking s t : Session} (h : asking.Since s) (hst : Onward s t) :
    asking.Since t := by
  obtain ⟨-, hquestion⟩ := hst
  rcases h with hmore | ⟨hasked, hbears, hconf⟩
  · refine .inl ?_
    rcases hquestion with ⟨hasked', -, -⟩ | ⟨hmore', -⟩
    · rwa [hasked']
    · exact Nat.lt_trans hmore hmore'
  · rcases hquestion with ⟨hasked', hbears', hkept⟩ | ⟨hmore', -⟩
    · refine .inr ⟨hasked'.trans hasked, hbears'.trans hbears, fun hout => ?_⟩
      obtain ⟨hout', hsame⟩ := hkept hout
      exact hsame.trans (hconf hout')
    · refine .inl ?_
      rwa [← hasked]

theorem Since.load {asking s : Session} (hs : s.courier.Sound) (title : Option String)
    (plugins : List Plugin)
    (h : asking.courier.asked.length < s.courier.asked.length ∨
      (s.courier.asked = asking.courier.asked ∧ s.askedEdition = asking.askedEdition)) :
    asking.Since (s.load title plugins) := by
  have hloaded : asking.Since (s.loaded title plugins) := by
    rcases h with hmore | ⟨hasked, hbears⟩
    · exact .inl hmore
    · exact .inr ⟨hasked, hbears, fun _ => rfl⟩
  rw [load_eq]
  exact hloaded.onward (onward_refresh hs)

theorem Since.perform {asking s : Session} (hs : s.courier.Sound) (h : asking.Since s)
    (a : Act) : asking.Since (s.perform a) := by
  cases ha : a.isLoad with
  | false => exact h.onward (onward_perform hs ha)
  | true =>
    cases a with
    | load title plugins =>
      refine .load hs title plugins ?_
      rcases h with hmore | ⟨hasked, hbears, -⟩
      · exact .inl hmore
      · exact .inr ⟨hasked, hbears⟩
    | _ => cases ha

theorem since_run {asking s : Session} (hs : s.courier.Sound) (h : asking.Since s)
    (acts : List Act) : asking.Since (s.run acts) :=
  (run_kept (P := fun t => t.courier.Sound ∧ asking.Since t)
    (fun _ a _ ht => ⟨sound_perform ht.1 a, ht.2.perform ht.1 a⟩) ⟨hs, h⟩).2

/-! ### An outcome that comes too late -/

/-- From `s` to `t` nothing came into the load order and no name into the conflict set,
    and a refresh was made for the present criteria: a pass, or a question about the
    present conflict plugin. -/
structure OnlyRefreshed (s t : Session) : Prop where
  plugins : t.plugins.map Plugin.unmarked = s.plugins.map Plugin.unmarked
  messages : t.totals.messages = s.totals.messages
  warnings : t.totals.warnings = s.totals.warnings
  errors : t.totals.errors = s.totals.errors
  dirtyPlugins : t.totals.dirtyPlugins = s.totals.dirtyPlugins
  conflicts : t.conflicts = []
  criteria : t.criteria = s.criteria
  refreshHeld : t.refreshHeld = false
  pass : s.criteria.conflictPlugin = none → t.courier.active = none ∧ t.UpToDate
  question : ∀ plugin, s.criteria.conflictPlugin = some plugin →
    t.courier.active = some plugin ∧ t.courier.asked = plugin :: s.courier.asked ∧
      t.askedEdition = t.edition

theorem OnlyRefreshed.of_eq {s r t : Session} (h : r.OnlyRefreshed t)
    (hplugins : r.plugins = s.plugins) (htotals : r.totals = s.totals)
    (hcriteria : r.criteria = s.criteria) (hasked : r.courier.asked = s.courier.asked) :
    s.OnlyRefreshed t := by
  obtain ⟨h1, h2, h3, h4, h5, h6, h7, h8, h9, h10⟩ := h
  rw [hplugins] at h1
  rw [htotals] at h2 h3 h4 h5
  rw [hcriteria] at h7 h9
  rw [hcriteria, hasked] at h10
  exact ⟨h1, h2, h3, h4, h5, h6, h7, h8, h9, h10⟩

theorem onlyRefreshed_refresh {s : Session} (hs : s.courier.Sound) (hb : s.Balanced)
    (hidle : s.courier.active = none) (hheld : s.refreshHeld = false)
    (hconf : s.conflicts = []) : s.OnlyRefreshed s.refresh := by
  rcases s.refresh_cases with ⟨_, hactive, -⟩ | ⟨-, hpresent, heq⟩ | ⟨plugin, -, hpresent, heq⟩
  · cases hidle.symm.trans hactive
  · rw [heq]
    exact
      { plugins := s.finishRefresh_unmarked []
        messages := rfl
        warnings := rfl
        errors := rfl
        dirtyPlugins := rfl
        conflicts := rfl
        criteria := rfl
        refreshHeld := hheld
        pass := fun _ => ⟨hidle, upToDate_finishRefresh hb []⟩
        question := fun plugin h => by
          rw [hpresent] at h
          cases h }
  · have hsend : (s.ask plugin).courier = _ := hs.send_of_free hidle plugin
    rw [heq]
    exact
      { plugins := rfl
        messages := rfl
        warnings := rfl
        errors := rfl
        dirtyPlugins := rfl
        conflicts := hconf
        criteria := rfl
        refreshHeld := hheld
        pass := fun h => by
          rw [hpresent] at h
          cases h
        question := fun other h => by
          obtain rfl : plugin = other := Option.some.inj (hpresent.symm.trans h)
          rw [hsend]
          exact ⟨rfl, rfl, rfl⟩ }

theorem onlyRefreshed_handle {s : Session} (hs : s.courier.Sound) (hb : s.Balanced)
    (hidle : s.courier.active = none) (hlate : s.askedEdition ≠ s.edition)
    (hconf : s.conflicts = []) (o : Outcome) : s.OnlyRefreshed (s.handle o) := by
  rw [handle_of_late hlate]
  refine (onlyRefreshed_refresh (s := s.dropping o) hs (hb.dropping o) hidle rfl hconf).of_eq
    ?_ ?_ ?_ ?_ <;> (cases s; rfl)

theorem dated_new (toggles : Toggles) (phrase : String) : (new toggles phrase).Dated 0 :=
  ⟨rfl, 0, Nat.le_refl 0, rfl⟩

theorem ofNat_ne_of_lt {m n : Nat} (h : m < n) (hn : n < UInt64.size) :
    UInt64.ofNat m ≠ UInt64.ofNat n := by
  intro heq
  have hval := congrArg UInt64.toNat heq
  rw [UInt64.toNat_ofNat_of_lt' (Nat.lt_trans h hn), UInt64.toNat_ofNat_of_lt' hn] at hval
  exact absurd hval (Nat.ne_of_lt h)

/-- If nothing was asked since a load order, the question that is out is too old for it,
    and there is no conflict set. -/
theorem late_of_asked_eq {asking s : Session} {loads : Nat} (hdated : asking.Dated loads)
    (hsince : asking.Since s) (hasked : s.courier.asked = asking.courier.asked)
    (hout : s.courier.active ≠ none) {loads' : Nat} (hdated' : s.Dated loads')
    (hlt : loads < loads') (hbound : loads' < UInt64.size) :
    s.askedEdition ≠ s.edition ∧ s.conflicts = [] := by
  rcases hsince with hmore | ⟨-, hbears, hconf⟩
  · rw [hasked] at hmore
    exact absurd hmore (Nat.lt_irrefl _)
  · obtain ⟨asked, hle, heq⟩ := hdated.bears
    refine ⟨?_, hconf hout⟩
    rw [hbears, heq, hdated'.edition]
    exact ofNat_ne_of_lt (Nat.lt_of_le_of_lt hle hlt) hbound

/-- **An outcome of an earlier load order changes nothing in the present one.**  A run
    has fewer than `2 ^ 64` load orders, and the latest question is one that was asked
    before one of them.  When its outcome is picked up, whatever it is and whatever was
    done since then, only marks change in the plugins, the totals stay, the conflict set
    is empty, and a refresh for the present criteria is made; and then the loops go
    on. -/
theorem late_run_new (toggles : Toggles) (phrase : String) (before after : List Act)
    (title : Option String) (plugins : List Plugin)
    (hloads : (before ++ .load title plugins :: after).countP Act.isLoad < UInt64.size) :
    let asking := (new toggles phrase).run before
    let s := (new toggles phrase).run (before ++ .load title plugins :: after)
    ∀ arrival o c, s.courier.asked = asking.courier.asked →
      s.courier.poll arrival = some (o, c) →
      let next := (s.withCourier c).handle o
      s.OnlyRefreshed next ∧
      s.pollConflicts arrival = next.pollConflicts arrival ∧
      ∀ engine, arrival = .always engine →
        s.waitForConflicts engine = next.waitForConflicts engine := by
  intro asking s arrival o c hasked hpoll next
  have hkept := balanced_run (sound_new toggles phrase) (balanced_new toggles phrase)
  have hdated := dated_run (sound_new toggles phrase) (dated_new toggles phrase)
  have hs : s = (asking.load title plugins).run after := run_append _ before _
  have hsince : asking.Since s := by
    have hload : asking.Since (asking.load title plugins) :=
      .load (hkept before).1 title plugins (.inr ⟨rfl, rfl⟩)
    rw [hs]
    exact since_run (sound_perform (hkept before).1 (.load title plugins)) hload after
  have hlt : 0 + before.countP Act.isLoad <
      0 + (before ++ .load title plugins :: after).countP Act.isLoad := by
    rw [List.countP_append, List.countP_cons_of_pos rfl]
    omega
  obtain ⟨hsound, hb⟩ : s.courier.Sound ∧ s.Balanced := hkept _
  obtain ⟨plugin, answer, hactive, -, hc⟩ := hsound.poll_eq_some hpoll
  have hout : s.courier.active ≠ none := by
    rw [hactive]
    exact Option.some_ne_none plugin
  -- the edition that the question bears was there before the load order
  obtain ⟨hlate, hconf⟩ :=
    late_of_asked_eq (hdated before) hsince hasked hout (hdated _) hlt (by omega)
  refine ⟨?_, pollConflicts_of_some hpoll, ?_⟩
  · have hbfreed : (s.withCourier c).Balanced := ⟨hb.counts, hb.shown, hb.trace⟩
    have hcourier : c.Sound ∧ c.active = none ∧ c.asked = s.courier.asked := by
      rw [hc]
      exact ⟨.freed _, rfl, rfl⟩
    obtain ⟨hfreed, hidle, hsame⟩ := hcourier
    exact (onlyRefreshed_handle hfreed hbfreed hidle hlate hconf o).of_eq rfl rfl rfl hsame
  · rintro engine rfl
    rw [waitForConflicts_eq hsound, pollConflicts_of_some hpoll, waitForConflicts_eq]
    exact sound_pickUp hsound hpoll

/-- Conflicts are asked for, a new load order comes and is searched, and then the engine
    answers with a warning about a plugin that is in the new load order too.  Taken over,
    it would replace an error; it is dropped. -/
theorem late_showConflicts_load_poll :
    let before : List Act := [.showConflicts (some "A.esp")]
    let after : List Act := [.search "b"]
    let s := (new {} defaultPhrase).run
      (before ++
        .load none [Plugin.ofData "B.esp" { messages := [{ severity := .error }] }] :: after)
    let o : Outcome := .completed "A.esp" (some warningReport)
    ((s.take o).totals.warnings = 1 ∧ (s.take o).totals.errors = 0) ∧
      ∃ c, s.courier.poll (.always Engine.warning) = some (o, c) ∧
        let next := (s.withCourier c).handle o
        s.OnlyRefreshed next ∧ next.totals.warnings = 0 ∧ next.totals.errors = 1 ∧
          next.conflicts = [] := by
  intro before after s o
  have hpoll : s.courier.poll (.always Engine.warning) = some (o, { asked := ["A.esp"] }) := by
    have hanswer : s.courier.poll (.always Engine.warning) =
        some (Outcome.ofAnswer "A.esp" (Engine.warning [] (.conflictsOf "A.esp")),
          { asked := ["A.esp"] }) := rfl
    rw [hanswer, Outcome.ofAnswer_warning]
  obtain ⟨honly, -, -⟩ := late_run_new {} defaultPhrase before after none
    [Plugin.ofData "B.esp" { messages := [{ severity := .error }] }] (by decide) _ _ _ rfl hpoll
  exact ⟨⟨rfl, rfl⟩, _, hpoll, honly, honly.warnings, honly.errors, honly.conflicts⟩

end LoadOrder.Session
