/-
  LoadOrder/Proofs/Session/Again.lean
  ===================================
  **A refresh that is made again changes nothing.**

  A refresh with its outcome is a merge and a filter pass, and the second one starts
  from what the first has written.  The marks that a pass writes depend on nothing that
  it writes, so they may be taken away before it (`Criteria.marked_unpassed`).  What a
  pass has written is thereby lost in the next one, and the merge in between does not
  meet it and has been made already (`Criteria.pass_editAll_pass`).

  The rest of the session is read off the plugins: the view and the totals, and what
  depends on the view.
-/
import LoadOrder.Proofs.Session.Reached
import LoadOrder.Proofs.Session.Settled

namespace LoadOrder

/-! ### A pass over the plugins -/

namespace Criteria

variable (c : Criteria)

/-- The plugin at an index with the marks of a filter pass, whose view shows some
    indices, and of the search that follows it. -/
def marked (needle : String) (shown : List Nat) (i : Nat) (p : Plugin) : Plugin :=
  let q := if shown.contains i then c.markMessages p else p
  { q with
    card := { q.card with found := needle != "" && (shown.contains i && q.isVisible needle) } }

/-- The plugin at an index without the marks that a filter pass writes, whose view shows
    some indices. -/
def unpassed (shown : List Nat) (i : Nat) (p : Plugin) : Plugin :=
  if shown.contains i then p.unmarked else { p with card := { p.card with found := false } }

theorem apart_unpassed (shown : List Nat) (i : Nat) : Plugin.Apart (unpassed shown i) := by
  cases hi : shown.contains i with
  | true =>
    have heq : unpassed shown i = Plugin.unmarked := by
      funext p
      simp only [unpassed, hi, if_true]
    rw [heq]
    exact Plugin.apart_unmarked
  | false =>
    have heq : unpassed shown i = fun p => { p with card := { p.card with found := false } } := by
      funext p
      simp only [unpassed, hi, Bool.false_eq_true, if_false]
    rw [heq]
    exact Plugin.apart_card fun card => { card with found := false }

/-- The marks that a pass writes do not depend on those that it writes over. -/
theorem marked_unpassed (needle : String) (shown : List Nat) (i : Nat) (p : Plugin) :
    c.marked needle shown i (unpassed shown i p) = c.marked needle shown i p := by
  cases hi : shown.contains i with
  | true =>
    have hmark : c.markMessages p.unmarked =
        { c.markMessages p with card := { p.card with found := false } } := by
      simp only [markMessages, Plugin.unmarked, List.map_map]
      rfl
    simp only [marked, unpassed, hi, if_true, hmark]
    rfl
  | false =>
    simp only [marked, unpassed, hi, Bool.false_eq_true, if_false, Bool.false_and, Bool.and_false]

theorem unpassed_marked (needle : String) (shown : List Nat) (i : Nat) (p : Plugin) :
    unpassed shown i (c.marked needle shown i p) = unpassed shown i p := by
  cases hi : shown.contains i with
  | true =>
    have hmark := c.markMessages_unmarked p
    simp only [marked, unpassed, hi, if_true]
    exact hmark
  | false => simp only [marked, unpassed, hi, Bool.false_eq_true, if_false]

theorem marked_unmarked (needle : String) (shown : List Nat) (i : Nat) (p : Plugin) :
    (c.marked needle shown i p).unmarked = p.unmarked := by
  cases hi : shown.contains i with
  | true =>
    have hmark := c.markMessages_unmarked p
    simp only [marked, hi, if_true]
    exact hmark
  | false =>
    simp only [marked, hi, Bool.false_eq_true, if_false]
    rfl

/-- The plugins after a filter pass and the search that follows it. -/
def pass (names : Names) (needle : String) (l : List Plugin) : List Plugin :=
  l.mapIdx (c.marked needle (View.of c names l).shown)

theorem pass_unmarked (names : Names) (needle : String) (l : List Plugin) :
    (c.pass names needle l).map Plugin.unmarked = l.map Plugin.unmarked :=
  View.map_mapIdx_of_eq _ (fun i p => c.marked_unmarked needle _ i p) l

theorem editAll_pass_unmarked (names : Names) (needle : String) (report : Report)
    (l : List Plugin) :
    (Merge.editAll report (c.pass names needle (Merge.editAll report l))).map Plugin.unmarked =
      (Merge.editAll report l).map Plugin.unmarked := by
  rw [Merge.editAll_map Plugin.apart_unmarked, pass_unmarked,
    ← Merge.editAll_map Plugin.apart_unmarked, Merge.editAll_editAll]

/-- **A merge and a pass that are made again change nothing.** -/
theorem pass_editAll_pass (names : Names) (needle : String) (report : Report)
    (l : List Plugin) :
    c.pass names needle (Merge.editAll report (c.pass names needle (Merge.editAll report l))) =
      c.pass names needle (Merge.editAll report l) := by
  have hview := View.of_congr c names
    (Plugin.map_bare_of_map_unmarked (c.editAll_pass_unmarked names needle report l))
  have hmarked : ∀ (shown : List Nat) (k : List Plugin),
      (k.mapIdx (unpassed shown)).mapIdx (c.marked needle shown) =
        k.mapIdx (c.marked needle shown) := by
    intro shown k
    rw [List.mapIdx_mapIdx]
    congr 1
    funext i p
    exact c.marked_unpassed needle shown i p
  have hunpassed : ∀ (shown : List Nat) (k : List Plugin),
      (k.mapIdx (c.marked needle shown)).mapIdx (unpassed shown) =
        k.mapIdx (unpassed shown) := by
    intro shown k
    rw [List.mapIdx_mapIdx]
    congr 1
    funext i p
    exact c.unpassed_marked needle shown i p
  rw [pass, hview]
  -- both passes have this view
  generalize hshown : (View.of c names (Merge.editAll report l)).shown = shown
  have hpass : c.pass names needle (Merge.editAll report l) =
      (Merge.editAll report l).mapIdx (c.marked needle shown) := by
    rw [pass, hshown]
  have hunmet : ∀ k : List Plugin, (Merge.editAll report k).mapIdx (unpassed shown) =
      Merge.editAll report (k.mapIdx (unpassed shown)) :=
    Merge.editAll_mapIdx (apart_unpassed shown) report
  rw [hpass, ← hmarked, hunmet, hunpassed, ← hunmet, Merge.editAll_editAll, hmarked]

end Criteria

namespace Session

variable {s t u : Session}

/-! ### A refresh with its outcome -/

theorem finishRefresh_plugins (s : Session) (names : Names) :
    (s.finishRefresh names).plugins = s.criteria.pass names s.needle s.plugins :=
  List.mapIdx_mapIdx

/-- The selection in a view of some length. -/
def clamped (length selected : Nat) : Nat :=
  if length = 0 then 0 else if length ≤ selected then length - 1 else selected

theorem clamped_clamped (length selected : Nat) :
    clamped length (clamped length selected) = clamped length selected := by
  unfold clamped
  split
  · rfl
  · split
    · split <;> omega
    · rfl

/-- What a refresh with its outcome makes of a session, but for what is told about it:
    the names and the findings are those of the outcome, and the status says something
    about the number of shown plugins and of all. -/
structure Renewed (names : Names) (report : Report) (status : Nat → Nat → String)
    (s t : Session) : Prop where
  title : t.title = s.title
  plugins : t.plugins = s.criteria.pass names s.needle (Merge.editAll report s.plugins)
  totals : t.totals = (Totals.ofPlugins t.plugins).reconcile t.view.hiddenMessages
  criteria : t.criteria = s.criteria
  conflicts : t.conflicts = names
  view : t.view = View.of s.criteria names (Merge.editAll report s.plugins)
  needle : t.needle = s.needle
  progress : t.progress = none
  status : t.status = status t.view.shown.length t.plugins.length
  selected : t.selected = clamped t.view.shown.length s.selected
  courier : t.courier = { s.courier with asked := t.courier.asked }
  refreshHeld : t.refreshHeld = s.refreshHeld
  edition : t.edition = s.edition
  askedEdition : t.askedEdition =
    if s.criteria.conflictPlugin.isSome then s.edition else s.askedEdition
  clock : t.clock = s.clock

/-- **The second of two refreshes with the same outcome changes nothing.** -/
theorem Renewed.again {names : Names} {report : Report} {status : Nat → Nat → String}
    (hst : Renewed names report status s t) (htu : Renewed names report status t u) :
    u = { t with
      log := u.log, notice := u.notice, trace := u.trace
      courier := { t.courier with asked := u.courier.asked } } := by
  have hplugins : u.plugins = t.plugins := by
    rw [htu.plugins, hst.criteria, hst.needle, hst.plugins, Criteria.pass_editAll_pass]
  have hview : u.view = t.view := by
    rw [htu.view, hst.view, hst.criteria, hst.plugins]
    exact View.of_congr _ _
      (Plugin.map_bare_of_map_unmarked (s.criteria.editAll_pass_unmarked names _ report _))
  have htotals : u.totals = t.totals := by rw [htu.totals, hst.totals, hplugins, hview]
  have hconflicts : u.conflicts = t.conflicts := htu.conflicts.trans hst.conflicts.symm
  have hprogress : u.progress = t.progress := htu.progress.trans hst.progress.symm
  have hstatus : u.status = t.status := by rw [htu.status, hst.status, hplugins, hview]
  have hselected : u.selected = t.selected := by
    rw [htu.selected, hview, hst.selected, clamped_clamped]
  have hasked : u.askedEdition = t.askedEdition := by
    rw [htu.askedEdition, hst.askedEdition, hst.criteria, hst.edition]
    split <;> rfl
  cases u
  cases t
  simp only [Session.mk.injEq]
  exact ⟨htu.title, hplugins, htotals, htu.criteria, hconflicts, hview, htu.needle, hprogress,
    hstatus, trivial, trivial, hselected, htu.courier, htu.refreshHeld, htu.edition, hasked,
    htu.clock, trivial⟩

/-- The status after a pass that shows some plugins of all. -/
def showing (shown all : Nat) : String :=
  "Showing " ++ toString shown ++ " of " ++ toString all ++ " plugin(s)"

/-- The status after the pass of an outcome. -/
def statusOf : Outcome → Nat → Nat → String
  | .completed _ _ => showing
  | .failed _ text => fun _ _ => "Conflict check failed: " ++ text

theorem finishRefresh_totals (hb : s.Balanced) (names : Names) :
    (s.finishRefresh names).totals =
      (Totals.ofPlugins (s.finishRefresh names).plugins).reconcile
        (s.finishRefresh names).view.hiddenMessages :=
  (upToDate_finishRefresh hb names).totals_eq (hb.finishRefresh names)

theorem finishRefresh_status (s : Session) (names : Names) :
    (s.finishRefresh names).status =
      showing (s.finishRefresh names).view.shown.length
        (s.finishRefresh names).plugins.length := by
  rw [finishRefresh_plugins, Criteria.pass, List.length_mapIdx]
  rfl

/-- The session whose question about a plugin has been asked and has come back. -/
def returned (s : Session) (plugin : String) : Session :=
  (s.ask plugin).withCourier { asked := plugin :: s.courier.asked }

theorem renewed_finishRefresh (hb : s.Balanced) (hprogress : s.progress = none)
    (hconf : s.criteria.conflictPlugin = none) : Renewed [] [] showing s (s.finishRefresh []) where
  title := rfl
  plugins := finishRefresh_plugins s []
  totals := finishRefresh_totals hb []
  criteria := rfl
  conflicts := rfl
  view := rfl
  needle := rfl
  progress := hprogress
  status := finishRefresh_status s []
  selected := rfl
  courier := rfl
  refreshHeld := rfl
  edition := rfl
  askedEdition := by
    rw [hconf]
    rfl
  clock := rfl

theorem renewed_taking (hs : s.courier.Sound) (hb : s.Balanced) (hidle : s.courier.active = none)
    {plugin : String} (hconf : s.criteria.conflictPlugin = some plugin) (o : Outcome)
    (names : Names) :
    Renewed names o.findings (statusOf o) s
      ((((s.returned plugin).taking o).finishRefresh names).blame o) := by
  have hreturned : (s.returned plugin).Balanced :=
    ⟨(hb.ask plugin).counts, (hb.ask plugin).shown, (hb.ask plugin).trace⟩
  have htaking := hreturned.taking o
  have hplugins : ((s.returned plugin).taking o).plugins = Merge.editAll o.findings s.plugins :=
    taking_plugins (s.returned plugin) o
  have hcriteria : ((s.returned plugin).taking o).criteria = s.criteria := taking_criteria _ o
  obtain ⟨htitle, hneedle, hprogress, hselected, hheld, hedition, hasked, hclock⟩ :=
    taking_rest (s.returned plugin) o
  have hcourier := taking_courier (s.returned plugin) o
  generalize (s.returned plugin).taking o = r at *
  change r.needle = s.needle at hneedle
  change r.selected = s.selected at hselected
  have hfree := hs.eq_of_free hidle
  have hpass : Renewed names o.findings showing s (r.finishRefresh names) :=
    { title := htitle
      plugins := by rw [finishRefresh_plugins, hcriteria, hneedle, hplugins]
      totals := finishRefresh_totals htaking names
      criteria := hcriteria
      conflicts := rfl
      view := by
        rw [← hplugins, ← hcriteria]
        rfl
      needle := hneedle
      progress := hprogress
      status := finishRefresh_status r names
      selected := by
        rw [← hselected]
        rfl
      courier := by
        rw [finishRefresh_courier, hcourier, hfree]
        rfl
      refreshHeld := hheld
      edition := hedition
      askedEdition := by
        rw [hconf]
        exact hasked
      clock := hclock }
  -- after a failure only the status is another one
  cases o with
  | completed other report => exact hpass
  | failed other text =>
    exact { hpass with status := rfl }

theorem refreshAndWait_of_none (h : s.Reached) (hidle : s.courier.active = none)
    (hconf : s.criteria.conflictPlugin = none) (engine : Engine) :
    s.refreshAndWait engine = s.finishRefresh [] := by
  have hrefresh := refresh_of_none hidle hconf
  rw [refreshAndWait, waitForConflicts_eq h.refresh.sound, hrefresh]
  exact pollConflicts_of_none (poll_of_idle h.sound hidle _)

theorem refreshAndWait_of_some (h : s.Reached) (hidle : s.courier.active = none)
    {plugin : String} (hconf : s.criteria.conflictPlugin = some plugin) (engine : Engine) :
    let o := Outcome.ofAnswer plugin (engine s.courier.asked (.conflictsOf plugin))
    let t := s.returned plugin
    s.refreshAndWait engine = ((t.taking o).finishRefresh (t.mergeOf o).names).blame o := by
  intro o t
  have hrefresh := refresh_of_some hidle hconf
  have hask : (s.ask plugin).courier.Sound := h.sound.send plugin
  have hsend : (s.ask plugin).courier = _ := h.sound.send_of_free hidle plugin
  have hactive : (s.ask plugin).courier.active = some plugin := by rw [hsend]
  have hmail : (s.ask plugin).courier.mailbox = [] := by rw [hsend]
  obtain ⟨c, hpoll⟩ := hask.poll_always_of_working hactive hmail engine
  have hout : Outcome.ofAnswer plugin
      (engine (s.ask plugin).courier.asked.tail (.conflictsOf plugin)) = o := by
    rw [hsend]
    rfl
  rw [hout] at hpoll
  obtain ⟨_, _, _, _, hc⟩ := hask.poll_eq_some hpoll
  have hreturned : (s.ask plugin).withCourier c = s.returned plugin := by
    rw [hc, Courier.freed, hsend]
    rfl
  rw [refreshAndWait, waitForConflicts_eq h.refresh.sound, hrefresh,
    pollConflicts_of_free hask rfl (h.resting.held hidle) hpoll, hreturned]
  exact handle_of_free (s := s.returned plugin) rfl (h.resting.held hidle) o

theorem renewed_refreshAndWait_of_none (h : s.Reached) (hidle : s.courier.active = none)
    (hconf : s.criteria.conflictPlugin = none) (engine : Engine) :
    Renewed [] [] showing s (s.refreshAndWait engine) := by
  rw [refreshAndWait_of_none h hidle hconf]
  exact renewed_finishRefresh h.balanced (h.resting.progress_eq_none hidle) hconf

theorem renewed_refreshAndWait_of_some (h : s.Reached) (hidle : s.courier.active = none)
    {plugin : String} (hconf : s.criteria.conflictPlugin = some plugin) {engine : Engine}
    {o : Outcome}
    (ho : Outcome.ofAnswer plugin (engine s.courier.asked (.conflictsOf plugin)) = o) :
    Renewed (s.mergeOf o).names o.findings (statusOf o) s (s.refreshAndWait engine) := by
  have hnames : ((s.returned plugin).mergeOf o).names = (s.mergeOf o).names :=
    mergeOf_names_congr _ _ o
  rw [refreshAndWait_of_some h hidle hconf, ho, hnames]
  exact renewed_taking h.sound h.balanced hidle hconf o _

theorem upToDate_refreshAndWait (h : s.Reached) (hidle : s.courier.active = none)
    (engine : Engine) : (s.refreshAndWait engine).UpToDate := by
  cases hconf : s.criteria.conflictPlugin with
  | none =>
    rw [refreshAndWait_of_none h hidle hconf]
    exact upToDate_finishRefresh h.balanced []
  | some plugin =>
    have hask := h.balanced.ask plugin
    have hreturned : (s.returned plugin).Balanced := ⟨hask.counts, hask.shown, hask.trace⟩
    rw [refreshAndWait_of_some h hidle hconf]
    exact (upToDate_finishRefresh (hreturned.taking _) _).blame _

/-! ### Runs of a new session -/

/-- **A refresh that is made again changes nothing.**  No question is out, and what comes
    of a question about the conflict plugin, if there is one, is always the same.  Then
    a refresh brings the view up to date, and two lead to the session to which one leads,
    in everything but what is told: the log, the notice, the trace, and the list of what
    was asked. -/
theorem refreshAndWait_run_new (toggles : Toggles) (phrase : String) (acts : List Act)
    (engine : Engine) :
    let s := (new toggles phrase).run acts
    let once := s.refreshAndWait engine
    let twice := once.refreshAndWait engine
    s.isBusy = false →
      (∀ plugin, s.criteria.conflictPlugin = some plugin → ∀ asked asked',
        Outcome.ofAnswer plugin (engine asked (.conflictsOf plugin)) =
          Outcome.ofAnswer plugin (engine asked' (.conflictsOf plugin))) →
      once.isBusy = false ∧ once.UpToDate ∧
      twice = { once with
        log := twice.log, notice := twice.notice, trace := twice.trace
        courier := { once.courier with asked := twice.courier.asked } } := by
  intro s once twice hbusy hfixed
  have hreached : s.Reached := reached_run_new toggles phrase acts
  have hidle : s.courier.active = none := isBusy_eq_false_iff.mp hbusy
  have hreached' : once.Reached := hreached.refresh.waitForConflicts engine
  have hbusy' : once.isBusy = false := isBusy_waitForConflicts hreached.refresh.sound engine
  have hidle' : once.courier.active = none := isBusy_eq_false_iff.mp hbusy'
  refine ⟨hbusy', upToDate_refreshAndWait hreached hidle engine, ?_⟩
  cases hconf : s.criteria.conflictPlugin with
  | none =>
    have hst : Renewed [] [] showing s once :=
      renewed_refreshAndWait_of_none hreached hidle hconf engine
    have hconf' : once.criteria.conflictPlugin = none := by
      rw [hst.criteria]
      exact hconf
    exact hst.again (renewed_refreshAndWait_of_none hreached' hidle' hconf' engine)
  | some plugin =>
    obtain ⟨o, ho⟩ : ∃ o, ∀ asked,
        Outcome.ofAnswer plugin (engine asked (.conflictsOf plugin)) = o :=
      ⟨_, fun asked => hfixed plugin hconf asked []⟩
    have hst : Renewed (s.mergeOf o).names o.findings (statusOf o) s once :=
      renewed_refreshAndWait_of_some hreached hidle hconf (ho _)
    have hconf' : once.criteria.conflictPlugin = some plugin := by
      rw [hst.criteria]
      exact hconf
    -- the engine has been asked once more by now, and says the same
    have htu : Renewed (once.mergeOf o).names o.findings (statusOf o) once twice :=
      renewed_refreshAndWait_of_some hreached' hidle' hconf' (ho _)
    rw [mergeOf_names_congr once s o] at htu
    exact hst.again htu

/-- A question has failed, and the engine reports something when it is asked again.  Its
    findings are merged in by the first refresh and once more by the second. -/
theorem refreshAndWait_failed_warning :
    let before : List Act :=
      [.load none [Plugin.ofData "A.esp" {}, Plugin.ofData "B.esp" {}],
       .showConflicts (some "A.esp")]
    let acts := before ++ [.wait fun _ _ => .breakdown none]
    let s := (new {} defaultPhrase).run acts
    let once := s.refreshAndWait Engine.warning
    let twice := once.refreshAndWait Engine.warning
    s.criteria.conflictPlugin = some "A.esp" ∧ s.totals.warnings = 0 ∧
      once.isBusy = false ∧ once.UpToDate ∧ once.totals.warnings = 1 ∧
      once.courier.asked.length = 2 ∧ twice.courier.asked.length = 3 ∧
      twice = { once with
        log := twice.log, notice := twice.notice, trace := twice.trace
        courier := { once.courier with asked := twice.courier.asked } } := by
  intro before acts s once twice
  have hreached := reached_run_new {} defaultPhrase before
  have hidle : s.isBusy = false := isBusy_waitForConflicts hreached.sound _
  have hconf : s.criteria.conflictPlugin = some "A.esp" ∧ s.totals.warnings = 0 := by
    unfold s acts before
    decide +kernel
  have honce : once.totals.warnings = 1 ∧ once.courier.asked.length = 2 := by
    unfold once s acts before
    decide +kernel
  have htwice : twice.courier.asked.length = 3 := by
    unfold twice once s acts before
    decide +kernel
  obtain ⟨hidle', hcurrent, hsame⟩ :=
    refreshAndWait_run_new {} defaultPhrase acts Engine.warning hidle fun _ _ _ _ => rfl
  exact ⟨hconf.1, hconf.2, hidle', hcurrent, honce.1, honce.2, htwice, hsame⟩

end Session

end LoadOrder
