/-
  LoadOrder/Proofs/Session/Settled.lean
  =====================================
  **A session that waits for nothing shows what it should.**

  While a question is out the view lags behind: a change of the criteria is only
  remembered.  The claim of the program is that this is always made up for, however
  changes, new load orders and answers follow upon each other.  So when no question is
  out, no refresh is owed, the view is the one a filter pass would give now
  (`UpToDate`), and the conflict set comes from a question about the present conflict
  plugin (`ConflictsFrom`).

  The invariant (`Settled`) has to speak of the time in between as well: a question
  that is out is either about the present conflict plugin in the present load order,
  or a refresh is owed.
-/
import LoadOrder.Proofs.Session.Balance

namespace LoadOrder

/-- The plugin with an empty card. -/
def Plugin.uncarded (p : Plugin) : Plugin := { p with card := {} }

theorem Plugin.map_bare_of_map_uncarded {l l' : List Plugin}
    (h : l.map uncarded = l'.map uncarded) : l.map bare = l'.map bare := by
  have hbare : ∀ k : List Plugin, k.map bare = (k.map uncarded).map bare := by
    intro k
    rw [List.map_map]
    rfl
  rw [hbare l, hbare l', h]

theorem Criteria.showsMessage_set_displayOnly (c : Criteria) (m : Message) {toggle : Toggle}
    (h : toggle.isDisplayOnly = true) (on : Bool) :
    ({ c with toggles := c.toggles.set toggle on } : Criteria).showsMessage m =
      c.showsMessage m := by
  cases toggle <;> first | rfl | cases h

namespace Session

/-! ### A view that is up to date -/

/-- The view, the number of shown messages and the hidden marks are what a filter pass
    makes of the plugins, the criteria and the conflict set. -/
structure UpToDate (s : Session) : Prop where
  view : s.view = View.of s.criteria s.conflicts s.plugins
  shownMessages : s.totals.shownMessages = s.totals.messages - s.view.hiddenMessages
  hidden_le : s.view.hiddenMessages ≤ s.totals.messages
  marks : ∀ p ∈ s.shownPlugins, ∀ m ∈ p.messages, m.hidden = !s.criteria.showsMessage m

theorem mem_shownPlugins {s : Session} {p : Plugin} :
    p ∈ s.shownPlugins ↔ ∃ i ∈ s.view.shown, s.plugins[i]? = some p := by
  simp only [shownPlugins, View.plugins, List.mem_filterMap]

theorem search_uncarded (s : Session) (needle : String) :
    (s.search needle).plugins.map Plugin.uncarded = s.plugins.map Plugin.uncarded := by
  apply View.map_mapIdx_of_eq
  intro i p
  rfl

theorem showCards_uncarded (s : Session) :
    s.showCards.plugins.map Plugin.uncarded = s.plugins.map Plugin.uncarded := by
  unfold showCards
  rw [List.map_map]
  rfl

/-- A view is up to date whatever stands on the cards, and whatever else is not in it. -/
theorem UpToDate.congr {s t : Session} (h : s.UpToDate) (hview : t.view = s.view)
    (hcriteria : t.criteria = s.criteria) (hconf : t.conflicts = s.conflicts)
    (htotals : t.totals = s.totals)
    (hcards : t.plugins.map Plugin.uncarded = s.plugins.map Plugin.uncarded) : t.UpToDate where
  view := by
    rw [hview, hcriteria, hconf, View.of_congr _ _ (Plugin.map_bare_of_map_uncarded hcards)]
    exact h.view
  shownMessages := by
    rw [hview, htotals]
    exact h.shownMessages
  hidden_le := by
    rw [hview, htotals]
    exact h.hidden_le
  marks := by
    intro p hp m hm
    obtain ⟨i, hi, hat⟩ := mem_shownPlugins.mp hp
    have heq : (t.plugins.map Plugin.uncarded)[i]? = (s.plugins.map Plugin.uncarded)[i]? := by
      rw [hcards]
    rw [List.getElem?_map, List.getElem?_map, hat] at heq
    cases hq : s.plugins[i]? with
    | none =>
      rw [hq] at heq
      cases heq
    | some q =>
      rw [hq] at heq
      have hcard : p.uncarded = q.uncarded := Option.some.inj heq
      have hmessages : p.uncarded.messages = q.uncarded.messages := by rw [hcard]
      change m ∈ p.uncarded.messages at hm
      rw [hmessages] at hm
      rw [hview] at hi
      rw [hcriteria]
      exact h.marks q (mem_shownPlugins.mpr ⟨i, hi, hq⟩) m hm

theorem UpToDate.turned {s : Session} (h : s.UpToDate) {toggle : Toggle}
    (hcard : toggle.isDisplayOnly = true) (on : Bool) : (s.turned toggle on).UpToDate where
  view := h.view.trans (View.of_set_displayOnly _ _ _ hcard on).symm
  shownMessages := h.shownMessages
  hidden_le := h.hidden_le
  marks := by
    intro p hp m hm
    rw [h.marks p hp m hm]
    exact congrArg _ (Criteria.showsMessage_set_displayOnly _ m hcard on).symm

/-- A filter pass marks the messages of the shown plugins as the filters say. -/
theorem marks_finishRefresh (s : Session) (names : Names) :
    ∀ p ∈ (s.finishRefresh names).shownPlugins, ∀ m ∈ p.messages,
      m.hidden = !s.criteria.showsMessage m := by
  intro p hp m hm
  obtain ⟨i, hi, hat⟩ := mem_shownPlugins.mp hp
  have hshown : (View.of s.criteria names s.plugins).shown.contains i = true :=
    List.contains_iff_mem.mpr hi
  simp only [finishRefresh, Session.search, Session.tell, clampSelection, View.changeAt,
    List.getElem?_mapIdx, Option.map_eq_some_iff] at hat
  obtain ⟨_, ⟨q, _, rfl⟩, rfl⟩ := hat
  simp only [hshown, if_true, Criteria.markMessages] at hm
  obtain ⟨n, _, rfl⟩ := List.mem_map.mp hm
  rfl

/-- **A filter pass brings the view up to date.** -/
theorem upToDate_finishRefresh {s : Session} (h : s.Balanced) (names : Names) :
    (s.finishRefresh names).UpToDate where
  view := (View.of_congr _ _
    (Plugin.map_bare_of_map_unmarked (s.finishRefresh_unmarked names))).symm
  shownMessages := rfl
  hidden_le := by
    show (View.of s.criteria names s.plugins).hiddenMessages ≤ s.totals.messages
    rw [h.counts.messages]
    exact View.of_hiddenMessages_le _ _ _
  marks := marks_finishRefresh s names

/-- The totals of a view that is up to date can be counted from the plugins. -/
theorem UpToDate.totals_eq {s : Session} (h : s.UpToDate) (hb : s.Balanced) :
    s.totals = (Totals.ofPlugins s.plugins).reconcile s.view.hiddenMessages := by
  obtain ⟨hmessages, hwarnings, herrors, hdirty⟩ := hb.counts
  have hshown := h.shownMessages
  rw [Totals.reconcile, ← hmessages, ← hwarnings, ← herrors, ← hdirty, ← hshown]

theorem UpToDate.blame {s : Session} (h : s.UpToDate) (o : Outcome) : (s.blame o).UpToDate := by
  cases o with
  | completed plugin report => exact h
  | failed plugin text => exact h.congr rfl rfl rfl rfl rfl

/-! ### The invariant -/

/-- Where the conflict set comes from, after some outcomes were picked up: without a
    conflict plugin it is empty, and with one it is what the latest outcome has led to,
    which is about that plugin and was not dropped. -/
def ConflictsFrom (s : Session) (picked : List PickUp) : Prop :=
  match s.criteria.conflictPlugin with
  | none => s.conflicts = []
  | some plugin =>
    ∃ p answer, picked.head? = some p ∧ p.outcome = Outcome.ofAnswer plugin answer ∧
      p.session.askedEdition = p.session.edition ∧
      s.conflicts = (p.session.mergeOf p.outcome).names

/-- The invariant of everyday use: what holds when no question is out, and what a
    question that is out is about unless a refresh is owed. -/
structure Settled (s : Session) (picked : List PickUp) : Prop where
  sound : s.courier.Sound
  balanced : s.Balanced
  asked : s.courier.asked = s.courier.active.toList ++ picked.map fun p => p.outcome.plugin
  held : s.courier.active = none → s.refreshHeld = false
  upToDate : s.courier.active = none → s.UpToDate
  conflicts : s.courier.active = none → s.ConflictsFrom picked
  inFlight : ∀ plugin, s.courier.active = some plugin → s.refreshHeld = false →
    s.askedEdition = s.edition ∧ s.criteria.conflictPlugin = some plugin

/-- A pass restores the invariant if its conflict set comes from where it should. -/
theorem settled_finishRefresh {s : Session} {names : Names} {picked : List PickUp}
    (hs : s.courier.Sound) (hb : s.Balanced) (hactive : s.courier.active = none)
    (hasked : s.courier.asked = picked.map fun p => p.outcome.plugin)
    (hheld : s.refreshHeld = false) (hfrom : (s.finishRefresh names).ConflictsFrom picked) :
    (s.finishRefresh names).Settled picked where
  sound := hs
  balanced := hb.finishRefresh names
  asked := by
    rw [finishRefresh_courier, hactive]
    exact hasked
  held := fun _ => hheld
  upToDate := fun _ => upToDate_finishRefresh hb names
  conflicts := fun _ => hfrom
  inFlight := by
    intro plugin h
    rw [finishRefresh_courier, hactive] at h
    cases h

theorem settled_ask {s : Session} {plugin : String} {picked : List PickUp}
    (hs : s.courier.Sound) (hb : s.Balanced) (hactive : s.courier.active = none)
    (hasked : s.courier.asked = picked.map fun p => p.outcome.plugin)
    (hconf : s.criteria.conflictPlugin = some plugin) : (s.ask plugin).Settled picked := by
  have hsend : (s.ask plugin).courier = _ := hs.send_of_free hactive plugin
  have hout : (s.ask plugin).courier.active ≠ none := by
    rw [hsend]
    exact Option.some_ne_none plugin
  exact
    { sound := hs.send plugin
      balanced := hb.ask plugin
      asked := by
        rw [hsend, hasked]
        rfl
      held := fun h => absurd h hout
      upToDate := fun h => absurd h hout
      conflicts := fun h => absurd h hout
      inFlight := by
        intro other h _
        rw [hsend] at h
        exact ⟨rfl, hconf.trans h⟩ }

/-- **A refresh restores the invariant,** whatever the criteria, the load order and the
    view are. -/
theorem settled_refresh {s : Session} {picked : List PickUp} (hs : s.courier.Sound)
    (hb : s.Balanced)
    (hasked : s.courier.asked = s.courier.active.toList ++ picked.map fun p => p.outcome.plugin)
    (hheld : s.courier.active = none → s.refreshHeld = false) : s.refresh.Settled picked := by
  rcases s.refresh_cases with ⟨plugin, hactive, heq⟩ | ⟨hactive, hconf, heq⟩ |
    ⟨plugin, hactive, hconf, heq⟩ <;> rw [heq]
  · -- a refresh is owed now, so nothing is promised about the question
    have hout : s.courier.active ≠ none := by
      rw [hactive]
      exact Option.some_ne_none plugin
    exact
      { sound := hs
        balanced := ⟨hb.counts, hb.shown, hb.trace⟩
        asked := hasked
        held := fun h => absurd h hout
        upToDate := fun h => absurd h hout
        conflicts := fun h => absurd h hout
        inFlight := fun _ _ h => by cases h }
  · rw [hactive] at hasked
    refine settled_finishRefresh hs hb hactive hasked (hheld hactive) ?_
    rw [ConflictsFrom, finishRefresh_criteria, hconf]
    rfl
  · rw [hactive] at hasked
    exact settled_ask hs hb hactive hasked hconf

namespace Settled

variable {s t : Session} {k picked : List PickUp}

theorem blame (h : s.Settled picked) (o : Outcome) : (s.blame o).Settled picked := by
  cases o with
  | completed plugin report => exact h
  | failed plugin text =>
    exact
      ⟨h.sound, h.balanced.blame (.failed plugin text), h.asked, h.held,
        fun hn => (h.upToDate hn).blame (.failed plugin text), h.conflicts, h.inFlight⟩

/-- Dealing with an outcome restores the invariant.  If no refresh is owed, the outcome
    has to be about the present conflict plugin, because its pass is the last word. -/
theorem settled_handle {s : Session} {o : Outcome} {picked : List PickUp}
    (hs : s.courier.Sound) (hb : s.Balanced) (hactive : s.courier.active = none)
    (hasked : s.courier.asked = (⟨s, o⟩ :: picked).map fun p => p.outcome.plugin)
    (hpresent : s.refreshHeld = false → ∃ plugin answer,
      s.criteria.conflictPlugin = some plugin ∧ o = Outcome.ofAnswer plugin answer) :
    (s.handle o).Settled (⟨s, o⟩ :: picked) := by
  have htaken := hb.taking o
  rcases s.handle_cases o with ⟨-, heq⟩ | ⟨-, -, heq⟩ | ⟨hlate, hheld, heq⟩ <;> rw [heq]
  · refine settled_refresh hs (hb.dropping o) ?_ fun _ => rfl
    rw [dropping_courier, hactive]
    exact hasked
  · refine settled_refresh ?_ ⟨htaken.counts, htaken.shown, htaken.trace⟩ ?_ fun _ => rfl
    · rwa [taking_courier]
    · rw [taking_courier, hactive]
      exact hasked
  · -- nothing follows this pass, so its conflict set has to be the right one
    obtain ⟨plugin, answer, hconf, ho⟩ := hpresent hheld
    refine (settled_finishRefresh ?_ htaken ?_ ?_ ?_ ?_).blame o
    · rwa [taking_courier]
    · rwa [taking_courier]
    · rwa [taking_courier]
    · rwa [taking_refreshHeld]
    · rw [ConflictsFrom, finishRefresh_criteria, taking_criteria, hconf]
      exact ⟨_, answer, rfl, ho, hlate, rfl⟩

theorem pickUp (h : s.Settled picked) {arrival : Courier.Arrival} {o : Outcome} {c : Courier}
    (hp : s.courier.poll arrival = some (o, c)) :
    ((s.withCourier c).handle o).Settled (⟨s.withCourier c, o⟩ :: picked) := by
  obtain ⟨plugin, answer, hactive, ho, rfl⟩ := h.sound.poll_eq_some hp
  refine settled_handle (.freed _) ⟨h.balanced.counts, h.balanced.shown, h.balanced.trace⟩
    rfl ?_ fun hheld => ⟨plugin, answer, (h.inFlight plugin hactive hheld).2, ho⟩
  have hasked := h.asked
  rw [hactive] at hasked
  rw [List.map_cons, ho, Outcome.plugin_ofAnswer]
  exact hasked

theorem step (hst : Step s k t) (h : s.Settled picked) : t.Settled (k ++ picked) := by
  cases hst with
  | aside status log notice selected clock events hevents =>
    exact
      { sound := h.sound
        balanced := h.balanced.step (.aside s status log notice selected clock events hevents)
        asked := h.asked
        held := h.held
        upToDate := fun hn => (h.upToDate hn).congr rfl rfl rfl rfl rfl
        conflicts := h.conflicts
        inFlight := h.inFlight }
  | search needle =>
    exact ⟨h.sound, h.balanced.search needle, h.asked, h.held,
      fun hn => (h.upToDate hn).congr rfl rfl rfl rfl (s.search_uncarded needle), h.conflicts,
      h.inFlight⟩
  | refresh criteria =>
    exact settled_refresh h.sound ⟨h.balanced.counts, h.balanced.shown, h.balanced.trace⟩
      h.asked h.held
  | answer engine =>
    obtain ⟨hsound, hasked, hactive⟩ := h.sound.arrive (.always engine)
    have hsame : (s.deliver engine).courier.active = s.courier.active := hactive
    exact
      { sound := hsound
        balanced := h.balanced.step (.answer s engine)
        asked := by
          rw [hsame]
          exact hasked.trans h.asked
        held := fun hn => h.held (hsame ▸ hn)
        upToDate := fun hn => (h.upToDate (hsame ▸ hn)).congr rfl rfl rfl rfl rfl
        conflicts := fun hn => h.conflicts (hsame ▸ hn)
        inFlight := fun plugin hp => h.inFlight plugin (hsame ▸ hp) }
  | pickUp hp => exact h.pickUp hp

theorem turned (h : s.Settled picked) {toggle : Toggle} (hcard : toggle.isDisplayOnly = true)
    (on : Bool) : (s.turned toggle on).showCards.Settled picked where
  sound := h.sound
  balanced :=
    Balanced.showCards ⟨h.balanced.counts, h.balanced.shown, trace_cons rfl h.balanced.trace⟩
  asked := h.asked
  held := h.held
  upToDate := fun hn =>
    ((h.upToDate hn).turned hcard on).congr rfl rfl rfl rfl (showCards_uncarded _)
  conflicts := h.conflicts
  inFlight := h.inFlight

theorem load (h : s.Settled picked) (title : Option String) (plugins : List Plugin) :
    (s.load title plugins).Settled picked := by
  rw [load_eq]
  exact settled_refresh h.sound (h.balanced.loaded title plugins) h.asked h.held

theorem perform (h : s.Settled picked) {a : Act} (ha : a.isEveryday = true) :
    (s.perform a).Settled (s.pickUpsOf a ++ picked) := by
  cases s.effect h.sound a with
  | path hpath => exact hpath.induct (fun hst hs => hs.step hst) h
  | load title plugins => exact h.load title plugins
  | edit name e => cases ha
  | restoreToggles toggles => cases ha
  | applyToggles => cases ha
  | showCards => cases ha
  | turn toggle on hcard _ hnone heq =>
    rw [heq, hnone]
    exact h.turned hcard on

end Settled

/-! ### Runs of a new session -/

theorem settled_new (toggles : Toggles) (phrase : String) : (new toggles phrase).Settled [] where
  sound := sound_new toggles phrase
  balanced := balanced_new toggles phrase
  asked := rfl
  held := fun _ => rfl
  upToDate := fun _ => ⟨rfl, rfl, Nat.le_refl _, fun _ hp => by cases hp⟩
  conflicts := fun _ => rfl
  inFlight := fun _ h => by cases h

theorem settled_run {s : Session} {picked : List PickUp} (h : s.Settled picked) {acts : List Act}
    (hacts : ∀ a ∈ acts, a.isEveryday = true) : (s.run acts).Settled (s.pickUps acts ++ picked) :=
  run_induct (Q := Settled) (fun _ _ a ha hs => hs.perform (hacts a ha)) h

theorem mergeOf_names_ne_nil (s : Session) (o : Outcome) : (s.mergeOf o).names ≠ [] := by
  cases o <;> exact Merge.run_names_ne_nil _ _ _ _

theorem ConflictsFrom.eq_nil_iff {s : Session} {picked : List PickUp}
    (h : s.ConflictsFrom picked) : s.conflicts = [] ↔ s.criteria.conflictPlugin = none := by
  unfold ConflictsFrom at h
  cases hconf : s.criteria.conflictPlugin with
  | none =>
    rw [hconf] at h
    exact ⟨fun _ => rfl, fun _ => h⟩
  | some plugin =>
    rw [hconf] at h
    obtain ⟨p, answer, -, ho, -, hnames⟩ := h
    constructor
    · intro hnil
      rw [hnames] at hnil
      exact absurd hnil (mergeOf_names_ne_nil p.session p.outcome)
    · intro hnone
      cases hnone

/-- **A session that waits for nothing shows what it should.**  In everyday use,
    whatever is done in whatever order and whenever the engine answers, this holds when
    no question is out: no refresh is owed; the view is what a filter pass would give
    now; so are the number of shown messages and the hidden marks of the shown plugins;
    and the conflict set is empty without a conflict plugin, and with one it is what was
    made of the latest outcome, which belongs to a question about that very plugin. -/
theorem settled_run_new (toggles : Toggles) (phrase : String) (acts : List Act)
    (hacts : ∀ a ∈ acts, a.isEveryday = true) :
    let start := new toggles phrase
    let s := start.run acts
    s.isBusy = false →
      s.refreshHeld = false ∧
      s.view = View.of s.criteria s.conflicts s.plugins ∧
      s.totals.shownMessages = s.totals.messages - s.view.hiddenMessages ∧
      s.view.hiddenMessages ≤ s.totals.messages ∧
      (∀ p ∈ s.shownPlugins, ∀ m ∈ p.messages, m.hidden = !s.criteria.showsMessage m) ∧
      (s.conflicts = [] ↔ s.criteria.conflictPlugin = none) ∧
      s.courier.asked = (start.pickUps acts).map (fun p => p.outcome.plugin) ∧
      ∀ plugin, s.criteria.conflictPlugin = some plugin →
        ∃ p answer, (start.pickUps acts).head? = some p ∧
          p.outcome = Outcome.ofAnswer plugin answer ∧
          p.session.askedEdition = p.session.edition ∧
          s.conflicts = (p.session.mergeOf p.outcome).names := by
  intro start s hidle
  have h : s.Settled (start.pickUps acts ++ []) := settled_run (settled_new toggles phrase) hacts
  rw [List.append_nil] at h
  have hactive : s.courier.active = none := isBusy_eq_false_iff.mp hidle
  have hasked := h.asked
  rw [hactive] at hasked
  have hview := h.upToDate hactive
  have hfrom := h.conflicts hactive
  refine ⟨h.held hactive, hview.view, hview.shownMessages, hview.hidden_le, hview.marks,
    hfrom.eq_nil_iff, hasked, ?_⟩
  intro plugin hconf
  rw [ConflictsFrom, hconf] at hfrom
  exact hfrom

/-- Conflicts are asked for, a search goes on meanwhile, and the question fails. -/
theorem settled_showConflicts_wait :
    let acts : List Act :=
      [.load none [Plugin.ofData "A.esp" {}], .showConflicts (some "A.esp"), .search "a",
       .wait Engine.absent]
    let s := (new {} defaultPhrase).run acts
    (∀ a ∈ acts, a.isEveryday = true) ∧ s.isBusy = false ∧ s.refreshHeld = false ∧
      s.view = View.of s.criteria s.conflicts s.plugins ∧ s.conflicts ≠ [] := by
  intro acts s
  have hacts : ∀ a ∈ acts, a.isEveryday = true := by decide
  have hsound : ((new {} defaultPhrase).run (acts.take 3)).courier.Sound :=
    (balanced_run (sound_new _ _) (balanced_new _ _) _).1
  have hidle : s.isBusy = false := isBusy_waitForConflicts hsound Engine.absent
  obtain ⟨hheld, hview, -, -, -, hempty, -, -⟩ :=
    settled_run_new {} defaultPhrase acts hacts hidle
  have hconf : (((new {} defaultPhrase).run (acts.take 3)).waitForConflicts
      Engine.absent).criteria.conflictPlugin = some "A.esp" := by
    rw [waitForConflicts_eq hsound, pollConflicts_of_some rfl, pollConflicts_of_none rfl]
    rfl
  refine ⟨hacts, hidle, hheld, hview, fun hnil => ?_⟩
  cases (hempty.mp hnil).symm.trans hconf

end Session

end LoadOrder
