/-
  LoadOrder/Proofs/Session/Balance.lean
  =====================================
  **The totals of a session are those of its plugins, at any time.**

  A session never counts its plugins again after they were loaded; it moves the
  totals with every edit and every finding of the engine.  `Balanced` says that this
  comes to the same, that no more messages are said to be shown than there are, and
  that nothing was stopped at zero on the way: an event of the trace that reports a
  stop is about the number of shown messages only.

  Every step and every act keeps it, whatever an edit replaces, whatever the engine
  says and whenever it says it.
-/
import LoadOrder.Proofs.Session.Run

namespace LoadOrder.Session

/-- The totals count the plugins, and no count was ever stopped at zero. -/
structure Balanced (s : Session) : Prop where
  counts : s.totals.Counts s.plugins
  shown : s.totals.shownMessages ≤ s.totals.messages
  trace : ∀ e ∈ s.trace, e.isMiscount = false

theorem trace_append {s : Session} {events : List Event} (h : ∀ e ∈ events, e.isMiscount = false)
    (hs : ∀ e ∈ s.trace, e.isMiscount = false) : ∀ e ∈ events ++ s.trace, e.isMiscount = false := by
  intro e he
  rcases List.mem_append.mp he with he | he
  · exact h e he
  · exact hs e he

theorem trace_cons {s : Session} {event : Event} (h : event.isMiscount = false)
    (hs : ∀ e ∈ s.trace, e.isMiscount = false) :
    ∀ e ∈ [event] ++ s.trace, e.isMiscount = false :=
  trace_append (fun e he => by rw [List.mem_singleton.mp he]; exact h) hs

namespace Balanced

variable {s : Session}

/-! ### The parts of a refresh -/

theorem search (h : s.Balanced) (needle : String) : (s.search needle).Balanced :=
  ⟨h.counts.congr (Plugin.map_bare_of_map_unmarked (s.search_unmarked needle)), h.shown, h.trace⟩

theorem showCards (h : s.Balanced) : s.showCards.Balanced :=
  ⟨h.counts.congr s.showCards_bare, h.shown, h.trace⟩

theorem finishRefresh (h : s.Balanced) (names : Names) : (s.finishRefresh names).Balanced where
  counts := by
    have hcounts : (s.finishRefresh names).totals.Counts s.plugins :=
      ⟨h.counts.messages, h.counts.warnings, h.counts.errors, h.counts.dirtyPlugins⟩
    exact hcounts.congr (Plugin.map_bare_of_map_unmarked (s.finishRefresh_unmarked names))
  shown := Nat.sub_le _ _
  trace := trace_cons rfl h.trace

theorem ask (h : s.Balanced) (plugin : String) : (s.ask plugin).Balanced :=
  ⟨h.counts, h.shown, trace_cons rfl h.trace⟩

theorem refresh (h : s.Balanced) : s.refresh.Balanced := by
  rcases s.refresh_cases with ⟨_, -, heq⟩ | ⟨-, -, heq⟩ | ⟨_, -, -, heq⟩ <;> rw [heq]
  · exact ⟨h.counts, h.shown, h.trace⟩
  · exact h.finishRefresh []
  · exact h.ask _

theorem loaded (h : s.Balanced) (title : Option String) (plugins : List Plugin) :
    (s.loaded title plugins).Balanced := by
  have hcounts : (Totals.ofPlugins plugins).Counts (s.loaded title plugins).plugins := by
    refine (Totals.counts_ofPlugins plugins).congr ?_
    exact showCards_bare { s with plugins := plugins, criteria := _ }
  exact ⟨hcounts, Nat.le_refl _, trace_cons rfl h.trace⟩

/-! ### Data that is taken over -/

theorem absorb (h : s.Balanced) {m : Merge} (hm : m.Balanced) : (s.absorb m).Balanced :=
  ⟨hm.counts, hm.shown, trace_append (fun e he => hm.events e (List.mem_reverse.mp he)) h.trace⟩

theorem editPlugin (h : s.Balanced) (name : String) (e : Edit) :
    (s.editPlugin name e).Balanced := by
  have hm : Merge.Balanced { plugins := s.plugins, totals := s.totals } :=
    ⟨h.counts, h.shown, fun _ hev => by cases hev⟩
  exact h.absorb (hm.editNamed name e)

theorem mergeOf (h : s.Balanced) (o : Outcome) : (s.mergeOf o).Balanced := by
  cases o with
  | completed plugin report => exact .run h.counts h.shown plugin report
  | failed plugin text => exact .run h.counts h.shown plugin none

theorem taking (h : s.Balanced) (o : Outcome) : (s.taking o).Balanced := by
  have hs : Balanced { s with progress := none } := ⟨h.counts, h.shown, h.trace⟩
  have hm := hs.mergeOf o
  cases o with
  | completed plugin report =>
    have habsorbed := hs.absorb hm
    exact ⟨habsorbed.counts, habsorbed.shown, trace_cons rfl habsorbed.trace⟩
  | failed plugin text =>
    refine absorb ?_ hm
    exact ⟨hs.counts, hs.shown, trace_cons rfl hs.trace⟩

theorem dropping (h : s.Balanced) (o : Outcome) : (s.dropping o).Balanced :=
  ⟨h.counts, h.shown, trace_cons rfl h.trace⟩

theorem blame (h : s.Balanced) (o : Outcome) : (s.blame o).Balanced := by
  cases o <;> exact ⟨h.counts, h.shown, h.trace⟩

theorem handle (h : s.Balanced) (o : Outcome) : (s.handle o).Balanced := by
  have htaken := h.taking o
  rcases s.handle_cases o with ⟨-, heq⟩ | ⟨-, -, heq⟩ | ⟨-, -, heq⟩ <;> rw [heq]
  · exact (h.dropping o).refresh
  · exact Balanced.refresh ⟨htaken.counts, htaken.shown, htaken.trace⟩
  · exact (htaken.finishRefresh _).blame o

/-! ### Steps and acts -/

theorem step {t : Session} {k : List PickUp} (hst : Step s k t) (h : s.Balanced) :
    t.Balanced := by
  cases hst with
  | aside status log notice selected clock events hevents =>
    exact ⟨h.counts, h.shown, trace_append hevents h.trace⟩
  | search needle => exact h.search needle
  | refresh criteria => exact Balanced.refresh ⟨h.counts, h.shown, h.trace⟩
  | answer engine => exact ⟨h.counts, h.shown, h.trace⟩
  | @pickUp _ o c _ =>
    have hc : (s.withCourier c).Balanced := ⟨h.counts, h.shown, h.trace⟩
    exact hc.handle o

theorem perform (hs : s.courier.Sound) (h : s.Balanced) (a : Act) : (s.perform a).Balanced := by
  cases s.effect hs a with
  | path hpath => exact hpath.kept (fun hst => step hst) h
  | load title plugins => exact (h.loaded title plugins).refresh
  | edit name e => exact h.editPlugin name e
  | restoreToggles toggles => exact ⟨h.counts, h.shown, h.trace⟩
  | applyToggles =>
    rcases applyToggles_eq s with heq | heq <;> rw [Session.perform, heq]
    · exact h.refresh.showCards
    · exact h.showCards
  | showCards => exact h.showCards
  | turn toggle on _ _ _ heq =>
    rw [heq]
    exact showCards ⟨h.counts, h.shown, trace_cons rfl h.trace⟩

end Balanced

/-! ### Runs of a new session -/

theorem sound_new (toggles : Toggles) (phrase : String) :
    (new toggles phrase).courier.Sound := .free []

theorem balanced_new (toggles : Toggles) (phrase : String) : (new toggles phrase).Balanced :=
  ⟨⟨rfl, rfl, rfl, rfl⟩, Nat.le_refl _, fun _ he => by cases he⟩

/-- The courier stays sound and the totals stay right, whatever happens. -/
theorem balanced_run {s : Session} (hs : s.courier.Sound) (h : s.Balanced) (acts : List Act) :
    (s.run acts).courier.Sound ∧ (s.run acts).Balanced :=
  run_kept (P := fun t => t.courier.Sound ∧ t.Balanced)
    (fun _ a _ ht => ⟨sound_perform ht.1 a, ht.2.perform ht.1 a⟩) ⟨hs, h⟩

/-- **The totals are right at any time.**  Whatever has happened to a session, with
    a question out or not, its totals are those of its plugins; no more messages are
    said to be shown than there are; and if a total was ever stopped at zero, it was
    the number of shown messages. -/
theorem totals_run_new (toggles : Toggles) (phrase : String) (acts : List Act) :
    let s := (new toggles phrase).run acts
    s.totals.messages = (Totals.ofPlugins s.plugins).messages ∧
    s.totals.warnings = (Totals.ofPlugins s.plugins).warnings ∧
    s.totals.errors = (Totals.ofPlugins s.plugins).errors ∧
    s.totals.dirtyPlugins = (Totals.ofPlugins s.plugins).dirtyPlugins ∧
    s.totals.shownMessages ≤ s.totals.messages ∧
    ∀ counter value add sub, Event.counterClamped counter value add sub ∈ s.trace →
      counter = "filtered_total_messages" := by
  intro s
  obtain ⟨-, h⟩ := balanced_run (sound_new toggles phrase) (balanced_new toggles phrase) acts
  refine ⟨h.counts.messages, h.counts.warnings, h.counts.errors, h.counts.dirtyPlugins,
    h.shown, ?_⟩
  intro counter value add sub hevent
  have hcount := h.trace _ hevent
  simpa only [Event.isMiscount, bne_eq_false_iff_eq] using hcount

end LoadOrder.Session
