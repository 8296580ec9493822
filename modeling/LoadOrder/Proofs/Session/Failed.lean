/-
  LoadOrder/Proofs/Session/Failed.lean
  ====================================
  **A question that fails changes nothing but the view.**

  In whatever way a question fails, its outcome has no findings, so that dealing with
  it leaves the plugins as they were, marks aside, and the totals with them
  (`SameData`).  If no refresh is owed, what follows is one filter pass in which the
  plugin that was asked about is the only one that takes part in the conflict, and then
  nothing is out.  If one is owed, it is made, and it changes marks only.
-/
import LoadOrder.Proofs.Conflict.Failure
import LoadOrder.Proofs.Session.Reached

namespace LoadOrder.Session

variable {s t u : Session}

/-! ### Sessions with the same data -/

/-- The plugins differ in marks at most, and the totals are the same, the number of shown
    messages apart. -/
structure SameData (s t : Session) : Prop where
  plugins : t.plugins.map Plugin.unmarked = s.plugins.map Plugin.unmarked
  messages : t.totals.messages = s.totals.messages
  warnings : t.totals.warnings = s.totals.warnings
  errors : t.totals.errors = s.totals.errors
  dirtyPlugins : t.totals.dirtyPlugins = s.totals.dirtyPlugins

namespace SameData

theorem of_eq (hplugins : t.plugins = s.plugins) (htotals : t.totals = s.totals) :
    SameData s t := by
  constructor
  · rw [hplugins]
  all_goals rw [htotals]

theorem trans (hst : SameData s t) (htu : SameData t u) : SameData s u where
  plugins := htu.plugins.trans hst.plugins
  messages := htu.messages.trans hst.messages
  warnings := htu.warnings.trans hst.warnings
  errors := htu.errors.trans hst.errors
  dirtyPlugins := htu.dirtyPlugins.trans hst.dirtyPlugins

end SameData

theorem sameData_finishRefresh (s : Session) (names : Names) :
    SameData s (s.finishRefresh names) :=
  ⟨s.finishRefresh_unmarked names, rfl, rfl, rfl, rfl⟩

theorem sameData_refresh (s : Session) : SameData s s.refresh := by
  rcases s.refresh_cases with ⟨plugin, -, heq⟩ | ⟨-, -, heq⟩ | ⟨plugin, -, -, heq⟩ <;> rw [heq]
  · exact .of_eq rfl rfl
  · exact sameData_finishRefresh s []
  · exact .of_eq rfl rfl

/-! ### A failed outcome -/

theorem taking_failed_plugins (s : Session) (plugin text : String) :
    (s.taking (.failed plugin text)).plugins = s.plugins := rfl

theorem taking_failed_totals (s : Session) (plugin text : String) :
    (s.taking (.failed plugin text)).totals = s.totals := rfl

/-- Whatever follows a failed outcome, no data comes of it. -/
theorem sameData_handle_failed (s : Session) (plugin text : String) :
    SameData s (s.handle (.failed plugin text)) := by
  have htaking : SameData s (s.taking (.failed plugin text)) :=
    .of_eq (taking_failed_plugins s plugin text) (taking_failed_totals s plugin text)
  rcases s.handle_cases (.failed plugin text) with ⟨-, heq⟩ | ⟨-, -, heq⟩ | ⟨-, -, heq⟩ <;>
    rw [heq]
  · have hdropping : SameData s (s.dropping (.failed plugin text)) := .of_eq rfl rfl
    exact hdropping.trans (sameData_refresh _)
  · have hreleased : SameData s
        { s.taking (.failed plugin text) with refreshHeld := false } :=
      htaking.trans (.of_eq rfl rfl)
    exact hreleased.trans (sameData_refresh _)
  · have hpass := htaking.trans (sameData_finishRefresh _ (s.mergeOf (.failed plugin text)).names)
    exact hpass.trans (.of_eq rfl rfl)

theorem handle_failed_of_free (hlate : s.askedEdition = s.edition)
    (hheld : s.refreshHeld = false) (plugin text : String) :
    (s.handle (.failed plugin text)).progress = none ∧
      (s.handle (.failed plugin text)).conflicts = [plugin] := by
  rw [handle_of_free hlate hheld]
  exact ⟨rfl, rfl⟩

/-! ### Runs of a new session -/

/-- **A question that fails changes nothing but the view.**  A question about a plugin is
    out, in the present load order, and it fails, in any of the ways there are.  Then
    dealing with its outcome leaves the data of all plugins and the totals as they were;
    and if no refresh was owed, nothing is out afterwards, the header is clear and the
    conflict set holds that plugin alone.  One who waits for an engine gets to deal with
    the outcome. -/
theorem failed_run_new (toggles : Toggles) (phrase : String) (acts : List Act)
    (plugin : String) {answer : Answer} (hfails : answer.Fails) :
    let s := (new toggles phrase).run acts
    s.courier.active = some plugin → s.askedEdition = s.edition →
      (∀ engine, s.courier.mailbox = [] →
        engine s.courier.asked.tail (.conflictsOf plugin) = answer →
        ∃ c, s.courier.poll (.always engine) = some (Outcome.ofAnswer plugin answer, c)) ∧
      ∀ arrival c, s.courier.poll arrival = some (Outcome.ofAnswer plugin answer, c) →
        let next := (s.withCourier c).handle (Outcome.ofAnswer plugin answer)
        SameData s next ∧
        (s.refreshHeld = false →
          next.isBusy = false ∧ next.progress = none ∧ next.conflicts = [plugin] ∧
          s.pollConflicts arrival = next ∧
          ∀ engine, arrival = .always engine → s.waitForConflicts engine = next) := by
  intro s hactive hlate
  have hreached : s.Reached := reached_run_new toggles phrase acts
  refine ⟨fun engine hmail hanswer => ?_, ?_⟩
  · rw [← hanswer]
    exact hreached.sound.poll_always_of_working hactive hmail engine
  · intro arrival c hpoll next
    obtain ⟨text, htext⟩ := (Outcome.ofAnswer_failed_iff plugin answer).mpr hfails
    have hnext : next = (s.withCourier c).handle (.failed plugin text) := by rw [← htext]
    have hdata : SameData s (s.withCourier c) := .of_eq rfl rfl
    refine ⟨?_, fun hheld => ?_⟩
    · rw [hnext]
      exact hdata.trans (sameData_handle_failed _ plugin text)
    · obtain ⟨_, _, _, _, hc⟩ := hreached.sound.poll_eq_some hpoll
      have hcourier : next.courier = c :=
        handle_courier_of_free (s := s.withCourier c) hlate hheld _
      obtain ⟨hprogress, hconflicts⟩ :=
        handle_failed_of_free (s := s.withCourier c) hlate hheld plugin text
      rw [← hnext] at hprogress hconflicts
      have hpolled := pollConflicts_of_free hreached.sound hlate hheld hpoll
      refine ⟨?_, hprogress, hconflicts, hpolled, ?_⟩
      · rw [isBusy_eq_false_iff, hcourier, hc]
        rfl
      · rintro engine rfl
        rw [waitForConflicts_eq hreached.sound, hpolled]

/-- The engine has good data about the first plugin and bad data about another. -/
theorem failed_showConflicts_badMember :
    let acts : List Act :=
      [.load none [Plugin.ofData "A.esp" {}], .showConflicts (some "A.esp")]
    let raw := "\x7b\"A.esp\":\x7b\x7d,\"B.esp\":5\x7d"
    let s := (new {} defaultPhrase).run acts
    ∃ o c, s.courier.poll (.always fun _ _ => .reply raw) = some (o, c) ∧
      let next := (s.withCourier c).handle o
      SameData s next ∧ next.isBusy = false ∧ next.conflicts = ["A.esp"] := by
  intro acts raw s
  have hfails : (Answer.reply raw).Fails := by decide +kernel
  obtain ⟨hpicked, hall⟩ := failed_run_new {} defaultPhrase acts "A.esp" hfails rfl rfl
  obtain ⟨c, hpoll⟩ := hpicked (fun _ _ => .reply raw) rfl rfl
  obtain ⟨hdata, hfree⟩ := hall _ c hpoll
  obtain ⟨hidle, -, hconflicts, -, -⟩ := hfree rfl
  exact ⟨_, c, hpoll, hdata, hidle, hconflicts⟩

end LoadOrder.Session
