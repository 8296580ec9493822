/-
  LoadOrder/Session/Refresh.lean
  ==============================
  **Refreshing the view, with and without the engine.**

  Without a conflict plugin a refresh is one filter pass.  With one, the engine is
  asked first, and the pass follows when its answer has been picked up.  While a
  question is out a refresh is only remembered; it is made up for when the answer
  is there.  An answer to a question about an earlier load order is dropped, and
  the view is refreshed for the present one.

  Picking up answers is a loop, because an answer may lead to the next question,
  and the engine may have answered that one too.  What bounds it is the number of
  answers still to come, and one more while a refresh is owed (`work`): picking up
  an answer settles the debt or uses up the answer (`work_handle_lt`).
-/
import LoadOrder.Session.Basic

namespace LoadOrder.Session

/-! ### One pass -/

/-- Filters the load order with a conflict set, marks the messages of the shown
    plugins, and searches again. -/
def finishRefresh (s : Session) (names : Names) : Session :=
  let view := View.of s.criteria names s.plugins
  let passed : Session :=
    { s with
      conflicts := names
      view := view
      totals := s.totals.reconcile view.hiddenMessages
      plugins := View.changeAt view.shown s.criteria.markMessages s.plugins
      status := "Showing " ++ toString view.shown.length ++ " of " ++ toString s.plugins.length
        ++ " plugin(s)" }
  ((passed.clampSelection).tell
    (.passComplete view.shown.length view.hiddenPlugins view.hiddenMessages)).search s.needle

/-- What stands in the header while a question is out. -/
def progressText : String := "Checking if plugins have been loaded..."

def ask (s : Session) (plugin : String) : Session :=
  { s.tell (.queryStarted plugin) with
    askedEdition := s.edition
    courier := s.courier.send plugin
    progress := some progressText
    status := "Checking conflicts for " ++ plugin }

/-- Refreshes the view, or remembers to do so while a question is out. -/
def refresh (s : Session) : Session :=
  if s.isBusy then { s with refreshHeld := true }
  else
    match s.criteria.conflictPlugin with
    | none => s.finishRefresh []
    | some plugin => s.ask plugin

/-! ### An answer -/

/-- How long a notice about a failed check stays, in milliseconds. -/
def failureNoticeTime : Nat := 3000

def absorb (s : Session) (merge : Merge) : Session :=
  { s.tellAll merge.events with plugins := merge.plugins, totals := merge.totals }

/-- The merge that an outcome leads to. -/
def mergeOf (s : Session) : Outcome → Merge
  | .completed plugin report => Merge.run s.plugins s.totals plugin report
  | .failed plugin _ => Merge.run s.plugins s.totals plugin none

/-- Takes over the data of an outcome, and says what came of the question. -/
def take (s : Session) (o : Outcome) : Session :=
  let merge := s.mergeOf o
  match o with
  | .completed plugin report =>
    (s.absorb merge).note .info
      ("Conflict check for " ++ plugin ++ ": " ++ toString (report.getD []).length
        ++ " plugin(s) reported, " ++ toString merge.names.length ++ " shown")
  | .failed plugin text =>
    ((s.note .error ("Conflict check for " ++ plugin ++ " failed: " ++ text)).notify
      "Conflict check failed" .error failureNoticeTime).absorb merge

/-- The status after a failed check stays on the failure. -/
def blame (s : Session) : Outcome → Session
  | .completed _ _ => s
  | .failed _ text => { s with status := "Conflict check failed: " ++ text }

/-- Makes up for a refresh that was held. -/
def release (s : Session) : Session := { s with refreshHeld := false }.refresh

def noteDropped (s : Session) (o : Outcome) : Session :=
  s.note .warn ("Dropped conflict data for " ++ o.plugin ++ " from a previous load order")

def handle (s : Session) (o : Outcome) : Session :=
  let s := { s with progress := none }
  if s.askedEdition ≠ s.edition then (s.noteDropped o).release
  else if s.refreshHeld then (s.take o).release
  else ((s.take o).finishRefresh (s.mergeOf o).names).blame o

/-! ### What bounds the loop -/

/-- The answers to come, and one more while a refresh is owed. -/
def work (s : Session) : Nat :=
  s.courier.pending + if s.refreshHeld || s.askedEdition != s.edition then 1 else 0

def withCourier (s : Session) (c : Courier) : Session := { s with courier := c }

end LoadOrder.Session

namespace LoadOrder.Courier

theorem pending_deliver (c : Courier) (a : Answer) : (c.deliver a).pending = c.pending := by
  unfold deliver
  split
  · rfl
  · rename_i h
    simp only [pending, h, List.length_append, List.length_cons, List.length_nil]
    omega

theorem pending_arrive (c : Courier) (arrival : Arrival) :
    (c.arrive arrival).pending = c.pending := by
  unfold arrive
  split
  · split
    · exact pending_deliver _ _
    · rfl
  · rfl

theorem fetch_eq_some {c d : Courier} {o : Outcome} (h : c.fetch = some (o, d)) :
    d.pending + 1 = c.pending ∧ d.active = none := by
  unfold fetch at h
  split at h
  · cases h
  · rename_i hm
    obtain ⟨rfl, rfl⟩ := Prod.mk.inj (Option.some.inj h)
    simp only [pending, hm, List.length_cons, and_true]
    omega

/-- Picking up an outcome uses it up and sets the courier free. -/
theorem poll_eq_some {c d : Courier} {arrival : Arrival} {o : Outcome}
    (h : c.poll arrival = some (o, d)) : d.pending + 1 = c.pending ∧ d.active = none := by
  have := fetch_eq_some h
  rwa [pending_arrive] at this

theorem await_eq_some {c d : Courier} {engine : Engine} {o : Outcome}
    (h : c.await engine = some (o, d)) : d.pending + 1 = c.pending ∧ d.active = none := by
  unfold await at h
  split at h
  · exact poll_eq_some h
  · cases h

end LoadOrder.Courier

namespace LoadOrder.Session

/-- A refresh of a session that owes none either leaves the courier alone or settles
    the edition. -/
theorem work_release_le (s : Session) (h : s.courier.active = none) :
    s.release.work ≤ s.courier.pending + 1 := by
  unfold release refresh
  simp only [isBusy, Courier.isBusy, h, Option.isSome_none, Bool.false_eq_true, if_false]
  split
  · show (_ + if (false || s.askedEdition != s.edition) = true then 1 else 0) ≤ _
    show s.courier.pending + _ ≤ _
    split <;> omega
  · show ((s.courier.send _).pending
      + if (false || s.edition != s.edition) = true then 1 else 0) ≤ _
    simp only [Courier.send, Courier.isBusy, h, Option.isSome_none, Bool.false_eq_true, if_false,
      Courier.pending, List.length_append, List.length_cons, List.length_nil, bne_self_eq_false,
      Bool.or_self]
    omega

theorem work_finishRefresh (s : Session) (names : Names) (h : s.refreshHeld = false)
    (he : s.askedEdition = s.edition) : (s.finishRefresh names).work = s.courier.pending := by
  show s.courier.pending
    + (if (s.refreshHeld || s.askedEdition != s.edition) = true then 1 else 0) = _
  simp [h, he]

theorem take_courier (s : Session) (o : Outcome) : (s.take o).courier = s.courier := by
  cases o <;> rfl

theorem take_refreshHeld (s : Session) (o : Outcome) : (s.take o).refreshHeld = s.refreshHeld := by
  cases o <;> rfl

theorem take_edition (s : Session) (o : Outcome) : (s.take o).edition = s.edition := by
  cases o <;> rfl

theorem take_askedEdition (s : Session) (o : Outcome) :
    (s.take o).askedEdition = s.askedEdition := by
  cases o <;> rfl

theorem noteDropped_courier (s : Session) (o : Outcome) : (s.noteDropped o).courier = s.courier :=
  rfl

theorem work_blame (s : Session) (o : Outcome) : (s.blame o).work = s.work := by
  cases o <;> rfl

/-- Dealing with an outcome leaves less to do. -/
theorem work_handle_lt (s : Session) (c : Courier) (o : Outcome)
    (hp : c.pending + 1 = s.courier.pending) (ha : c.active = none) :
    ((s.withCourier c).handle o).work < s.work := by
  unfold handle withCourier
  simp only
  split
  · rename_i hne
    have := work_release_le (({ s with courier := c, progress := none } : Session).noteDropped o)
      ha
    have hw : s.work = s.courier.pending + 1 := by
      simp only [work, ne_eq] at *
      simp [hne]
    rw [noteDropped_courier] at this
    simp only at this
    omega
  · rename_i he
    simp only [ne_eq, Decidable.not_not] at he
    split
    · rename_i hh
      have := work_release_le ((({ s with courier := c, progress := none } : Session).take o))
        (by rw [take_courier]; exact ha)
      rw [take_courier] at this
      have hw : s.work = s.courier.pending + 1 := by simp [work, hh]
      simp only at this
      omega
    · rename_i hh
      rw [work_blame, work_finishRefresh _ _ (by rw [take_refreshHeld]; simpa using hh)
        (by rw [take_askedEdition, take_edition]; exact he), take_courier]
      simp only [work]
      omega

/-! ### The loops -/

/-- Picks up every outcome that is there, as long as there is one. -/
def pollConflicts (s : Session) (arrival : Courier.Arrival) : Session :=
  match _h : s.courier.poll arrival with
  | none => s
  | some (o, c) => ((s.withCourier c).handle o).pollConflicts arrival
termination_by s.work
decreasing_by exact work_handle_lt s c o (Courier.poll_eq_some _h).1 (Courier.poll_eq_some _h).2

/-- Waits until no question is out. -/
def waitForConflicts (s : Session) (engine : Engine) : Session :=
  match _h : s.courier.await engine with
  | none => s
  | some (o, c) => ((s.withCourier c).handle o).waitForConflicts engine
termination_by s.work
decreasing_by exact work_handle_lt s c o (Courier.await_eq_some _h).1 (Courier.await_eq_some _h).2

def refreshAndWait (s : Session) (engine : Engine) : Session := s.refresh.waitForConflicts engine

/-- The engine answers the question that is out. -/
def deliver (s : Session) (engine : Engine) : Session :=
  s.withCourier (s.courier.arrive (.always engine))

end LoadOrder.Session
