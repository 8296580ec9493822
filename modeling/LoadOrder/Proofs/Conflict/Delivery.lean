/-
  LoadOrder/Proofs/Conflict/Delivery.lean
  =======================================
  **Every question that a courier takes comes back, once and as it was asked.**

  Whoever owns a courier asks, looks and waits; meanwhile workers come to an end,
  in whatever order.  Both sides are moves of one `Service`, which keeps beside the
  courier what a witness would write down: the questions that were taken, the
  answers that workers got, and the outcomes that were handed over.

  These books agree after every run (`Service.Faithful`), and so nothing is lost,
  handed over twice or mixed up (`Service.deliveries_run`).
-/
import LoadOrder.Proofs.Conflict.Courier

namespace LoadOrder

namespace Courier

theorem start_snd (c : Courier) (plugin : String) : (c.start plugin).2 = c.send plugin := by
  by_cases h : c.isBusy = true
  · rw [start, if_pos h, send_of_isBusy h]
  · rw [start, if_neg h]

theorem start_fst (c : Courier) (plugin : String) : (c.start plugin).1 = !c.isBusy := by
  by_cases h : c.isBusy = true
  · rw [start, if_pos h, h]
    rfl
  · rw [start, if_neg h, Bool.eq_false_iff.mpr h]
    rfl

/-- The worker at this place comes to an end with an answer. -/
def finish (c : Courier) (worker : Nat) (answer : Answer) : Courier :=
  match c.workers[worker]? with
  | none => c
  | some plugin =>
    { c with
      workers := c.workers.eraseIdx worker
      mailbox := c.mailbox ++ [Outcome.ofAnswer plugin answer] }

/-- The answers that come in while somebody waits. -/
def awaited (c : Courier) (engine : Engine) : List Answer :=
  match c.mailbox, c.workers with
  | [], plugin :: _ => [engine (c.asked.drop c.workers.length) (.conflictsOf plugin)]
  | _, _ => []

end Courier

/-- What can happen around a courier: its owner asks, looks or waits, or a worker
    comes to an end. -/
inductive Move where
  | start (plugin : String)
  | finish (worker : Nat) (answer : Answer)
  | poll
  | wait (engine : Engine)

/-- A courier with the questions that it took, the answers that its workers got and
    the outcomes that it handed over, each the earliest first. -/
structure Service where
  courier : Courier := {}
  taken : List String := []
  answers : List Answer := []
  handed : List Outcome := []

namespace Service

/-- Writes down what was fetched, if anything was. -/
def hand (v : Service) : Option (Outcome × Courier) → Service
  | none => v
  | some (outcome, c) => { v with courier := c, handed := v.handed ++ [outcome] }

def move (v : Service) : Move → Service
  | .start plugin =>
    match v.courier.start plugin with
    | (false, c) => { v with courier := c }
    | (true, c) => { v with courier := c, taken := v.taken ++ [plugin] }
  | .finish worker answer =>
    if worker < v.courier.workers.length then
      { v with courier := v.courier.finish worker answer, answers := v.answers ++ [answer] }
    else v
  | .poll => v.hand (v.courier.poll .never)
  | .wait engine =>
    { v with answers := v.answers ++ v.courier.awaited engine }.hand (v.courier.await engine)

def run (v : Service) (moves : List Move) : Service := moves.foldl move v

/-! ### The books agree -/

/-- The outcomes of questions with their answers. -/
def outcomes (done : List (String × Answer)) : List Outcome :=
  done.map fun d => Outcome.ofAnswer d.1 d.2

/-- The situations of a courier whose earlier questions came back with these answers
    and were handed over. -/
inductive Faithful : Service → Prop where
  | free (done : List (String × Answer)) :
      Faithful
        { courier := { asked := (done.map Prod.fst).reverse }
          taken := done.map Prod.fst
          answers := done.map Prod.snd
          handed := outcomes done }
  | working (done : List (String × Answer)) (plugin : String) :
      Faithful
        { courier :=
            { active := some plugin, workers := [plugin]
              asked := plugin :: (done.map Prod.fst).reverse }
          taken := done.map Prod.fst ++ [plugin]
          answers := done.map Prod.snd
          handed := outcomes done }
  | answered (done : List (String × Answer)) (plugin : String) (answer : Answer) :
      Faithful
        { courier :=
            { active := some plugin, mailbox := [Outcome.ofAnswer plugin answer]
              asked := plugin :: (done.map Prod.fst).reverse }
          taken := done.map Prod.fst ++ [plugin]
          answers := done.map Prod.snd ++ [answer]
          handed := outcomes done }

namespace Faithful

variable {v : Service}

/-- Handing over settles a question: it joins those that came back. -/
theorem handed (done : List (String × Answer)) (plugin : String) (answer : Answer) :
    Faithful
      { courier := { asked := plugin :: (done.map Prod.fst).reverse }
        taken := done.map Prod.fst ++ [plugin]
        answers := done.map Prod.snd ++ [answer]
        handed := outcomes done ++ [Outcome.ofAnswer plugin answer] } := by
  have h := Faithful.free (done ++ [(plugin, answer)])
  simpa only [outcomes, List.map_append, List.map_cons, List.map_nil, List.reverse_append,
    List.reverse_cons, List.reverse_nil, List.nil_append, List.singleton_append] using h

theorem start (h : v.Faithful) (plugin : String) : (v.move (.start plugin)).Faithful := by
  cases h with
  | free done => exact .working done plugin
  | working done earlier => exact .working done earlier
  | answered done earlier answer => exact .answered done earlier answer

theorem finish (h : v.Faithful) (worker : Nat) (answer : Answer) :
    (v.move (.finish worker answer)).Faithful := by
  cases h with
  | free done => exact .free done
  | working done plugin =>
    -- There is no worker but the one at the first place.
    cases worker with
    | zero => exact .answered done plugin answer
    | succ _ =>
      rw [move, if_neg (by simp)]
      exact .working done plugin
  | answered done plugin earlier => exact .answered done plugin earlier

theorem poll (h : v.Faithful) : (v.move .poll).Faithful := by
  cases h with
  | free done => exact .free done
  | working done plugin => exact .working done plugin
  | answered done plugin answer => exact .handed done plugin answer

theorem wait (h : v.Faithful) (engine : Engine) : (v.move (.wait engine)).Faithful := by
  cases h with
  | free done =>
    rw [move, Courier.awaited, List.append_nil]
    exact .free done
  | working done plugin => exact .handed done plugin _
  | answered done plugin answer =>
    rw [move, Courier.awaited, List.append_nil]
    exact .handed done plugin answer

theorem move (h : v.Faithful) (m : Move) : (v.move m).Faithful := by
  cases m with
  | start plugin => exact h.start plugin
  | finish worker answer => exact h.finish worker answer
  | poll => exact h.poll
  | wait engine => exact h.wait engine

theorem run (h : v.Faithful) (moves : List Move) : (v.run moves).Faithful := by
  induction moves generalizing v with
  | nil => exact h
  | cons m moves ih => exact ih (h.move m)

end Faithful

/-! ### What the books say -/

/-- A service that delivers. -/
structure Delivers (v : Service) : Prop where
  /-- A question that is out is with a worker or in the mailbox; without one there is
      nothing in either. -/
  one : v.courier.workers.length + v.courier.mailbox.length =
    if v.courier.active.isSome then 1 else 0
  /-- A question is refused just while one is out, and then nothing changes. -/
  refused : ∀ plugin, ((v.courier.start plugin).1 = false ↔ v.courier.active.isSome = true) ∧
    ((v.courier.start plugin).1 = false → (v.courier.start plugin).2 = v.courier)
  /-- The engine was asked what was taken, and nothing else. -/
  queried : v.courier.asked.reverse = v.taken
  /-- What was taken came back in this order, but for the question that is out. -/
  inOrder : v.handed.map Outcome.plugin ++ v.courier.active.toList = v.taken
  /-- The outcomes are those of the questions with their own answers. -/
  unswapped : v.handed ++ v.courier.mailbox = List.zipWith Outcome.ofAnswer v.taken v.answers
  /-- Every question was answered, but for those that are with a worker. -/
  complete : v.taken.length = v.answers.length + v.courier.workers.length
  /-- Once its worker has come to an end, the question that is out is there to be
      fetched. -/
  fetched : ∀ plugin, v.courier.active = some plugin → ∀ answer,
    ∃ o, (v.courier.deliver answer).poll .never = some (o, v.courier.freed) ∧ o.plugin = plugin
  /-- Waiting for the question that is out brings its outcome, whatever the engine
      does. -/
  waited : ∀ plugin, v.courier.active = some plugin → ∀ engine,
    ∃ o, v.courier.await engine = some (o, v.courier.freed) ∧ o.plugin = plugin

theorem map_plugin_outcomes (done : List (String × Answer)) :
    (outcomes done).map Outcome.plugin = done.map Prod.fst := by
  rw [outcomes, List.map_map]
  exact List.map_congr_left fun d _ => Outcome.plugin_ofAnswer d.1 d.2

theorem outcomes_eq_zipWith (done : List (String × Answer)) :
    outcomes done = List.zipWith Outcome.ofAnswer (done.map Prod.fst) (done.map Prod.snd) := by
  rw [outcomes, List.zipWith_map, List.zipWith_self]

theorem outcomes_append_eq_zipWith (done : List (String × Answer)) (plugin : String)
    (last : List Answer) :
    outcomes done ++ List.zipWith Outcome.ofAnswer [plugin] last =
      List.zipWith Outcome.ofAnswer (done.map Prod.fst ++ [plugin])
        (done.map Prod.snd ++ last) := by
  rw [List.zipWith_append (by rw [List.length_map, List.length_map]), ← outcomes_eq_zipWith]

theorem Faithful.delivers {v : Service} (h : v.Faithful) : v.Delivers := by
  have hrefused : ∀ plugin,
      ((v.courier.start plugin).1 = false ↔ v.courier.active.isSome = true) ∧
        ((v.courier.start plugin).1 = false → (v.courier.start plugin).2 = v.courier) := by
    intro plugin
    rw [Courier.start_fst, Courier.start_snd, Bool.not_eq_false']
    exact ⟨Iff.rfl, fun hbusy => Courier.send_of_isBusy hbusy plugin⟩
  cases h with
  | free done =>
    exact
      { one := rfl
        refused := hrefused
        queried := List.reverse_reverse _
        inOrder := by simpa using map_plugin_outcomes done
        unswapped := by simpa using outcomes_eq_zipWith done
        complete := by simp
        fetched := by simp
        waited := by simp }
  | working done plugin =>
    have hback : ∀ answer, (Outcome.ofAnswer plugin answer).plugin = plugin :=
      Outcome.plugin_ofAnswer plugin
    exact
      { one := rfl
        refused := hrefused
        queried := by simp
        inOrder := by simpa using map_plugin_outcomes done
        unswapped := by simpa using outcomes_append_eq_zipWith done plugin []
        complete := by simp
        fetched := by
          rintro _ ⟨⟩ answer
          exact ⟨_, rfl, hback answer⟩
        waited := by
          rintro _ ⟨⟩ engine
          exact ⟨_, rfl, hback _⟩ }
  | answered done plugin answer =>
    have hback : (Outcome.ofAnswer plugin answer).plugin = plugin :=
      Outcome.plugin_ofAnswer plugin answer
    exact
      { one := rfl
        refused := hrefused
        queried := by simp
        inOrder := by simpa using map_plugin_outcomes done
        unswapped := by simpa using outcomes_append_eq_zipWith done plugin [answer]
        complete := by simp
        fetched := by
          rintro _ ⟨⟩ later
          exact ⟨_, rfl, hback⟩
        waited := by
          rintro _ ⟨⟩ engine
          exact ⟨_, rfl, hback⟩ }

/-- **Nothing is lost, handed over twice or mixed up,** in whatever order a courier is
    asked, looked after and waited for while its workers come to an end. -/
theorem deliveries_run (moves : List Move) : (run {} moves).Delivers :=
  ((Faithful.free []).run moves).delivers

end Service

end LoadOrder
