/-
  LoadOrder/Proofs/Conflict/Courier.lean
  ======================================
  **A courier carries one question at a time.**

  A courier that was only ever sent, answered and looked after is in one of three
  situations (`Courier.Sound`): it is free, its question is with a worker, or the
  outcome of its question lies in the mailbox.  So what is fetched is always the
  outcome of the question that is out (`Sound.poll_eq_some`), and waiting is no more
  than looking at an engine that has answered (`Sound.await_eq_poll`).
-/
import LoadOrder.Conflict.Courier

namespace LoadOrder

theorem Outcome.plugin_ofAnswer (plugin : String) (a : Answer) :
    (ofAnswer plugin a).plugin = plugin := by
  cases a with
  | breakdown text => rfl
  | failure f => rfl
  | reply raw =>
    rw [ofAnswer]
    split <;> rfl

namespace Courier

/-- The situations of a courier: it has at most one question out, the one it says is
    out and was asked last, and either a worker has it or its outcome is back. -/
inductive Sound : Courier → Prop where
  | free (asked : List String) : Sound { asked := asked }
  | working (plugin : String) (asked : List String) :
      Sound { active := some plugin, workers := [plugin], asked := plugin :: asked }
  | answered (plugin : String) (answer : Answer) (asked : List String) :
      Sound
        { active := some plugin, mailbox := [Outcome.ofAnswer plugin answer]
          asked := plugin :: asked }

/-- The courier when its question has come back and was fetched. -/
def freed (c : Courier) : Courier := { asked := c.asked }

theorem send_of_isBusy {c : Courier} (h : c.isBusy = true) (plugin : String) :
    c.send plugin = c := by
  simp only [send, h, if_true]

theorem mem_mailbox_of_poll {c d : Courier} {arrival : Arrival} {o : Outcome}
    (h : c.poll arrival = some (o, d)) : o ∈ (c.arrive arrival).mailbox := by
  unfold poll fetch at h
  split at h
  · cases h
  · rename_i hm
    cases h
    rw [hm]
    exact List.mem_cons_self

namespace Sound

variable {c : Courier}

theorem freed (c : Courier) : c.freed.Sound := .free c.asked

theorem eq_of_free (h : c.Sound) (hfree : c.active = none) : c = { asked := c.asked } := by
  cases h with
  | free asked => rfl
  | working => cases hfree
  | answered => cases hfree

theorem send_of_free (h : c.Sound) (hfree : c.active = none) (plugin : String) :
    c.send plugin =
      { active := some plugin, workers := [plugin], asked := plugin :: c.asked } := by
  cases h with
  | free asked => rfl
  | working => cases hfree
  | answered => cases hfree

theorem send (h : c.Sound) (plugin : String) : (c.send plugin).Sound := by
  cases hbusy : c.active with
  | none =>
    rw [h.send_of_free hbusy]
    exact .working plugin c.asked
  | some _ =>
    rw [send_of_isBusy (by rw [isBusy, hbusy]; rfl)]
    exact h

theorem arrive_working (plugin : String) (asked : List String) (arrival : Arrival) :
    ({ active := some plugin, workers := [plugin], asked := plugin :: asked } : Courier).arrive
        arrival =
      match arrival asked (.conflictsOf plugin) with
      | some answer =>
        { active := some plugin, mailbox := [Outcome.ofAnswer plugin answer]
          asked := plugin :: asked }
      | none => { active := some plugin, workers := [plugin], asked := plugin :: asked } := rfl

theorem arrive (h : c.Sound) (arrival : Arrival) :
    (c.arrive arrival).Sound ∧ (c.arrive arrival).asked = c.asked ∧
      (c.arrive arrival).active = c.active := by
  cases h with
  | free asked => exact ⟨.free asked, rfl, rfl⟩
  | working plugin asked =>
    rw [arrive_working]
    cases arrival asked (.conflictsOf plugin) with
    | none => exact ⟨.working plugin asked, rfl, rfl⟩
    | some answer => exact ⟨.answered plugin answer asked, rfl, rfl⟩
  | answered plugin answer asked => exact ⟨.answered plugin answer asked, rfl, rfl⟩

/-- An outcome that is in the mailbox when somebody looks was there or has just arrived. -/
theorem mem_mailbox_arrive (h : c.Sound) {arrival : Arrival} {o : Outcome}
    (ho : o ∈ (c.arrive arrival).mailbox) :
    o ∈ c.mailbox ∨ ∃ plugin asked answer, c.active = some plugin ∧
      arrival asked (.conflictsOf plugin) = some answer ∧ o = Outcome.ofAnswer plugin answer := by
  cases h with
  | free asked => exact .inl ho
  | working plugin asked =>
    rw [arrive_working] at ho
    cases hanswer : arrival asked (.conflictsOf plugin) with
    | none =>
      rw [hanswer] at ho
      exact .inl ho
    | some answer =>
      rw [hanswer] at ho
      exact .inr ⟨plugin, asked, answer, rfl, hanswer, List.mem_singleton.mp ho⟩
  | answered plugin answer asked => exact .inl ho

theorem fetch_eq_some (h : c.Sound) {o : Outcome} {d : Courier} (hf : c.fetch = some (o, d)) :
    ∃ plugin answer, c.active = some plugin ∧ o = Outcome.ofAnswer plugin answer ∧
      d = c.freed := by
  cases h with
  | free asked => cases hf
  | working plugin asked => cases hf
  | answered plugin answer asked =>
    cases hf
    exact ⟨plugin, answer, rfl, rfl, rfl⟩

/-- **What is fetched is the outcome of the question that is out,** and the courier
    is free afterwards. -/
theorem poll_eq_some (h : c.Sound) {arrival : Arrival} {o : Outcome} {d : Courier}
    (hp : c.poll arrival = some (o, d)) :
    ∃ plugin answer, c.active = some plugin ∧ o = Outcome.ofAnswer plugin answer ∧
      d = c.freed := by
  obtain ⟨hsound, hasked, hkept⟩ := h.arrive arrival
  obtain ⟨plugin, answer, hactive, ho, hd⟩ := hsound.fetch_eq_some hp
  refine ⟨plugin, answer, ?_, ho, ?_⟩
  · rw [← hkept]
    exact hactive
  · rw [hd, Courier.freed, hasked]
    rfl

/-- An engine that is still at work is picked up when it has answered. -/
theorem poll_always_of_working (h : c.Sound) {plugin : String} (hactive : c.active = some plugin)
    (hmail : c.mailbox = []) (engine : Engine) :
    ∃ d, c.poll (.always engine) =
      some (Outcome.ofAnswer plugin (engine c.asked.tail (.conflictsOf plugin)), d) := by
  cases h with
  | free asked => cases hactive
  | working plugin asked =>
    cases hactive
    exact ⟨_, rfl⟩
  | answered plugin answer asked => cases hmail

/-- Waiting is looking at an engine that has answered. -/
theorem await_eq_poll (h : c.Sound) (engine : Engine) :
    c.await engine = c.poll (.always engine) := by
  cases h <;> rfl

theorem active_of_await_eq_none (h : c.Sound) {engine : Engine} (ha : c.await engine = none) :
    c.active = none := by
  cases h with
  | free asked => rfl
  | working plugin asked => cases ha
  | answered plugin answer asked => cases ha

end Sound

end Courier

/-! ### An engine with something to say -/

/-- Nothing about one plugin, and of another one that it conflicts and has a warning. -/
def warningReport : Report :=
  [("A.esp", {}), ("B.esp", { messages := [{ severity := .warn }], conflicts := true })]

/-- The engine that reports this, whatever it is asked. -/
def Engine.warning : Engine := fun _ _ =>
  .reply
    ("\x7b\"A.esp\":\x7b\x7d,\"B.esp\":\x7b\"conflicts\":true,\"messages\":["
      ++ "\x7b\"type\":\"warn\"\x7d]\x7d\x7d")

theorem Outcome.ofAnswer_warning : ofAnswer "A.esp" (Engine.warning [] (.conflictsOf "A.esp")) =
    .completed "A.esp" (some warningReport) := by
  decide +kernel

end LoadOrder
