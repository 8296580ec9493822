/-
  LoadOrder/Proofs/Conflict/Failure.lean
  ======================================
  **In how many ways a question can fail.**

  A question fails in the engine, which refuses it or breaks down, or in its reply,
  which is no JSON text, or no object, or an object with a member that is no finding
  (`Answer.Fails`).  These are all the ways there are (`Outcome.ofAnswer_failed_iff`).

  A report is all or nothing: one member that does not decode costs the whole reply,
  however many good ones stand beside it (`Report.ofMembers_error_iff`).
-/
import LoadOrder.Conflict.Engine

namespace LoadOrder

/-- The answers that do not lead to a report or to no data. -/
inductive Answer.Fails : Answer → Prop where
  | brokeDown (text : Option String) : Fails (.breakdown text)
  | refused (f : Failure) : Fails (.failure f)
  | notJson {raw : String} {fault : Json.Fault} (hraw : Text.trim raw ≠ "")
      (h : Json.parse (Text.trim raw) = .error fault) : Fails (.reply raw)
  | notObject {raw : String} {v : Json} (hraw : Text.trim raw ≠ "")
      (h : Json.parse (Text.trim raw) = .ok v) (hnull : v ≠ .null) (hfalse : v ≠ .bool false)
      (hobject : ∀ members, v ≠ .object members) : Fails (.reply raw)
  | badMember {raw : String} {members : Json.Members} {m : String × Json}
      {problem : Json.Problem} (hraw : Text.trim raw ≠ "")
      (h : Json.parse (Text.trim raw) = .ok (.object members)) (hm : m ∈ members)
      (hbad : Finding.decode m.2 = .error problem) : Fails (.reply raw)

namespace Report

/-- **A report is all or nothing.** -/
theorem ofMembers_error_iff (members : Json.Members) :
    (∃ problem, ofMembers members = .error problem) ↔
      ∃ m ∈ members, ∃ problem, Finding.decode m.2 = .error problem := by
  induction members with
  | nil => simp [ofMembers]
  | cons m rest ih =>
    cases hm : Finding.decode m.2 with
    | error problem => simp [ofMembers, hm]
    | ok finding =>
      have hrest : (∃ problem, ofMembers (m :: rest) = .error problem) ↔
          ∃ problem, ofMembers rest = .error problem := by
        cases htail : ofMembers rest <;> simp [ofMembers, hm, htail, Except.map]
      rw [hrest, ih]
      simp [hm]

theorem map_fst_ofMembers {members : Json.Members} {report : Report}
    (h : ofMembers members = .ok report) : report.map Prod.fst = members.map Prod.fst := by
  induction members generalizing report with
  | nil =>
    cases h
    rfl
  | cons m rest ih =>
    rw [ofMembers] at h
    split at h
    · cases h
    · cases hrest : ofMembers rest with
      | error problem =>
        rw [hrest] at h
        cases h
      | ok report' =>
        rw [hrest] at h
        cases h
        rw [List.map_cons, List.map_cons, ih hrest]

theorem ofJson_object {members : Json.Members} (h : members ≠ []) :
    ofJson (.object members) = (ofMembers members).map some := by
  cases members with
  | nil => exact absurd rfl h
  | cons m rest => rfl

theorem parse_of_empty {raw : String} (h : Text.trim raw = "") (plugin : String) :
    parse plugin raw = .ok none := by
  rw [parse, h, if_pos rfl]

theorem parse_of_fault {raw : String} {fault : Json.Fault} (hraw : Text.trim raw ≠ "")
    (h : Json.parse (Text.trim raw) = .error fault) (plugin : String) :
    parse plugin raw = .error (.malformedReport plugin fault) := by
  simp only [parse, if_neg hraw, h]

theorem parse_of_json {plugin raw : String} {v : Json}
    (h : Json.parse (Text.trim raw) = .ok v) :
    parse plugin raw = match ofJson v with
      | .error problem => .error (.malformedReport plugin ⟨problem, none⟩)
      | .ok report => .ok report := by
  have hne : Text.trim raw ≠ "" := by
    intro hempty
    rw [hempty] at h
    cases h
  cases hreport : ofJson v with
  | error problem => simp only [parse, if_neg hne, h, hreport]
  | ok report => simp only [parse, if_neg hne, h, hreport]

theorem ofJson_object_error_iff (members : Json.Members) :
    (∃ problem, ofJson (.object members) = .error problem) ↔
      ∃ problem, ofMembers members = .error problem := by
  cases members with
  | nil => simp [ofJson, ofMembers]
  | cons m rest => cases h : ofMembers (m :: rest) <;> simp [ofJson, h, Except.map]

theorem ofJson_eq_error {v : Json} (hnull : v ≠ .null) (hfalse : v ≠ .bool false)
    (hobject : ∀ members, v ≠ .object members) : ∃ problem, ofJson v = .error problem := by
  cases v with
  | null => exact absurd rfl hnull
  | bool b =>
    cases b with
    | false => exact absurd rfl hfalse
    | true => exact ⟨_, rfl⟩
  | object members => exact absurd rfl (hobject members)
  | _ => exact ⟨_, rfl⟩

end Report

namespace Outcome

theorem ofAnswer_reply_failed_iff (plugin raw : String) :
    (∃ text, ofAnswer plugin (.reply raw) = .failed plugin text) ↔
      ∃ cause, Report.parse plugin raw = .error cause := by
  rw [ofAnswer]
  cases Report.parse plugin raw <;> simp

/-- **These are all the ways in which a question can fail.** -/
theorem ofAnswer_failed_iff (plugin : String) (a : Answer) :
    (∃ text, ofAnswer plugin a = .failed plugin text) ↔ a.Fails := by
  cases a with
  | breakdown text => exact ⟨fun _ => .brokeDown text, fun _ => ⟨_, rfl⟩⟩
  | failure f => exact ⟨fun _ => .refused f, fun _ => ⟨_, rfl⟩⟩
  | reply raw =>
    rw [ofAnswer_reply_failed_iff]
    constructor
    · rintro ⟨cause, hcause⟩
      by_cases hraw : Text.trim raw = ""
      · simp [Report.parse, hraw] at hcause
      cases hv : Json.parse (Text.trim raw) with
      | error fault => exact .notJson hraw hv
      | ok v =>
        have hjson : ∃ problem, Report.ofJson v = .error problem := by
          cases h : Report.ofJson v with
          | error problem => exact ⟨problem, rfl⟩
          | ok report => simp [Report.parse, hraw, hv, h] at hcause
        cases v with
        | object members =>
          obtain ⟨m, hm, problem, hbad⟩ := (Report.ofMembers_error_iff members).mp
            ((Report.ofJson_object_error_iff members).mp hjson)
          exact .badMember hraw hv hm hbad
        | null => simp [Report.ofJson] at hjson
        | bool b =>
          cases b with
          | false => simp [Report.ofJson] at hjson
          | true => exact .notObject hraw hv nofun nofun nofun
        | _ => exact .notObject hraw hv nofun nofun nofun
    · intro h
      have hbad : ∀ v, Text.trim raw ≠ "" → Json.parse (Text.trim raw) = .ok v →
          (∃ problem, Report.ofJson v = .error problem) →
          ∃ cause, Report.parse plugin raw = .error cause := by
        rintro v hraw hv ⟨problem, hproblem⟩
        simp [Report.parse, hraw, hv, hproblem]
      cases h with
      | notJson hraw hfault => simp [Report.parse, hraw, hfault]
      | notObject hraw hv hnull hfalse hobject =>
        exact hbad _ hraw hv (Report.ofJson_eq_error hnull hfalse hobject)
      | badMember hraw hv hm hproblem =>
        apply hbad _ hraw hv
        rw [Report.ofJson_object_error_iff, Report.ofMembers_error_iff]
        exact ⟨_, hm, _, hproblem⟩

/-- Whether a question failed. -/
def isFailed : Outcome → Bool
  | .completed _ _ => false
  | .failed _ _ => true

theorem isFailed_ofAnswer_iff (plugin : String) (a : Answer) :
    (ofAnswer plugin a).isFailed = true ↔ a.Fails := by
  rw [← ofAnswer_failed_iff plugin a]
  cases a with
  | breakdown text => exact ⟨fun _ => ⟨_, rfl⟩, fun _ => rfl⟩
  | failure f => exact ⟨fun _ => ⟨_, rfl⟩, fun _ => rfl⟩
  | reply raw =>
    rw [ofAnswer]
    cases Report.parse plugin raw <;> simp [isFailed]

end Outcome

/-- Whether an answer fails can be told from its outcome, whatever it is about. -/
instance (a : Answer) : Decidable a.Fails :=
  decidable_of_iff _ (Outcome.isFailed_ofAnswer_iff "" a)

end LoadOrder
