/-
  LoadOrder/Proofs/Conflict/Silent.lean
  =====================================
  **Which replies say that there is no data.**

  An engine can say nothing in several ways: with no text at all, or with the document of
  null, of false, of an empty text or of an empty object (`Silent`).  All of them but one
  are taken as no data, and the merge then leaves the load order alone (`noData_reply`).
  The exception is the document of the empty text, which is refused as malformed
  (`not_noData_emptyText`); a conflict file that holds an empty text for a plugin fails in
  the same way, because the file is asked for the document of what it holds.

  No other reply is taken as no data.  It is a report about the plugins that the object
  has as its keys, or it is malformed.
-/
import LoadOrder.Conflict.Merge
import LoadOrder.Proofs.Conflict.Stored

namespace LoadOrder

open Json

/-- Values that say nothing. -/
inductive Json.Falsy : Json → Prop where
  | null : Falsy .null
  | no : Falsy (.bool false)
  | text : Falsy (.text "")
  | object : Falsy (.object [])

/-- Replies that say nothing, whatever blanks stand around them. -/
inductive Silent (raw : String) : Prop where
  | empty (h : Text.trim raw = "")
  | document {v : Json} (h : Json.parse (Text.trim raw) = .ok v) (hv : v.Falsy)

theorem Json.Falsy.whole {v : Json} (h : v.Falsy) : v.Whole := by
  cases h with
  | null => exact whole_leaf rfl rfl
  | no => exact whole_leaf rfl rfl
  | text => exact whole_leaf rfl rfl
  | object => exact whole_of_members (List.forall_mem_nil _)

namespace Report

variable {plugin raw : String} {v : Json}

/-- What a value can be to the reader of a reply: malformed, no data, or a report about its
    keys. -/
theorem ofValue_cases (plugin : String) (v : Json) :
    (∃ fault, ofValue plugin v = .error (.malformedReport plugin fault)) ∨
      (v.Falsy ∧ ofValue plugin v = .ok none) ∨
      ∃ members report, v = .object members ∧ members ≠ [] ∧
        ofValue plugin v = .ok (some report) ∧
        report.map Prod.fst = members.map Prod.fst := by
  cases v with
  | null => exact .inr (.inl ⟨.null, rfl⟩)
  | bool b =>
    cases b with
    | false => exact .inr (.inl ⟨.no, rfl⟩)
    | true => exact .inl ⟨_, rfl⟩
  | object members =>
    by_cases hnil : members = []
    · subst hnil
      exact .inr (.inl ⟨.object, rfl⟩)
    rw [ofValue, ofJson_object hnil]
    cases hreport : ofMembers members with
    | error problem => exact .inl ⟨_, rfl⟩
    | ok report => exact .inr (.inr ⟨members, report, rfl, hnil, rfl, map_fst_ofMembers hreport⟩)
  | int n => exact .inl ⟨_, rfl⟩
  | real x => exact .inl ⟨_, rfl⟩
  | text s => exact .inl ⟨_, rfl⟩
  | list items => exact .inl ⟨_, rfl⟩

theorem ofValue_of_falsy (h : v.Falsy) : ofValue plugin v = .ok none ↔ v ≠ .text "" := by
  cases h with
  | null => exact ⟨fun _ => nofun, fun _ => rfl⟩
  | no => exact ⟨fun _ => nofun, fun _ => rfl⟩
  | text => exact ⟨nofun, fun h => absurd rfl h⟩
  | object => exact ⟨fun _ => nofun, fun _ => rfl⟩

theorem ofValue_eq_none_iff : ofValue plugin v = .ok none ↔ v.Falsy ∧ v ≠ .text "" := by
  constructor
  · intro h
    rcases ofValue_cases plugin v with ⟨fault, herror⟩ | ⟨hfalsy, -⟩ | ⟨ms, report, -, -, hdata, -⟩
    · rw [h] at herror
      cases herror
    · exact ⟨hfalsy, (ofValue_of_falsy hfalsy).mp h⟩
    · rw [h] at hdata
      cases hdata
  · rintro ⟨hfalsy, hne⟩
    exact (ofValue_of_falsy hfalsy).mpr hne

/-- **The replies that are taken as no data.** -/
theorem parse_eq_none_iff :
    parse plugin raw = .ok none ↔
      Silent raw ∧ Json.parse (Text.trim raw) ≠ .ok (.text "") := by
  by_cases hempty : Text.trim raw = ""
  · refine iff_of_true (parse_of_empty hempty plugin) ⟨.empty hempty, ?_⟩
    rw [hempty]
    exact nofun
  cases hv : Json.parse (Text.trim raw) with
  | error fault =>
    rw [parse_of_fault hempty hv plugin]
    refine iff_of_false nofun ?_
    rintro ⟨hsilent, -⟩
    cases hsilent with
    | empty h => exact hempty h
    | document h _ =>
      rw [hv] at h
      cases h
  | ok v =>
    rw [parse_eq_ofValue hv, ofValue_eq_none_iff]
    constructor
    · rintro ⟨hfalsy, hne⟩
      exact ⟨.document hv hfalsy, fun h => hne (Except.ok.inj h)⟩
    · rintro ⟨hsilent, hne⟩
      cases hsilent with
      | empty h => exact absurd h hempty
      | document h hfalsy =>
        obtain rfl := Except.ok.inj (hv.symm.trans h)
        exact ⟨hfalsy, fun h => hne (congrArg Except.ok h)⟩

/-- Every other reply is malformed, or a report about the keys of its object. -/
theorem parse_of_not_none (h : parse plugin raw ≠ .ok none) :
    (∃ fault, parse plugin raw = .error (.malformedReport plugin fault)) ∨
      ∃ members report, readText (Text.trim raw) = .ok (.object members) ∧
        parse plugin raw = .ok (some report) ∧
        (report.map Prod.fst).Pairwise (· < ·) ∧
        ∀ name, name ∈ report.map Prod.fst ↔ name ∈ members.map Prod.fst := by
  by_cases hempty : Text.trim raw = ""
  · exact absurd (parse_of_empty hempty plugin) h
  cases hv : Json.parse (Text.trim raw) with
  | error fault => exact .inl ⟨fault, parse_of_fault hempty hv plugin⟩
  | ok v =>
    rw [parse_eq_ofValue hv] at h ⊢
    rcases ofValue_cases plugin v with herror | ⟨-, hnone⟩ | ⟨members, report, rfl, -, hdata, hkeys⟩
    · exact .inl herror
    · exact absurd hnone h
    · obtain ⟨ms, hread, rfl⟩ := parse_eq_object hv
      right
      refine ⟨ms, report, hread, hdata, ?_, fun name => ?_⟩
      · rw [hkeys]
        exact pairwise_keys_canonicalMembers ms
      · rw [hkeys, mem_keys_canonicalMembers]

/-- A report that was read names no plugin twice. -/
theorem names_of_parse {report : Option Report} (h : parse plugin raw = .ok report) :
    ((report.getD []).map Prod.fst).Pairwise (· ≠ ·) := by
  cases report with
  | none => exact .nil
  | some report =>
    have hsome : parse plugin raw ≠ .ok none := by
      rw [h]
      exact nofun
    rcases parse_of_not_none hsome with ⟨fault, herror⟩ | ⟨members, found, -, hfound, hkeys, -⟩
    · cases h.symm.trans herror
    · cases h.symm.trans hfound
      exact hkeys.imp ne_of_lt

end Report

/-- A file that holds a value which says nothing for a plugin answers with no data, but for
    the empty text. -/
theorem completed_ofFile_iff {store : Store} {path raw plugin : String} {answers : Members}
    (hread : store.readText path = .ok raw) (hraw : Json.parse raw = .ok (.object answers))
    (hfalsy : (stored plugin answers).Falsy) (asked : List String) :
    Outcome.ofAnswer plugin (Engine.ofFile store path asked (.conflictsOf plugin)) =
        .completed plugin none ↔ stored plugin answers ≠ .text "" := by
  rw [outcome_ofFile hraw hfalsy.whole hread, Outcome.ofValue_eq_completed_iff]
  exact Report.ofValue_of_falsy hfalsy

/-- **Which replies are no data.**  Those that say nothing, but for the document of the empty
    text, which is malformed.  No data leaves the load order as it is and names the plugin
    alone.  Every other reply is malformed too, or a report about the keys of its object. -/
theorem noData_reply (plugin : String) :
    (∀ raw, Report.parse plugin raw = .ok none ↔
      Silent raw ∧ Json.parse (Text.trim raw) ≠ .ok (.text "")) ∧
    (∀ l totals, Merge.run l totals plugin none = { plugins := l, totals, names := [plugin] }) ∧
    (∀ raw, Report.parse plugin raw ≠ .ok none →
      (∃ fault, Report.parse plugin raw = .error (.malformedReport plugin fault)) ∨
        ∃ members report, readText (Text.trim raw) = .ok (.object members) ∧
          Report.parse plugin raw = .ok (some report) ∧
          (report.map Prod.fst).Pairwise (· < ·) ∧
          ∀ name, name ∈ report.map Prod.fst ↔ name ∈ members.map Prod.fst) ∧
    ∀ {store : Store} {path raw : String} {answers : Members},
      store.readText path = .ok raw → Json.parse raw = .ok (.object answers) →
      (stored plugin answers).Falsy → ∀ asked,
        Outcome.ofAnswer plugin (Engine.ofFile store path asked (.conflictsOf plugin)) =
          .completed plugin none ↔ stored plugin answers ≠ .text "" := by
  refine ⟨fun raw => Report.parse_eq_none_iff, fun l totals => rfl,
    fun raw => Report.parse_of_not_none, ?_⟩
  intro store path raw answers hread hraw hfalsy asked
  exact completed_ofFile_iff hread hraw hfalsy asked

/-- False with blanks around it, a number, and a file that holds null. -/
theorem noData_reply_false :
    Report.parse "F.esp" " false\n" = .ok none ∧
    Merge.run [] {} "F.esp" none = { plugins := [], totals := {}, names := ["F.esp"] } ∧
    (∃ fault, Report.parse "F.esp" "5" = .error (.malformedReport "F.esp" fault)) ∧
    Outcome.ofAnswer "F.esp" (Engine.ofFile ⟨[(["data.json"], .text "\x7b\"F.esp\":null\x7d")]⟩
      "data.json" [] (.conflictsOf "F.esp")) = .completed "F.esp" none := by
  obtain ⟨hnone, hmerge, hother, hfile⟩ := noData_reply "F.esp"
  have hfalse : Json.parse (Text.trim " false\n") = .ok (.bool false) := by decide +kernel
  have hfive : Json.parse (Text.trim "5") = .ok (.int 5) := by decide +kernel
  have hnull : Json.parse "\x7b\"F.esp\":null\x7d" = .ok (.object [("F.esp", .null)]) := by
    decide +kernel
  have hread : Store.readText ⟨[(["data.json"], .text "\x7b\"F.esp\":null\x7d")]⟩ "data.json" =
      .ok "\x7b\"F.esp\":null\x7d" := by decide +kernel
  have hdata : Report.parse "F.esp" "5" ≠ .ok none := by
    rw [Report.parse_eq_ofValue hfive]
    intro h
    cases h
  refine ⟨(hnone _).mpr ⟨.document hfalse .no, ?_⟩, hmerge [] {}, ?_, ?_⟩
  · rw [hfalse]
    intro h
    cases h
  · rcases hother "5" hdata with hfault | ⟨members, report, hread, -⟩
    · exact hfault
    · have hparse : Json.parse (Text.trim "5") = .ok (Json.object members).canonical := by
        rw [Json.parse, hread]
      rw [hfive] at hparse
      cases hparse
  · apply (hfile hread hnull .null []).mpr
    intro h
    cases h

/-- The document of the empty text says nothing, and is refused. -/
theorem not_noData_emptyText :
    ¬∀ plugin raw, Silent raw → Report.parse plugin raw = .ok none := by
  intro h
  have htext : Json.parse (Text.trim "\"\"") = .ok (.text "") := by decide +kernel
  have hnone := h "F.esp" "\"\"" (.document htext .text)
  exact (Report.parse_eq_none_iff.mp hnone).2 htext

end LoadOrder
