/-
  LoadOrder/Proofs/Conflict/Overlay.lean
  ======================================
  **What a report says, laid over a load order in one pass.**

  A merge goes through the findings of a report and looks for the plugin of each.  What
  comes of it can be said the other way round, plugin by plugin: the first plugin of each
  name takes the five fields of the finding on it, if there is one, and every other
  plugin stays (`Report.overlay`).  The two are the same for a report that names no
  plugin twice (`Merge.editAll_eq_overlay`), as every report is that was read
  (`Report.names_of_parse`).

  The names of a merge are the plugin that was asked about and those that are said to
  conflict with it (`Merge.passesConflicts_run`).
-/
import LoadOrder.Proofs.Conflict.Merge
import Mathlib.Tactic.Tauto

namespace LoadOrder

/-- An edit writes no marks. -/
theorem Plugin.apart_bare : Apart bare where
  name := fun _ => rfl
  edit := by
    intro p e
    rw [edit_eq, edit_eq]
    cases hm : e.messages with
    | none => simp only [bare, Option.map_none, Option.getD_none]
    | some ms => simp only [bare, Option.map_some, Option.getD_some, map_unmarked_reported]

namespace Report

/-! ### Plugin by plugin -/

/-- The plugin with the finding on its name, if there is one. -/
def applied (report : Report) (p : Plugin) : Plugin :=
  match report.lookup p.name with
  | some finding => p.edit finding.edit
  | none => p

/-- The plugins behind others with these names: the first of each new name takes its
    finding. -/
def overlayBehind (report : Report) : List String → List Plugin → List Plugin
  | _, [] => []
  | seen, p :: rest =>
    (if seen.contains p.name then p else report.applied p)
      :: overlayBehind report (p.name :: seen) rest

/-- A load order with what a report says of it. -/
def overlay (report : Report) (l : List Plugin) : List Plugin := report.overlayBehind [] l

/-- Whether a plugin is the one that was asked about, or is said to conflict with it. -/
def involves (report : Report) (plugin : String) (p : Plugin) : Bool :=
  p.name == plugin || report.any fun entry => entry.1 == p.name && entry.2.conflicts

variable {report : Report} {name : String} {finding : Finding} {p : Plugin}

theorem applied_cons_self (h : p.name = name) :
    applied ((name, finding) :: report) p = p.edit finding.edit := by
  have hfound : List.lookup p.name ((name, finding) :: report) = some finding := by
    rw [List.lookup_cons, h, beq_self_eq_true]
  rw [applied, hfound]

theorem applied_cons_of_ne (h : p.name ≠ name) :
    applied ((name, finding) :: report) p = applied report p := by
  have hfound : List.lookup p.name ((name, finding) :: report) = report.lookup p.name := by
    rw [List.lookup_cons, beq_eq_false_iff_ne.mpr h]
  rw [applied, applied, hfound]

theorem applied_of_not_mem (h : p.name ∉ report.map Prod.fst) : report.applied p = p := by
  have hnone : report.lookup p.name = none := by
    rw [List.lookup_eq_none_iff]
    intro entry hentry
    rw [bne_iff_ne]
    rintro heq
    exact h (heq ▸ List.mem_map_of_mem hentry)
  rw [applied, hnone]

theorem overlay_nil (l : List Plugin) : overlay [] l = l := by
  have hbehind : ∀ seen, overlayBehind [] seen l = l := by
    induction l with
    | nil => exact fun _ => rfl
    | cons p rest ih =>
      intro seen
      rw [overlayBehind, ih, applied_of_not_mem (by simp), ite_self]
  exact hbehind []

/-- A finding on a name that came already is not looked at. -/
theorem overlayBehind_of_mem {seen : List String} (h : name ∈ seen) (l : List Plugin) :
    overlayBehind ((name, finding) :: report) seen l = overlayBehind report seen l := by
  induction l generalizing seen with
  | nil => rfl
  | cons p rest ih =>
    rw [overlayBehind, overlayBehind, ih (List.mem_cons_of_mem _ h)]
    by_cases hname : p.name = name
    · rw [hname, List.contains_iff_mem.mpr h]
      rfl
    · rw [applied_cons_of_ne hname]

/-- Any other finding can be laid over first: it meets the first plugin of its name. -/
theorem overlayBehind_cons {seen : List String} (hnew : name ∉ report.map Prod.fst)
    (h : name ∉ seen) (l : List Plugin) :
    overlayBehind ((name, finding) :: report) seen l =
      overlayBehind report seen (Merge.editFirst name finding.edit l) := by
  -- up to the plugin of that name only other names are seen, and behind it that one is
  induction l generalizing seen with
  | nil => rfl
  | cons p rest ih =>
    by_cases hname : p.name = name
    · have hedited : (p.edit finding.edit).name ∉ report.map Prod.fst := by
        rwa [Plugin.edit_name, hname]
      rw [Merge.editFirst, if_pos hname, overlayBehind, overlayBehind, Plugin.edit_name, hname,
        applied_cons_self hname, applied_of_not_mem hedited, ite_self,
        overlayBehind_of_mem List.mem_cons_self, List.contains_eq_mem, decide_eq_false h]
      rfl
    · have hseen : name ∉ p.name :: seen := by
        rw [List.mem_cons, not_or]
        exact ⟨Ne.symm hname, h⟩
      rw [Merge.editFirst, if_neg hname, overlayBehind, overlayBehind, applied_cons_of_ne hname,
        ih hseen]

end Report

namespace Merge

/-- **A merge lays its report over the load order.** -/
theorem editAll_eq_overlay {report : Report}
    (hnames : (report.map Prod.fst).Pairwise (· ≠ ·)) (l : List Plugin) :
    editAll report l = report.overlay l := by
  induction report generalizing l with
  | nil => exact (Report.overlay_nil l).symm
  | cons entry rest ih =>
    rw [List.map_cons, List.pairwise_cons] at hnames
    have hnew : entry.1 ∉ rest.map Prod.fst := fun hmem => hnames.1 _ hmem rfl
    rw [editAll_cons, ih hnames.2]
    exact (Report.overlayBehind_cons hnew List.not_mem_nil l).symm

/-! ### Names -/

theorem mem_insert {name other : String} {names : Names} :
    other ∈ Names.insert name names ↔ other = name ∨ other ∈ names := by
  induction names with
  | nil => exact List.mem_singleton.trans (or_iff_left List.not_mem_nil).symm
  | cons n rest ih =>
    unfold Names.insert
    split
    · exact List.mem_cons
    · split
      · rename_i heq
        rw [heq, List.mem_cons, or_self_left]
      · rw [List.mem_cons, ih, List.mem_cons, or_left_comm]

theorem mem_names_run {l : List Plugin} {totals : Totals} {plugin name : String}
    {report : Option Report} :
    name ∈ (run l totals plugin report).names ↔
      name = plugin ∨ ∃ entry ∈ report.getD [], entry.1 = name ∧ entry.2.conflicts = true := by
  have hfold : ∀ (entries : Report) (m : Merge), name ∈ (entries.foldl addFinding m).names ↔
      name ∈ m.names ∨ ∃ entry ∈ entries, entry.1 = name ∧ entry.2.conflicts = true := by
    intro entries
    induction entries with
    | nil => simp
    | cons entry rest ih =>
      intro m
      rw [List.foldl_cons, ih, addFinding_names]
      cases hconflicts : entry.2.conflicts with
      | true =>
        rw [if_pos rfl, mem_insert, @eq_comm _ name entry.1]
        simp only [List.mem_cons, exists_eq_or_imp, hconflicts, and_true]
        tauto
      | false => simp [hconflicts]
  rw [run, hfold, mem_insert, or_iff_left List.not_mem_nil]

/-- **The plugins of a conflict set are those that the report involves.** -/
theorem passesConflicts_run (l : List Plugin) (totals : Totals) (plugin : String)
    (report : Option Report) (p : Plugin) :
    p.passesConflicts (run l totals plugin report).names =
      (report.getD []).involves plugin p := by
  have hnonempty : (run l totals plugin report).names.isEmpty = false :=
    List.isEmpty_eq_false_iff.mpr (run_names_ne_nil l totals plugin report)
  rw [Plugin.passesConflicts, hnonempty, Bool.false_or, Bool.eq_iff_iff, List.contains_iff_mem,
    mem_names_run]
  simp only [Report.involves, Bool.or_eq_true, beq_iff_eq, List.any_eq_true, Bool.and_eq_true]

end Merge

end LoadOrder
