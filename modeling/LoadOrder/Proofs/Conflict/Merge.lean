/-
  LoadOrder/Proofs/Conflict/Merge.lean
  ====================================
  **A report that is merged again changes nothing.**

  What a merge makes of the plugins is a sequence of edits, each on the first plugin
  of a name (`editAll`).  An edit leaves the name alone, so two edits on different
  names can change places (`editFirst_comm`); and two findings replace the same
  fields, so of two on one name the later is all that is left (`editFirst_again`).
  From these two facts a report that is merged twice has the effect of one merge
  (`editAll_editAll`), whatever names it repeats.

  Marks are no part of this.  A change of the plugins that no edit meets, such as one
  of the marks, can be made before or after a merge (`editAll_mapIdx`).
-/
import LoadOrder.Proofs.Totals.Balance

namespace LoadOrder

/-! ### One plugin -/

namespace Plugin

theorem edit_name (p : Plugin) (e : Edit) : (p.edit e).name = p.name := by
  rw [edit_eq]

theorem edit_edit_finding (p : Plugin) (f g : Finding) :
    (p.edit f.edit).edit g.edit = p.edit g.edit := by
  rw [edit_edit]
  rfl

/-- A change of a plugin that an edit does not meet: it can be made before or after. -/
structure Apart (f : Plugin → Plugin) : Prop where
  name : ∀ p, (f p).name = p.name
  edit : ∀ p e, f (p.edit e) = (f p).edit e

theorem map_unmarked_reported (ms : List ReportedMessage) :
    (ms.map Message.ofReported).map Message.unmarked = ms.map Message.ofReported := by
  rw [List.map_map]
  rfl

theorem apart_unmarked : Apart unmarked where
  name := fun _ => rfl
  edit := by
    intro p e
    rw [edit_eq, edit_eq]
    cases hm : e.messages with
    | none => simp only [unmarked, Option.map_none, Option.getD_none]
    | some ms =>
      simp only [unmarked, Option.map_some, Option.getD_some, map_unmarked_reported]

theorem apart_card (g : Card → Card) : Apart fun p => { p with card := g p.card } where
  name := fun _ => rfl
  edit := by
    intro p e
    simp only [edit_eq]

end Plugin

/-! ### The plugins of a merge -/

namespace Merge

/-- The plugins after all the edits of a report. -/
def editAll (report : Report) (l : List Plugin) : List Plugin :=
  report.foldl (fun k entry => editFirst entry.1 entry.2.edit k) l

theorem editAll_cons (entry : String × Finding) (report : Report) (l : List Plugin) :
    editAll (entry :: report) l = editAll report (editFirst entry.1 entry.2.edit l) := rfl

theorem editFirst_of_none {name : String} {l : List Plugin} (h : named? name l = none)
    (e : Edit) : editFirst name e l = l := by
  induction l with
  | nil => rfl
  | cons p rest ih =>
    have hp : p.name ≠ name := by
      intro hname
      simp [named?, hname] at h
    have hrest : named? name rest = none := by simpa [named?, hp] using h
    simp only [editFirst, hp, if_false, ih hrest]

theorem editNamed_plugins (m : Merge) (name : String) (e : Edit) :
    (m.editNamed name e).plugins = editFirst name e m.plugins := by
  cases hp : named? name m.plugins with
  | none => rw [editNamed_of_none hp, editFirst_of_none hp]
  | some p => rw [editNamed_of_some hp]

theorem addFinding_plugins (m : Merge) (entry : String × Finding) :
    (m.addFinding entry).plugins = editFirst entry.1 entry.2.edit m.plugins := by
  have hconflict : ∀ (k : Merge) (name : String) (b : Bool),
      (k.noteConflict name b).plugins = k.plugins := by
    intro k name b
    unfold noteConflict
    split <;> rfl
  have hmissing : ∀ (k : Merge) (name : String), (k.noteMissing name).plugins = k.plugins := by
    intro k name
    unfold noteMissing
    split <;> rfl
  rw [addFinding, editNamed_plugins, hmissing, hconflict]

theorem run_plugins (l : List Plugin) (totals : Totals) (plugin : String)
    (report : Option Report) :
    (run l totals plugin report).plugins = editAll (report.getD []) l := by
  have hfold : ∀ (entries : Report) (m : Merge),
      (entries.foldl addFinding m).plugins = editAll entries m.plugins := by
    intro entries
    induction entries with
    | nil => exact fun _ => rfl
    | cons entry rest ih =>
      intro m
      rw [List.foldl_cons, ih, addFinding_plugins, editAll_cons]
  exact hfold _ _

/-- The names depend on the report alone, not on the load order. -/
theorem run_names_congr (l l' : List Plugin) (totals totals' : Totals) (plugin : String)
    (report : Option Report) :
    (run l totals plugin report).names = (run l' totals' plugin report).names := by
  have hfold : ∀ (entries : Report) (m m' : Merge), m.names = m'.names →
      (entries.foldl addFinding m).names = (entries.foldl addFinding m').names := by
    intro entries
    induction entries with
    | nil => exact fun _ _ h => h
    | cons entry rest ih =>
      intro m m' h
      apply ih
      rw [addFinding_names, addFinding_names, h]
  exact hfold _ _ _ rfl

/-! ### Edits that change places -/

theorem editFirst_comm {n m : String} (h : n ≠ m) (e f : Edit) (l : List Plugin) :
    editFirst n e (editFirst m f l) = editFirst m f (editFirst n e l) := by
  induction l with
  | nil => rfl
  | cons p rest ih =>
    by_cases hn : p.name = n
    · simp only [editFirst, hn, if_true, Plugin.edit_name, h, if_false]
    · by_cases hm : p.name = m
      · have hne : m ≠ n := fun heq => h heq.symm
        simp only [editFirst, hm, if_true, Plugin.edit_name, hne, if_false]
      · simp only [editFirst, hn, hm, if_false, ih]

/-- Of two findings on one name the later is all that is left. -/
theorem editFirst_again (n : String) (f g : Finding) (l : List Plugin) :
    editFirst n g.edit (editFirst n f.edit l) = editFirst n g.edit l := by
  induction l with
  | nil => rfl
  | cons p rest ih =>
    by_cases hn : p.name = n
    · simp only [editFirst, hn, if_true, Plugin.edit_name, Plugin.edit_edit_finding]
    · simp only [editFirst, hn, if_false, ih]

theorem editFirst_mapIdx {f : Nat → Plugin → Plugin} (hf : ∀ i, Plugin.Apart (f i))
    (n : String) (e : Edit) (l : List Plugin) :
    (editFirst n e l).mapIdx f = editFirst n e (l.mapIdx f) := by
  induction l generalizing f with
  | nil => rfl
  | cons p rest ih =>
    have hname : (f 0 p).name = p.name := (hf 0).name p
    by_cases hn : p.name = n
    · simp only [editFirst, List.mapIdx_cons, hname, hn, if_true, (hf 0).edit]
    · simp only [editFirst, List.mapIdx_cons, hname, hn, if_false, ih fun i => hf (i + 1)]

/-! ### Whole reports -/

theorem editAll_mapIdx {f : Nat → Plugin → Plugin} (hf : ∀ i, Plugin.Apart (f i))
    (report : Report) (l : List Plugin) :
    (editAll report l).mapIdx f = editAll report (l.mapIdx f) := by
  induction report generalizing l with
  | nil => rfl
  | cons entry rest ih => rw [editAll_cons, editAll_cons, ih, editFirst_mapIdx hf]

theorem editAll_map {f : Plugin → Plugin} (hf : Plugin.Apart f) (report : Report)
    (l : List Plugin) : (editAll report l).map f = editAll report (l.map f) := by
  have hmap : ∀ k : List Plugin, k.map f = k.mapIdx fun _ => f := by
    intro k
    apply List.ext_getElem?
    intro i
    rw [List.getElem?_map, List.getElem?_mapIdx]
  rw [hmap, hmap, editAll_mapIdx fun _ => hf]

/-- A finding is lost on a name that the report goes on to name. -/
theorem editAll_editFirst_of_mem {n : String} {report : Report}
    (h : n ∈ report.map Prod.fst) (f : Finding) (l : List Plugin) :
    editAll report (editFirst n f.edit l) = editAll report l := by
  induction report generalizing l with
  | nil => cases h
  | cons entry rest ih =>
    rw [editAll_cons, editAll_cons]
    by_cases hn : entry.1 = n
    · rw [hn, editFirst_again]
    · have hrest : n ∈ rest.map Prod.fst := by
        rcases List.mem_cons.mp h with heq | hmem
        · exact absurd heq.symm hn
        · exact hmem
      rw [editFirst_comm hn, ih hrest]

theorem editFirst_editAll_of_not_mem {n : String} {report : Report}
    (h : n ∉ report.map Prod.fst) (e : Edit) (l : List Plugin) :
    editFirst n e (editAll report l) = editAll report (editFirst n e l) := by
  induction report generalizing l with
  | nil => rfl
  | cons entry rest ih =>
    have hn : n ≠ entry.1 := fun heq => h (heq ▸ List.mem_cons_self)
    have hrest : n ∉ rest.map Prod.fst := fun hmem => h (List.mem_cons_of_mem _ hmem)
    rw [editAll_cons, editAll_cons, ih hrest, editFirst_comm hn]

/-- **A report that is merged again changes nothing.** -/
theorem editAll_editAll (report : Report) (l : List Plugin) :
    editAll report (editAll report l) = editAll report l := by
  induction report generalizing l with
  | nil => rfl
  | cons entry rest ih =>
    rw [editAll_cons, editAll_cons]
    -- a name that comes again has its last finding; any other can wait for its turn
    by_cases hmem : entry.1 ∈ rest.map Prod.fst
    · rw [editAll_editFirst_of_mem hmem, editAll_editFirst_of_mem hmem, ih]
    · rw [editFirst_editAll_of_not_mem hmem, ih, editFirst_again]

end Merge

end LoadOrder
