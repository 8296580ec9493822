/-
  LoadOrder/Proofs/Conflict/Scope.lean
  ====================================
  **How far a merge reaches, and that its order does not matter.**

  A merge goes through its report finding by finding, and it finds the plugins by their
  names in a load order that may have a name several times.  What it comes to is said
  here place by place: a plugin is rewritten if it is the first of its name and the
  report has a finding on it, and then in the five fields of the finding and in the
  texts that go with them (`Report.getElem?_overlay`).

  A report is a set of findings and is sorted only because it has to stand in some
  order.  In any other order it would do the same (`Merge.plugins_run_perm`,
  `Merge.names_run_perm`), and so would the totals, because they count the plugins that
  come of it (`Merge.counts_run`).  The number of shown messages is left out: it may stop
  at zero on the way, and whether it does depends on the order.
-/
import LoadOrder.Proofs.Conflict.Overlay

namespace LoadOrder

/-! ### Place by place -/

/-- The plugin with all that a finding says of it. -/
def Plugin.withFinding (p : Plugin) (f : Finding) : Plugin :=
  { p with
    crc := f.crc
    crcText := LoadOrder.crcText f.crc
    empty := f.empty
    messages := f.messages.map Message.ofReported
    tags := f.tags
    tagTexts := LoadOrder.tagTexts f.tags
    dirty := f.dirty }

theorem Plugin.edit_finding (p : Plugin) (f : Finding) : p.edit f.edit = p.withFinding f := by
  rw [edit_eq]
  rfl

/-- A message of a finding is shown until a filter pass says otherwise. -/
theorem Plugin.hidden_of_mem_withFinding {p : Plugin} {f : Finding} {m : Message}
    (h : m ∈ (p.withFinding f).messages) : m.hidden = false := by
  obtain ⟨reported, -, rfl⟩ := List.mem_map.mp h
  rfl

namespace Report

variable {report : Report} {name : String} {finding : Finding} {p : Plugin}

/-- With one finding on each name, it does not matter how the report is searched. -/
theorem lookup_eq_some_iff (hnames : (report.map Prod.fst).Nodup) :
    report.lookup name = some finding ↔ (name, finding) ∈ report := by
  induction report with
  | nil => simp
  | cons entry rest ih =>
    obtain ⟨other, found⟩ := entry
    obtain ⟨hnew, hrest⟩ := List.nodup_cons.mp hnames
    rw [List.lookup_cons, List.mem_cons, Prod.mk.injEq]
    by_cases hname : name = other
    · -- the finding at the front is the only one on its name
      subst hname
      have hlost : (name, finding) ∉ rest := by
        intro hmem
        exact hnew (List.mem_map.mpr ⟨_, hmem, rfl⟩)
      simp only [beq_self_eq_true, Option.some.injEq, true_and, hlost, or_false, eq_comm]
    · simp only [beq_eq_false_iff_ne.mpr hname, hname, false_and, false_or, ih hrest]

theorem applied_of_mem (hnames : (report.map Prod.fst).Nodup)
    (h : (p.name, finding) ∈ report) : report.applied p = p.withFinding finding := by
  rw [applied, (lookup_eq_some_iff hnames).mpr h]
  exact p.edit_finding finding

theorem applied_perm {order : Report} (hperm : order.Perm report)
    (hnames : (report.map Prod.fst).Nodup) (p : Plugin) : order.applied p = report.applied p := by
  have hnames' : (order.map Prod.fst).Nodup := (hperm.map Prod.fst).nodup_iff.mpr hnames
  have hlookup : order.lookup p.name = report.lookup p.name := by
    apply Option.ext
    intro finding
    rw [lookup_eq_some_iff hnames', lookup_eq_some_iff hnames, hperm.mem_iff]
  rw [applied, applied, hlookup]

theorem length_overlay (report : Report) (l : List Plugin) :
    (report.overlay l).length = l.length := by
  have hbehind : ∀ seen, (report.overlayBehind seen l).length = l.length := by
    induction l with
    | nil => exact fun _ => rfl
    | cons p rest ih =>
      intro seen
      rw [overlayBehind, List.length_cons, List.length_cons, ih]
  exact hbehind []

/-- The names before a place decide whether its plugin takes a finding. -/
theorem getElem?_overlayBehind (report : Report) (seen : List String) (l : List Plugin) (i : Nat) :
    (report.overlayBehind seen l)[i]? =
      l[i]?.map fun p =>
        if p.name ∈ seen ∨ p.name ∈ (l.take i).map Plugin.name then p else report.applied p := by
  induction l generalizing seen i with
  | nil => rfl
  | cons q rest ih =>
    cases i with
    | zero => simp [overlayBehind]
    | succ i =>
      rw [overlayBehind, List.getElem?_cons_succ, ih, List.getElem?_cons_succ]
      congr 1
      funext p
      simp only [List.mem_cons, List.take_succ_cons, List.map_cons, or_assoc, or_left_comm]

/-- **The plugin at a place** takes its finding if no plugin before it has its name. -/
theorem getElem?_overlay (report : Report) (l : List Plugin) (i : Nat) :
    (report.overlay l)[i]? =
      l[i]?.map fun p =>
        if p.name ∈ (l.take i).map Plugin.name then p else report.applied p := by
  rw [overlay, getElem?_overlayBehind]
  simp only [List.not_mem_nil, false_or]

theorem overlay_perm {order : Report} (hperm : order.Perm report)
    (hnames : (report.map Prod.fst).Nodup) (l : List Plugin) :
    order.overlay l = report.overlay l := by
  apply List.ext_getElem?
  intro i
  simp only [getElem?_overlay, applied_perm hperm hnames]

end Report

/-! ### In any order -/

theorem Names.insert_comm (a b : String) (names : Names) :
    Names.insert a (Names.insert b names) = Names.insert b (Names.insert a names) := by
  induction names with
  | nil => grind [Names.insert]
  | cons n rest ih =>
    -- each of the two stands before `n`, at it or behind it
    grind [Names.insert]

namespace Merge

variable {l : List Plugin} {totals : Totals} {plugin : String} {report order : Report}

theorem plugins_run_perm (hperm : order.Perm report) (hnames : (report.map Prod.fst).Nodup)
    (l : List Plugin) (totals : Totals) (plugin : String) :
    (run l totals plugin (some order)).plugins = (run l totals plugin (some report)).plugins := by
  have hnames' : (order.map Prod.fst).Nodup := (hperm.map Prod.fst).nodup_iff.mpr hnames
  rw [run_plugins, run_plugins, Option.getD_some, Option.getD_some, editAll_eq_overlay hnames',
    editAll_eq_overlay hnames, Report.overlay_perm hperm hnames]

theorem names_foldl_addFinding (entries : Report) (m : Merge) :
    (entries.foldl addFinding m).names =
      entries.foldl (fun names entry =>
        if entry.2.conflicts then Names.insert entry.1 names else names) m.names := by
  induction entries generalizing m with
  | nil => rfl
  | cons entry rest ih => rw [List.foldl_cons, List.foldl_cons, ih, addFinding_names]

theorem names_run_perm (hperm : order.Perm report) (l : List Plugin) (totals : Totals)
    (plugin : String) :
    (run l totals plugin (some order)).names = (run l totals plugin (some report)).names := by
  rw [run, run, names_foldl_addFinding, names_foldl_addFinding]
  apply hperm.foldl_eq'
  intro x _ y _ names
  cases x.2.conflicts <;> cases y.2.conflicts <;> simp [Names.insert_comm]

/-! ### The totals -/

theorem counts_editNamed {m : Merge} (h : m.totals.Counts m.plugins) (name : String) (e : Edit) :
    (m.editNamed name e).totals.Counts (m.editNamed name e).plugins := by
  cases hp : named? name m.plugins with
  | none =>
    rw [editNamed_of_none hp]
    exact h
  | some p =>
    rw [editNamed_of_some hp]
    exact h.exchange e hp

theorem counts_addFinding {m : Merge} (h : m.totals.Counts m.plugins)
    (entry : String × Finding) :
    (m.addFinding entry).totals.Counts (m.addFinding entry).plugins := by
  apply counts_editNamed
  unfold noteMissing noteConflict
  split <;> split <;> exact h

/-- **Totals that count a load order count it after a merge,** whatever is shown. -/
theorem counts_run (h : totals.Counts l) (plugin : String) (report : Option Report) :
    (run l totals plugin report).totals.Counts (run l totals plugin report).plugins := by
  have hfold : ∀ (entries : Report) (m : Merge), m.totals.Counts m.plugins →
      (entries.foldl addFinding m).totals.Counts (entries.foldl addFinding m).plugins := by
    intro entries
    induction entries with
    | nil => exact fun _ hm => hm
    | cons entry rest ih => exact fun m hm => ih _ (counts_addFinding hm entry)
  exact hfold _ _ h

end Merge

/-- Two totals that count the same plugins agree, but for the number of shown messages. -/
theorem Totals.Counts.agree {t u : Totals} {l : List Plugin} (ht : t.Counts l) (hu : u.Counts l) :
    t.messages = u.messages ∧ t.warnings = u.warnings ∧ t.errors = u.errors ∧
      t.dirtyPlugins = u.dirtyPlugins :=
  ⟨ht.messages.trans hu.messages.symm, ht.warnings.trans hu.warnings.symm,
    ht.errors.trans hu.errors.symm, ht.dirtyPlugins.trans hu.dirtyPlugins.symm⟩

namespace Merge

/-- **How far a merge reaches.**  Of a load order, in which names may repeat, and totals
    that count it, a merge with a report of one finding for each name, as every report is
    that was read (`Report.names_of_parse`), makes this: it names the plugin that was asked
    about and those that are said to conflict with it; a plugin with a finding on its name
    that is the first of this name takes over what the finding says, and all its messages
    are shown; every other plugin stays as it is, and so does all else of the one that is
    rewritten; the totals count what comes of it; and if the findings are merged in any
    other order, the plugins, the names and the totals are the same. -/
theorem scope_run (l : List Plugin) (totals : Totals) (plugin : String) (report : Option Report)
    (hcounts : totals.Counts l) (hnames : ((report.getD []).map Prod.fst).Nodup) :
    let m := run l totals plugin report
    (∀ name, name ∈ m.names ↔
      name = plugin ∨ ∃ finding, (name, finding) ∈ report.getD [] ∧ finding.conflicts = true) ∧
    m.plugins.length = l.length ∧
    (∀ i p, l[i]? = some p →
      ((p.name ∈ (l.take i).map Plugin.name ∨ p.name ∉ (report.getD []).map Prod.fst) →
        m.plugins[i]? = some p) ∧
      ∀ finding, (p.name, finding) ∈ report.getD [] → p.name ∉ (l.take i).map Plugin.name →
        m.plugins[i]? = some (p.withFinding finding) ∧
        ∀ message ∈ (p.withFinding finding).messages, message.hidden = false) ∧
    m.totals.Counts m.plugins ∧
    ∀ order, order.Perm (report.getD []) →
      let m' := run l totals plugin (some order)
      m'.plugins = m.plugins ∧ m'.names = m.names ∧
      m'.totals.messages = m.totals.messages ∧ m'.totals.warnings = m.totals.warnings ∧
      m'.totals.errors = m.totals.errors ∧ m'.totals.dirtyPlugins = m.totals.dirtyPlugins := by
  intro m
  have hplugins : m.plugins = (report.getD []).overlay l := by
    rw [run_plugins, editAll_eq_overlay hnames]
  have htotals : m.totals.Counts m.plugins := counts_run hcounts plugin report
  refine ⟨?_, ?_, ?_, htotals, ?_⟩
  · intro name
    rw [mem_names_run]
    refine or_congr_right ⟨?_, fun ⟨finding, hmem, hconflicts⟩ => ⟨_, hmem, rfl, hconflicts⟩⟩
    rintro ⟨⟨_, finding⟩, hmem, rfl, hconflicts⟩
    exact ⟨finding, hmem, hconflicts⟩
  · rw [hplugins, Report.length_overlay]
  · intro i p hp
    rw [hplugins, Report.getElem?_overlay, hp, Option.map_some]
    constructor
    · rintro (hbefore | hunnamed)
      · rw [if_pos hbefore]
      · rw [Report.applied_of_not_mem hunnamed, ite_self]
    · intro finding hmem hfirst
      rw [if_neg hfirst, Report.applied_of_mem hnames hmem]
      exact ⟨rfl, fun _ => Plugin.hidden_of_mem_withFinding⟩
  · intro order hperm m'
    have hsame : m'.plugins = m.plugins := plugins_run_perm hperm hnames l totals plugin
    have htotals' : m'.totals.Counts m.plugins := hsame ▸ counts_run hcounts plugin (some order)
    exact ⟨hsame, names_run_perm hperm l totals plugin, htotals'.agree htotals⟩

/-- A name that stands twice, and a report that has it and one more name. -/
theorem scope_run_doubled :
    let a := Plugin.ofData "A.esp" {}
    let l := [a, a, Plugin.ofData "B.esp" { dirty := true }]
    let found : Finding := { crc := 255, conflicts := true }
    let report : Report := [("A.esp", found), ("Z.esp", { conflicts := true })]
    let m := run l (Totals.ofPlugins l) "B.esp" (some report)
    (Totals.ofPlugins l).Counts l ∧ (report.map Prod.fst).Nodup ∧
      "Z.esp" ∈ m.names ∧ m.plugins[0]? = some (a.withFinding found) ∧ m.plugins[1]? = some a ∧
      (run l (Totals.ofPlugins l) "B.esp" (some report.reverse)).plugins = m.plugins := by
  intro a l found report m
  have hcounts : (Totals.ofPlugins l).Counts l := Totals.counts_ofPlugins l
  have hnames : (report.map Prod.fst).Nodup := by decide
  obtain ⟨hmem, -, hplaces, -, horder⟩ :=
    scope_run l (Totals.ofPlugins l) "B.esp" (some report) hcounts hnames
  refine ⟨hcounts, hnames, (hmem "Z.esp").mpr (.inr ⟨_, .tail _ (.head _), rfl⟩), ?_, ?_,
    (horder report.reverse (List.reverse_perm report)).1⟩
  · exact ((hplaces 0 a rfl).2 found (.head _) (by decide)).1
  · exact (hplaces 1 a rfl).1 (.inl (by decide))

end Merge

end LoadOrder
