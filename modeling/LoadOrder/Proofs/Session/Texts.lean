/-
  LoadOrder/Proofs/Session/Texts.lean
  ===================================
  **No text of a plugin is ever out of date.**

  The plugins of a session come from snapshots, and afterwards edits of its user and
  findings of the engine replace their fields, in any order and number.  The texts
  beside the fields are never computed anew for the load order as a whole; still they
  say at any time what the fields say (`texts_run_new`).
-/
import LoadOrder.Proofs.Plugin.Texts
import LoadOrder.Proofs.Session.Lasting

namespace LoadOrder

namespace Merge

theorem derived_editFirst {l : List Plugin} (h : ∀ p ∈ l, p.Derived) (name : String) (e : Edit) :
    ∀ p ∈ editFirst name e l, p.Derived := by
  induction l with
  | nil => exact h
  | cons q rest ih =>
    have hq := h q List.mem_cons_self
    have hrest : ∀ p ∈ rest, p.Derived := fun p hp => h p (List.mem_cons_of_mem _ hp)
    rw [editFirst]
    split
    · exact List.forall_mem_cons.mpr ⟨hq.edit e, hrest⟩
    · exact List.forall_mem_cons.mpr ⟨hq, ih hrest⟩

end Merge

namespace Session

/-- The texts of every plugin are computed from its fields. -/
def Derived (s : Session) : Prop := ∀ p ∈ s.plugins, p.Derived

theorem Derived.of_unmarked {s t : Session} (h : s.Derived)
    (hsame : t.plugins.map Plugin.unmarked = s.plugins.map Plugin.unmarked) : t.Derived :=
  Plugin.derived_of_map_bare h (Plugin.map_bare_of_map_unmarked hsame)

theorem lasting_derived : Lasting Plugin.IsReported Derived where
  same := by
    intro s t h hplugins _ _ _ p hp
    rw [hplugins] at hp
    exact h p hp
  load := by
    intro s title plugins hreported _
    have hplugins : ∀ p ∈ plugins, p.Derived := fun p hp => (hreported p hp).derived
    exact Plugin.derived_of_map_bare hplugins
      (showCards_bare { s with plugins := plugins, criteria := _ })
  edit := fun name e h => Merge.derived_editFirst h name e
  criteria := fun _ _ _ h => h
  cards := fun _ h => Plugin.derived_of_map_bare h (showCards_bare _)
  pass := fun names h => h.of_unmarked (finishRefresh_unmarked _ names)
  search := fun needle h => h.of_unmarked (search_unmarked _ needle)
  select := fun _ _ h => h

/-- **No text of a plugin is ever out of date.**  Whatever snapshots were loaded,
    whatever was edited and whatever the engine has said, with a question out or not,
    the texts of every plugin say what its fields say. -/
theorem texts_run_new (toggles : Toggles) (phrase : String) (acts : List Act)
    (hacts : ∀ a ∈ acts, a.LoadsOnly Plugin.IsReported) :
    ∀ p ∈ ((new toggles phrase).run acts).plugins, p.Telling := by
  have hrun : ((new toggles phrase).run acts).Derived :=
    run_kept (P := Derived)
      (fun _ a ha hs => lasting_derived.perform_of_restore (fun _ ht => ht) hs (hacts a ha))
      (List.forall_mem_nil _)
  exact fun p hp => (hrun p hp).telling

/-- A plugin is loaded with the least priority that there is, and its checksum is
    edited while a question about it is out. -/
theorem texts_load_edit :
    let acts : List Act :=
      [.load none [Plugin.ofData "A b.esp" { crc := 0xDEADBEEF, priority := -2147483648 }],
       .showConflicts (some "A b.esp"), .edit "A b.esp" { crc := some 0x1F }]
    let s := (new {} defaultPhrase).run acts
    (∀ a ∈ acts, a.LoadsOnly Plugin.IsReported) ∧ s.isBusy = true ∧
      (∃ p ∈ s.plugins, p.id = "Ab.esp" ∧ p.crcText = "0000001F" ∧
        p.priorityText = "-2147483648") ∧
      ∀ p ∈ s.plugins, p.Telling := by
  intro acts s
  have hacts : ∀ a ∈ acts, a.LoadsOnly Plugin.IsReported := by
    intro a ha
    simp only [acts, List.mem_cons, List.not_mem_nil, or_false] at ha
    rcases ha with rfl | rfl | rfl
    · intro p hp
      rw [List.mem_singleton.mp hp]
      exact ⟨_, _, rfl⟩
    · trivial
    · trivial
  exact ⟨hacts, rfl, by decide, texts_run_new {} defaultPhrase acts hacts⟩

end Session

end LoadOrder
