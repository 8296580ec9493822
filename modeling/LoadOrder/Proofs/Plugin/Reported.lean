/-
  LoadOrder/Proofs/Plugin/Reported.lean
  =====================================
  **What a plugin keeps beside its fields is computed from them.**

  A plugin is made of a name and of what was reported about it (`Plugin.IsReported`),
  and that is the only way in which a snapshot makes one (`Plugin.isReported_of_parse`).
  Its identifier and its texts are computed then; afterwards an edit computes a text
  again together with the field behind it.  So they always agree (`Plugin.Derived`).
-/
import LoadOrder.Proofs.Totals.Balance
import LoadOrder.Snapshot

namespace LoadOrder.Plugin

/-! ### Where plugins come from -/

/-- A plugin as it is made of what was reported. -/
def IsReported (p : Plugin) : Prop := ∃ name data, p = ofData name data

theorem isReported_ofTagged {index : Nat} {members : Json.Members} {p : Plugin}
    (h : ofTagged index members = .ok p) : p.IsReported := by
  unfold ofTagged at h
  split at h
  · cases h
  · rename_i data _
    split at h
    · cases h
    · rename_i name _
      split at h
      · cases h
      · cases h
        exact ⟨name, data, rfl⟩

theorem isReported_pluginsOfTagged {index : Nat} {tagged : List Json.Members}
    {plugins : List Plugin} (h : pluginsOfTagged index tagged = .ok plugins) :
    ∀ p ∈ plugins, p.IsReported := by
  induction tagged generalizing index plugins with
  | nil =>
    cases h
    exact fun _ hp => nomatch hp
  | cons members rest ih =>
    unfold pluginsOfTagged at h
    split at h
    · cases h
    · rename_i p hp
      cases hrest : pluginsOfTagged (index + 1) rest with
      | error cause =>
        rw [hrest] at h
        cases h
      | ok ps =>
        rw [hrest] at h
        cases h
        intro q hq
        rcases List.mem_cons.mp hq with rfl | hq
        · exact isReported_ofTagged hp
        · exact ih hrest q hq

/-- The plugins of a snapshot are as they were reported. -/
theorem isReported_of_parse {raw : String} {snapshot : Snapshot}
    (h : Snapshot.parse raw = .ok snapshot) : ∀ p ∈ snapshot.plugins, p.IsReported := by
  unfold Snapshot.parse at h
  split at h
  · cases h
  · rename_i v _
    cases hplugins : pluginsOf v with
    | error cause =>
      rw [Snapshot.ofJson, hplugins] at h
      cases h
    | ok plugins =>
      rw [Snapshot.ofJson, hplugins] at h
      cases h
      exact isReported_pluginsOfTagged hplugins

/-! ### Texts beside their fields -/

/-- What a plugin keeps beside its fields is computed from them. -/
structure Derived (p : Plugin) : Prop where
  id : p.id = pluginId p.name
  crcText : p.crcText = LoadOrder.crcText p.crc
  priorityText : p.priorityText = LoadOrder.priorityText p.priority
  tagTexts : p.tagTexts = LoadOrder.tagTexts p.tags

theorem IsReported.derived {p : Plugin} (h : p.IsReported) : p.Derived := by
  obtain ⟨name, data, rfl⟩ := h
  exact ⟨rfl, rfl, rfl, rfl⟩

theorem Derived.edit {p : Plugin} (h : p.Derived) (e : Edit) : (p.edit e).Derived := by
  rw [edit_eq]
  constructor
  · exact h.id
  · cases e.crc with
    | none => exact h.crcText
    | some crc => rfl
  · cases e.priority with
    | none => exact h.priorityText
    | some priority => rfl
  · cases e.tags with
    | none => exact h.tagTexts
    | some tags => rfl

/-- Marks are no part of this. -/
theorem Derived.of_bare {p q : Plugin} (h : p.Derived) (hbare : p.bare = q.bare) : q.Derived := by
  have hp : p.bare.Derived := ⟨h.id, h.crcText, h.priorityText, h.tagTexts⟩
  rw [hbare] at hp
  exact ⟨hp.id, hp.crcText, hp.priorityText, hp.tagTexts⟩

theorem derived_of_map_bare {l l' : List Plugin} (h : ∀ p ∈ l, p.Derived)
    (hbare : l'.map bare = l.map bare) : ∀ q ∈ l', q.Derived := by
  intro q hq
  have hmem : q.bare ∈ l.map bare := hbare ▸ List.mem_map_of_mem hq
  obtain ⟨p, hp, heq⟩ := List.mem_map.mp hmem
  exact (h p hp).of_bare heq

end LoadOrder.Plugin
