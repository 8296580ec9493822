/-
  LoadOrder/Proofs/Snapshot/Revival.lean
  ======================================
  **What a document becomes: one plugin for each outermost tagged object, or the first
  error.**

  The places of the outermost tagged objects, in order, are the traversal of a document
  (`Json.Traversal`); there is exactly one such list (`Traversal.unique`).  If every
  object in it decodes and has a name, the document becomes their plugins, one for one;
  otherwise it becomes the error of the first one that does not
  (`pluginsOf_traversal`).
-/
import LoadOrder.Proofs.Plugin.Strict
import LoadOrder.Proofs.Snapshot.Places
import Mathlib.Data.List.Forall2

namespace LoadOrder

open Json

/-! ### One object -/

/-- An object has no name, or an empty one. -/
def Nameless (members : Members) : Prop :=
  lookup "name" members = none ∨ lookup "name" members = some .null ∨
    lookup "name" members = some (.text "")

/-- An object that no plugin can be made of. -/
def Faulty (members : Members) : Prop := IllTyped members ∨ Nameless members

/-- The error of a faulty object that has `n` others before it.  A name is looked at only
    if every field has its type. -/
inductive FaultOf (n : Nat) (members : Members) : Cause → Prop where
  | illTyped {problem : Problem} (h : FirstMisfit members strictFields problem) :
      FaultOf n members (.illTyped ⟨problem, none⟩)
  | nameless (htyped : ¬IllTyped members) (hname : Nameless members) :
      FaultOf n members (.missingName n)

/-- A plugin is the one that an object stands for. -/
def Plugin.IsRecord (members : Members) (p : Plugin) : Prop :=
  ∃ data name, PluginData.decode members = .ok data ∧
    lookup "name" members = some (.text name) ∧ name ≠ "" ∧ p = .ofData name data

section

variable {members : Members} {data : PluginData} {n : Nat} {p : Plugin} {cause : Cause}

theorem PluginData.name_of_decode (h : PluginData.decode members = .ok data) :
    orNone (decodeText "a string") (lookup "name" members) = .ok data.name := by
  unfold PluginData.decode at h
  obtain ⟨crc, -, h⟩ := exists_of_bind_eq_ok h
  obtain ⟨active, -, h⟩ := exists_of_bind_eq_ok h
  obtain ⟨dirty, -, h⟩ := exists_of_bind_eq_ok h
  obtain ⟨empty, -, h⟩ := exists_of_bind_eq_ok h
  obtain ⟨globalPriority, -, h⟩ := exists_of_bind_eq_ok h
  obtain ⟨master, -, h⟩ := exists_of_bind_eq_ok h
  obtain ⟨loadsArchive, -, h⟩ := exists_of_bind_eq_ok h
  obtain ⟨masterlist, -, h⟩ := exists_of_bind_eq_ok h
  obtain ⟨priority, -, h⟩ := exists_of_bind_eq_ok h
  obtain ⟨name, hname, h⟩ := exists_of_bind_eq_ok h
  obtain ⟨userlist, -, h⟩ := exists_of_bind_eq_ok h
  obtain ⟨version, -, h⟩ := exists_of_bind_eq_ok h
  cases h
  exact hname

theorem orNone_text_cases {x : Option Json} {wanted : String} {name : Option String}
    (h : orNone (decodeText wanted) x = .ok name) :
    ((x = none ∨ x = some .null) ∧ name = none) ∨ ∃ s, x = some (.text s) ∧ name = some s := by
  cases x with
  | none =>
    cases h
    exact .inl ⟨.inl rfl, rfl⟩
  | some v =>
    cases v with
    | null =>
      cases h
      exact .inl ⟨.inr rfl, rfl⟩
    | text s =>
      cases h
      exact .inr ⟨s, rfl, rfl⟩
    | _ => cases h

theorem not_illTyped_of_decode_ok (h : PluginData.decode members = .ok data) :
    ¬IllTyped members := by
  intro hill
  obtain ⟨problem, hproblem⟩ := PluginData.exists_decode_eq_error_iff.mpr hill
  rw [h] at hproblem
  cases hproblem

theorem FaultOf.faulty (h : FaultOf n members cause) : Faulty members := by
  cases h with
  | illTyped h => exact .inl (exists_firstMisfit_iff.mp ⟨_, h⟩)
  | nameless _ hname => exact .inr hname

theorem Plugin.IsRecord.not_faulty (h : p.IsRecord members) : ¬Faulty members := by
  obtain ⟨data, name, hdata, hname, hne, -⟩ := h
  rintro (hill | hnone | hnull | hempty)
  · exact not_illTyped_of_decode_ok hdata hill
  · cases hname.symm.trans hnone
  · cases hname.symm.trans hnull
  · cases hname.symm.trans hempty
    exact hne rfl

/-- One object becomes a plugin, or is faulty. -/
theorem Plugin.ofTagged_spec (n : Nat) (members : Members) :
    (∃ p, ofTagged n members = .ok p ∧ p.IsRecord members) ∨
      ∃ cause, ofTagged n members = .error cause ∧ FaultOf n members cause := by
  unfold ofTagged
  cases hdata : PluginData.decode members with
  | error problem =>
    exact .inr ⟨_, rfl, .illTyped ((PluginData.decode_eq_error_iff problem).mp hdata)⟩
  | ok data =>
    have htyped := not_illTyped_of_decode_ok hdata
    rcases orNone_text_cases (PluginData.name_of_decode hdata) with ⟨hmissing, hname⟩ | ⟨s, hs, hname⟩
    · simp only [hname]
      exact .inr ⟨_, rfl, .nameless htyped (hmissing.imp_right .inl)⟩
    · simp only [hname]
      by_cases hempty : s = ""
      · subst hempty
        exact .inr ⟨_, if_pos rfl, .nameless htyped (.inr (.inr hs))⟩
      · exact .inl ⟨_, if_neg hempty, data, s, hdata, hs, hempty, rfl⟩

theorem Plugin.ofTagged_eq_ok_iff : ofTagged n members = .ok p ↔ p.IsRecord members := by
  rcases ofTagged_spec n members with ⟨q, hq, hrec⟩ | ⟨cause, hcause, hfault⟩
  · constructor
    · intro h
      cases hq.symm.trans h
      exact hrec
    · rintro ⟨data, name, hdata, hname, hne, rfl⟩
      obtain ⟨data', name', hdata', hname', hne', rfl⟩ := hrec
      cases hdata.symm.trans hdata'
      cases hname.symm.trans hname'
      exact hq
  · constructor
    · intro h
      cases hcause.symm.trans h
    · intro h
      exact absurd hfault.faulty h.not_faulty

theorem FaultOf.unique {other : Cause} (h : FaultOf n members cause) (h' : FaultOf n members other) :
    cause = other := by
  cases h with
  | illTyped h =>
    cases h' with
    | illTyped h' =>
      rw [← PluginData.decode_eq_error_iff] at h h'
      cases h.symm.trans h'
      rfl
    | nameless htyped _ => exact absurd (exists_firstMisfit_iff.mp ⟨_, h⟩) htyped
  | nameless htyped _ =>
    cases h' with
    | illTyped h' => exact absurd (exists_firstMisfit_iff.mp ⟨_, h'⟩) htyped
    | nameless => rfl

theorem Plugin.ofTagged_eq_error_iff : ofTagged n members = .error cause ↔ FaultOf n members cause := by
  rcases ofTagged_spec n members with ⟨q, hq, hrec⟩ | ⟨other, hother, hfault⟩
  · constructor
    · intro h
      cases hq.symm.trans h
    · intro h
      exact absurd h.faulty hrec.not_faulty
  · constructor
    · intro h
      cases hother.symm.trans h
      exact hfault
    · intro h
      rw [hother, h.unique hfault]

end

/-! ### Several objects -/

theorem map_eq_error_iff {ε α β : Type} {f : α → β} {x : Except ε α} {e : ε} :
    x.map f = .error e ↔ x = .error e := by
  cases x with
  | error e' => rw [Except.map, Except.error.injEq, Except.error.injEq]
  | ok a =>
    constructor
    · intro h
      cases h
    · intro h
      cases h

/-- Several objects become the plugins they stand for, one for one. -/
theorem pluginsOfTagged_eq_ok_iff {n : Nat} {tagged : List Members} {plugins : List Plugin} :
    pluginsOfTagged n tagged = .ok plugins ↔
      List.Forall₂ (fun members p => p.IsRecord members) tagged plugins := by
  induction tagged generalizing n plugins with
  | nil =>
    rw [pluginsOfTagged, List.forall₂_nil_left_iff, Except.ok.injEq, eq_comm]
  | cons members rest ih =>
    rw [pluginsOfTagged, List.forall₂_cons_left_iff]
    cases hof : Plugin.ofTagged n members with
    | error cause =>
      constructor
      · intro h
        cases h
      · rintro ⟨p, ps, hrec, -, -⟩
        rw [Plugin.ofTagged_eq_ok_iff.mpr hrec] at hof
        cases hof
    | ok p =>
      constructor
      · intro h
        cases hps : pluginsOfTagged (n + 1) rest with
        | error cause =>
          simp only [hps] at h
          cases h
        | ok ps =>
          simp only [hps] at h
          cases h
          exact ⟨p, ps, Plugin.ofTagged_eq_ok_iff.mp hof, ih.mp hps, rfl⟩
      · rintro ⟨q, ps, hrec, hps, rfl⟩
        rw [Plugin.ofTagged_eq_ok_iff.mpr hrec] at hof
        cases hof
        simp only [ih.mpr hps]
        rfl

theorem not_faulty_of_isRecord {tagged : List Members} {plugins : List Plugin}
    (h : List.Forall₂ (fun members p => p.IsRecord members) tagged plugins) :
    ∀ members ∈ tagged, ¬Faulty members := by
  induction h with
  | nil => exact nofun
  | cons hrec _ ih => exact List.forall_mem_cons.mpr ⟨hrec.not_faulty, ih⟩

/-- Several objects fail with the error of the first faulty one. -/
theorem pluginsOfTagged_eq_error_iff {n : Nat} {tagged : List Members} {cause : Cause} :
    pluginsOfTagged n tagged = .error cause ↔
      ∃ before bad after, tagged = before ++ bad :: after ∧
        (∀ members ∈ before, ¬Faulty members) ∧ FaultOf (n + before.length) bad cause := by
  induction tagged generalizing n with
  | nil =>
    constructor
    · intro h
      cases h
    · rintro ⟨before, bad, after, heq, -⟩
      cases before <;> cases heq
  | cons members rest ih =>
    rw [pluginsOfTagged]
    cases hof : Plugin.ofTagged n members with
    | error other =>
      have hfault := Plugin.ofTagged_eq_error_iff.mp hof
      constructor
      · intro h
        cases h
        exact ⟨[], members, rest, rfl, nofun, hfault⟩
      · rintro ⟨before, bad, after, heq, hbefore, h⟩
        cases before with
        | nil =>
          cases heq
          exact congrArg _ (hfault.unique h)
        | cons first before =>
          cases heq
          exact absurd hfault.faulty (hbefore _ List.mem_cons_self)
    | ok p =>
      have hgood := (Plugin.ofTagged_eq_ok_iff.mp hof).not_faulty
      have hlength (before : List Members) : n + 1 + before.length = n + (members :: before).length := by
        rw [List.length_cons]
        omega
      rw [map_eq_error_iff, ih]
      constructor
      · rintro ⟨before, bad, after, rfl, hbefore, h⟩
        refine ⟨members :: before, bad, after, rfl, ?_, hlength before ▸ h⟩
        exact List.forall_mem_cons.mpr ⟨hgood, hbefore⟩
      · rintro ⟨before, bad, after, heq, hbefore, h⟩
        cases before with
        | nil =>
          cases heq
          exact absurd h.faulty hgood
        | cons first before =>
          cases heq
          rw [List.forall_mem_cons] at hbefore
          exact ⟨before, bad, after, rfl, hbefore.2, hlength before ▸ h⟩

/-! ### A document -/

/-- The outermost tagged objects of a value with their places, all of them and in the
    order of the places. -/
structure Json.Traversal (v : Json) (places : List (Path × Members)) : Prop where
  complete : ∀ p members, (p, members) ∈ places ↔ v.Outermost p members
  ordered : places.Pairwise fun a b => a.1.Before b.1

theorem Json.Traversal.nodup {v : Json} {places : List (Path × Members)} (h : v.Traversal places) :
    places.Nodup := h.ordered.imp fun hbefore heq => hbefore.ne (congrArg Prod.fst heq)

theorem Json.Traversal.unique {v : Json} {places other : List (Path × Members)}
    (h : v.Traversal places) (h' : v.Traversal other) : places = other := by
  have hperm : places.Perm other := by
    rw [List.perm_ext_iff_of_nodup h.nodup h'.nodup]
    intro place
    rw [h.complete, h'.complete]
  exact hperm.eq_of_pairwise (fun a b _ _ hab hba => absurd hba hab.asymm) h.ordered h'.ordered

theorem Json.Canonical.traversal {v : Json} (h : v.Canonical) : v.Traversal (placesIn v) where
  complete _ _ := mem_placesIn h.keysDistinct
  ordered := pairwise_placesIn h.keysDistinct h

/-- **What a document becomes.**  Its outermost tagged objects are `places`, in order.
    Either they become plugins, one for one, or the document becomes the error of the
    first faulty one; and that happens exactly if there is a faulty one. -/
theorem pluginsOf_traversal {v : Json} (hv : v.Canonical) :
    ∃ places, v.Traversal places ∧
      (∀ plugins, pluginsOf v = .ok plugins ↔
        List.Forall₂ (fun place p => p.IsRecord place.2) places plugins) ∧
      (∀ cause, pluginsOf v = .error cause ↔
        ∃ before bad after, places = before ++ bad :: after ∧
          (∀ place ∈ before, ¬Faulty place.2) ∧ FaultOf before.length bad.2 cause) ∧
      ((∃ cause, pluginsOf v = .error cause) ↔
        ∃ p members, v.Outermost p members ∧ Faulty members) := by
  have htraversal := hv.traversal
  have herror (cause : Cause) : pluginsOf v = .error cause ↔
      ∃ before bad after, placesIn v = before ++ bad :: after ∧
        (∀ place ∈ before, ¬Faulty place.2) ∧ FaultOf before.length bad.2 cause := by
    rw [pluginsOf, ← map_snd_placesIn, pluginsOfTagged_eq_error_iff]
    constructor
    · rintro ⟨before, bad, after, heq, hbefore, h⟩
      obtain ⟨before, rest, hplaces, rfl, hrest⟩ := List.map_eq_append_iff.mp heq
      obtain ⟨bad, after, rfl, rfl, rfl⟩ := List.map_eq_cons_iff.mp hrest
      rw [List.length_map, Nat.zero_add] at h
      exact ⟨before, bad, after, hplaces, fun place hplace => hbefore _ (List.mem_map_of_mem hplace), h⟩
    · rintro ⟨before, bad, after, heq, hbefore, h⟩
      refine ⟨before.map Prod.snd, bad.2, after.map Prod.snd, ?_, ?_, ?_⟩
      · rw [heq, List.map_append, List.map_cons]
      · exact List.forall_mem_map.mpr hbefore
      · rwa [List.length_map, Nat.zero_add]
  refine ⟨placesIn v, htraversal, fun plugins => ?_, herror, ?_⟩
  · rw [pluginsOf, ← map_snd_placesIn, pluginsOfTagged_eq_ok_iff, List.forall₂_map_left_iff]
  · constructor
    · rintro ⟨cause, hcause⟩
      obtain ⟨before, bad, after, heq, -, h⟩ := (herror cause).mp hcause
      refine ⟨bad.1, bad.2, (htraversal.complete _ _).mp ?_, h.faulty⟩
      rw [heq]
      exact List.mem_append_right before List.mem_cons_self
    · rintro ⟨p, members, hout, hfaulty⟩
      cases hplugins : pluginsOf v with
      | error cause => exact ⟨cause, rfl⟩
      | ok plugins =>
        rw [pluginsOf, pluginsOfTagged_eq_ok_iff, ← map_snd_placesIn] at hplugins
        have hmem := List.mem_map_of_mem (f := Prod.snd) ((htraversal.complete p members).mpr hout)
        exact absurd hfaulty (not_faulty_of_isRecord hplugins _ hmem)

/-- A plugin without a name behind one that has one, in a list under a key. -/
theorem pluginsOf_traversal_unnamed :
    let plugin (name : String) : Json := .object [("__type", .text "Plugin"), ("name", .text name)]
    let v : Json := .object [("list", .list [plugin "A.esm", .null, plugin ""])]
    v.Canonical ∧ pluginsOf v = .error (.missingName 1) ∧
      ∃ places, v.Traversal places ∧
        ∃ before bad after, places = before ++ bad :: after ∧
          (∀ place ∈ before, ¬Faulty place.2) ∧ FaultOf before.length bad.2 (.missingName 1) := by
  intro plugin v
  have hv : v.Canonical := canonical_canonical v
  have hplugins : pluginsOf v = .error (.missingName 1) := rfl
  obtain ⟨places, htraversal, -, herror, -⟩ := pluginsOf_traversal hv
  exact ⟨hv, hplugins, places, htraversal, (herror _).mp hplugins⟩

end LoadOrder
