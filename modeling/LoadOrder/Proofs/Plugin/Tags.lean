/-
  LoadOrder/Proofs/Plugin/Tags.lean
  =================================
  **The tags that are shown as added and as removed.**

  A list of tags is read as two lists that do not see each other: the names behind a dash,
  and the names without one.  Each keeps its order and its repetitions.  Only then are the
  names without a dash compared with those behind one, and every name goes that has the
  lower-case form of a removed name.

  So a removal acts on what stands before it as on what stands behind it
  (`addedNames_append`), and how the two kinds of tags are mixed does not matter
  (`tagTexts_congr`).
-/
import LoadOrder.Plugin.Basic

namespace LoadOrder

/-! ### The dash in front -/

namespace TagDirective

variable {t : TagDirective} {name : String}

def Dashed (t : TagDirective) : Prop := ['-'] <+: t.name.toList

instance : DecidablePred Dashed := fun t => inferInstanceAs (Decidable (['-'] <+: t.name.toList))

/-- One dash is stripped, and no more than one. -/
theorem removedName?_eq_some_iff : t.removedName? = some name ↔ t.name = "-" ++ name := by
  rw [← String.toList_inj, String.toList_append, removedName?]
  split
  · rename_i rest hname
    rw [hname, Option.some_inj, ← String.toList_inj, String.toList_ofList]
    exact (List.cons_inj_right '-').symm
  · rename_i hname
    constructor
    · intro h
      cases h
    · intro h
      exact absurd h (hname name.toList)

theorem dashed_iff : t.Dashed ↔ ∃ name, t.removedName? = some name := by
  simp only [removedName?_eq_some_iff, ← String.toList_inj, String.toList_append]
  constructor
  · rintro ⟨rest, hrest⟩
    refine ⟨String.ofList rest, ?_⟩
    rw [← hrest]
    exact congrArg (['-'] ++ ·) String.toList_ofList.symm
  · rintro ⟨name, hname⟩
    exact ⟨name.toList, hname.symm⟩

theorem removedName?_of_not_dashed (h : ¬ t.Dashed) : t.removedName? = none := by
  rw [Option.eq_none_iff_forall_ne_some]
  intro name hname
  exact h (dashed_iff.mpr ⟨name, hname⟩)

/-- Every directive either adds its tag or removes it. -/
theorem addedName?_eq_ite (t : TagDirective) :
    t.addedName? = if t.Dashed then none else some t.name := by
  unfold addedName?
  by_cases h : t.Dashed
  · obtain ⟨name, hname⟩ := dashed_iff.mp h
    rw [if_pos h, hname]
    rfl
  · rw [if_neg h, removedName?_of_not_dashed h]
    rfl

end TagDirective

/-! ### The two lists of names -/

/-- The names with a dash in front, as they are written. -/
def dashedNames (tags : List TagDirective) : List String :=
  (tags.filter (·.Dashed)).map (·.name)

/-- The names without a dash in front. -/
def plainNames (tags : List TagDirective) : List String :=
  (tags.filter (¬ ·.Dashed)).map (·.name)

theorem map_dash_removedNames (tags : List TagDirective) :
    (removedNames tags).map ("-" ++ ·) = dashedNames tags := by
  induction tags with
  | nil => rfl
  | cons t rest ih =>
    unfold removedNames dashedNames at *
    by_cases h : t.Dashed
    · obtain ⟨name, hname⟩ := TagDirective.dashed_iff.mp h
      rw [List.filterMap_cons_some hname, List.map_cons, ih,
        List.filter_cons_of_pos (by simpa using h), List.map_cons,
        TagDirective.removedName?_eq_some_iff.mp hname]
    · rw [List.filterMap_cons_none (TagDirective.removedName?_of_not_dashed h), ih,
        List.filter_cons_of_neg (by simpa using h)]

theorem filterMap_addedName? (tags : List TagDirective) :
    tags.filterMap TagDirective.addedName? = plainNames tags := by
  induction tags with
  | nil => rfl
  | cons t rest ih =>
    unfold plainNames at *
    by_cases h : t.Dashed
    · rw [List.filterMap_cons_none (by rw [t.addedName?_eq_ite, if_pos h]), ih,
        List.filter_cons_of_neg (by simpa using h)]
    · rw [List.filterMap_cons_some (by rw [t.addedName?_eq_ite, if_neg h]), ih,
        List.filter_cons_of_pos (by simpa using h), List.map_cons]

/-- What is written with a dash determines what is removed. -/
theorem removedNames_congr {tags tags' : List TagDirective}
    (h : dashedNames tags = dashedNames tags') : removedNames tags = removedNames tags' := by
  rw [← map_dash_removedNames, ← map_dash_removedNames] at h
  apply (List.map_inj_right _).mp h
  intro name name' hname
  exact (String.append_right_inj "-").mp hname

/-! ### What a removal suppresses -/

/-- The name is one of these, up to case. -/
def Suppressed (removed : List String) (name : String) : Prop :=
  ∃ r ∈ removed, Text.lowercase r = Text.lowercase name

instance (removed : List String) : DecidablePred (Suppressed removed) :=
  fun name => inferInstanceAs (Decidable (∃ r ∈ removed, Text.lowercase r = Text.lowercase name))

theorem addedNames_eq_filter (tags : List TagDirective) :
    addedNames tags = (plainNames tags).filter (¬ Suppressed (removedNames tags) ·) := by
  rw [addedNames, filterMap_addedName?]
  apply List.filter_congr
  intro name _
  rw [Bool.eq_iff_iff]
  simp [Suppressed]

theorem mem_addedNames {tags : List TagDirective} {name : String} :
    name ∈ addedNames tags ↔ name ∈ plainNames tags ∧ ¬ Suppressed (removedNames tags) name := by
  simp [addedNames_eq_filter]

theorem suppressed_append (removed removed' : List String) (name : String) :
    Suppressed (removed ++ removed') name ↔ Suppressed removed name ∨ Suppressed removed' name := by
  simp only [Suppressed, List.mem_append, or_and_right, exists_or]

/-- **A removal acts in both directions:** of two lists one behind the other, each keeps the
    added names that the other one does not remove. -/
theorem addedNames_append (tags tags' : List TagDirective) :
    addedNames (tags ++ tags') =
      (addedNames tags).filter (¬ Suppressed (removedNames tags') ·) ++
        (addedNames tags').filter (¬ Suppressed (removedNames tags) ·) := by
  have hplain : plainNames (tags ++ tags') = plainNames tags ++ plainNames tags' := by
    simp [plainNames]
  have hremoved : removedNames (tags ++ tags') = removedNames tags ++ removedNames tags' :=
    List.filterMap_append
  simp only [addedNames_eq_filter, hplain, hremoved, List.filter_append, List.filter_filter,
    suppressed_append, not_or, Bool.decide_and, Bool.and_comm]

/-- **How additions and removals are mixed does not matter.** -/
theorem tagTexts_congr {tags tags' : List TagDirective}
    (hdashed : dashedNames tags = dashedNames tags') (hplain : plainNames tags = plainNames tags') :
    tagTexts tags = tagTexts tags' := by
  have hremoved := removedNames_congr hdashed
  rw [tagTexts, tagTexts, addedNames_eq_filter, addedNames_eq_filter, hplain, hremoved]

/-- **What is shown of a list of tags,** whatever the list.  Removed are the names that are
    written with a dash, without that dash and in order; added are the others, in order and
    as often as they are written, unless the name has the lower-case form of a removed one.
    So nothing is shown on both sides; a list and what follows it remove from each other;
    and no other way to mix the same additions with the same removals shows anything
    else. -/
theorem tagTexts_resolved (tags : List TagDirective) :
    (removedNames tags).map ("-" ++ ·) = dashedNames tags ∧
    addedNames tags = (plainNames tags).filter (¬ Suppressed (removedNames tags) ·) ∧
    tagTexts tags = ⟨", ".intercalate (addedNames tags), ", ".intercalate (removedNames tags)⟩ ∧
    (∀ a ∈ addedNames tags, ∀ r ∈ removedNames tags, Text.lowercase a ≠ Text.lowercase r) ∧
    (∀ more : List TagDirective, addedNames (tags ++ more) =
      (addedNames tags).filter (¬ Suppressed (removedNames more) ·) ++
        (addedNames more).filter (¬ Suppressed (removedNames tags) ·)) ∧
    ∀ other : List TagDirective, dashedNames other = dashedNames tags →
      plainNames other = plainNames tags → tagTexts other = tagTexts tags := by
  refine ⟨map_dash_removedNames tags, addedNames_eq_filter tags, rfl, ?_,
    addedNames_append tags, fun _ => tagTexts_congr⟩
  intro a ha r hr hsame
  exact (mem_addedNames.mp ha).2 ⟨r, hr, hsame.symm⟩

/-- Two additions go by one removal between them, `-X` is removed under its own dash, and
    the empty name stands for itself; the removals may as well come first. -/
theorem tagTexts_resolved_mixed :
    let tags := ["Names", "-names", "NAMES", "--X", "Delev", "-", "", "Delev"].map (⟨·, none⟩)
    let other := ["-names", "--X", "-", "Names", "NAMES", "Delev", "", "Delev"].map (⟨·, none⟩)
    tagTexts tags = ⟨"Delev, Delev", "names, -X, "⟩ ∧
      Text.lowercase "Delev" ≠ Text.lowercase "-X" ∧ tagTexts other = tagTexts tags := by
  intro tags other
  obtain ⟨-, -, -, hapart, -, hmixed⟩ := tagTexts_resolved tags
  exact ⟨by decide +kernel, hapart "Delev" (by decide +kernel) "-X" (by decide +kernel),
    hmixed other (by decide +kernel) (by decide +kernel)⟩

end LoadOrder
