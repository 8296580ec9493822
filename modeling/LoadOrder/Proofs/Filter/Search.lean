/-
  LoadOrder/Proofs/Filter/Search.lean
  ===================================
  **What the two searches find.**

  The content filter and the search bar look through the same texts of a plugin, of which
  the search bar leaves out those that are hidden (`Plugin.searchedTexts`).  Both put the
  needle and each text into lower case, one by one, and look for the one in the other.

  So what stands in a text word for word is found, in whatever case it is, as long as it
  has the lower-case form in the text that it has alone.  For a `Σ` this need not be so:
  it has another form at the end of a word, and the needle may end where the word does
  not (`Plugin.not_found_sigma`).
-/
import LoadOrder.Filter.Criteria
import LoadOrder.Proofs.Text.Lowercase

namespace LoadOrder

/-- A text of a plugin that is searched, and whether it is hidden. -/
structure SearchedText where
  text : String
  hidden : Bool
deriving DecidableEq, Repr

namespace Plugin

/-- The texts of a plugin that are searched. -/
def searchedTexts (p : Plugin) : List SearchedText :=
  [⟨p.name, false⟩, ⟨p.crcText, p.card.crcHidden⟩, ⟨p.version, p.card.versionHidden⟩,
   ⟨p.tagTexts.added, p.card.tagsHidden⟩, ⟨p.tagTexts.removed, p.card.tagsHidden⟩]
    ++ p.messages.map fun m => ⟨m.content, m.hidden⟩

variable (p : Plugin) (needle : String)

/-- **The content filter** looks into every text. -/
theorem matchesContent_eq :
    p.matchesContent needle =
      (needle == "" || p.searchedTexts.any fun t => foldedContains t.text needle) := by
  simp only [matchesContent, searchedTexts, List.any_append, List.any_cons, List.any_nil,
    List.any_map, Function.comp_def, Bool.or_false, Bool.or_assoc]

/-- **The search bar** looks into those that are not hidden. -/
theorem isVisible_eq :
    p.isVisible needle =
      (Text.lowercase needle == "" || p.searchedTexts.any fun t =>
        !t.hidden && foldedContains t.text (Text.lowercase needle)) := by
  simp only [isVisible, searchedTexts, List.any_append, List.any_cons, List.any_nil,
    List.any_map, Function.comp_def, Bool.or_false, Bool.or_assoc, Bool.and_or_distrib_left,
    Bool.not_false, Bool.true_and]
  -- the search bar comes to the version before the checksum
  ac_rfl

variable {p}

/-- What is found in a text of a plugin is found in the plugin. -/
theorem matchesContent_of_mem {t : SearchedText} {needle : String} (h : t ∈ p.searchedTexts)
    (hfound : foldedContains t.text needle = true) : p.matchesContent needle = true := by
  rw [matchesContent_eq, Bool.or_eq_true, List.any_eq_true]
  exact .inr ⟨t, h, hfound⟩

theorem isVisible_of_mem {t : SearchedText} {needle : String} (h : t ∈ p.searchedTexts)
    (hshown : t.hidden = false) (hfound : foldedContains t.text (Text.lowercase needle) = true) :
    p.isVisible needle = true := by
  rw [isVisible_eq, Bool.or_eq_true, List.any_eq_true]
  refine .inr ⟨t, h, ?_⟩
  rw [hshown, hfound]
  rfl

/-! ### What stands there word for word -/

/-- **What stands in a text word for word.**  In the lower-case form of the text it stands
    at its place in the lower-case form that it has alone if and only if every `Σ` in it
    has the same form there as alone; so it is if it has none.  Then both searches find it,
    the search bar if the text is not hidden. -/
theorem found_of_occurs (p : Plugin) {t : SearchedText} (ht : t ∈ p.searchedTexts)
    {s : String} {before after : List Char}
    (hplace : t.text.toList = before ++ (s.toList ++ after)) :
    ((∃ back, (Text.lowercase t.text).toList =
        Text.lowerIn [] before (s.toList ++ after) ++ ((Text.lowercase s).toList ++ back)) ↔
      Text.KeepsSigmas before.reverse s.toList after) ∧
    ('Σ' ∉ s.toList → Text.KeepsSigmas before.reverse s.toList after) ∧
    (Text.KeepsSigmas before.reverse s.toList after →
      p.matchesContent (Text.lowercase s) = true ∧ (t.hidden = false → p.isVisible s = true)) := by
  have hstands := Text.stands_iff hplace
  refine ⟨hstands, fun hnone => Text.keepsSigmas_of_not_mem hnone _ _, fun hkeeps => ?_⟩
  obtain ⟨back, hback⟩ := hstands.mpr hkeeps
  have hfound : foldedContains t.text (Text.lowercase s) = true := Text.contains_of_stands hback
  exact ⟨matchesContent_of_mem ht hfound, fun hshown => isVisible_of_mem ht hshown hfound⟩

/-- A word with a `Σ` at its end, searched without its first letter. -/
theorem found_of_occurs_sigma :
    let p := Plugin.ofData "ΟΔΟΣ 1.esp" {}
    let t : SearchedText := ⟨p.name, false⟩
    t ∈ p.searchedTexts ∧ t.text.toList = ['Ο'] ++ ("ΔΟΣ".toList ++ " 1.esp".toList) ∧
      Text.KeepsSigmas ['Ο'] "ΔΟΣ".toList " 1.esp".toList ∧ t.hidden = false ∧
      p.matchesContent (Text.lowercase "ΔΟΣ") = true ∧ p.isVisible "ΔΟΣ" = true := by
  intro p t
  have ht : t ∈ p.searchedTexts := List.mem_cons_self
  have hplace : t.text.toList = ['Ο'] ++ ("ΔΟΣ".toList ++ " 1.esp".toList) := by decide
  have hkeeps : Text.KeepsSigmas ['Ο'] "ΔΟΣ".toList " 1.esp".toList :=
    (Text.lowerIn_eq_iff _ _ _).mp (by decide +kernel)
  obtain ⟨-, -, hfound⟩ := found_of_occurs p ht hplace
  exact ⟨ht, hplace, hkeeps, rfl, (hfound hkeeps).1, (hfound hkeeps).2 rfl⟩

/-- **What stands in a text word for word may not be found.**  A name is searched for
    without what comes after the dot: in the name the `Σ` is not at the end of a word. -/
theorem not_found_sigma :
    let p := Plugin.ofData "ΟΔΟΣ.esp" {}
    let s := "ΟΔΟΣ"
    s ≠ "" ∧ p.name.toList = s.toList ++ ".esp".toList ∧
      p.matchesContent (Text.lowercase s) = false ∧ p.isVisible s = false := by
  decide +kernel

end Plugin

end LoadOrder
