/-
  LoadOrder/Proofs/Filter/Hiding.lean
  ===================================
  **The search bar is the content filter on what can be seen.**

  The two searches are written apart: they come to the fields in another order, one tests
  marks that the other ignores, and one puts the needle into lower case where the other
  expects it so.  They agree all the same, if what is hidden is taken out of the plugin
  first (`Plugin.withoutHidden`).  An emptied text cannot be found, because the needle is
  not empty once it comes to texts.

  From this the rest follows: hiding takes away matches and adds none, and where nothing
  is hidden the two give one answer.  That the needle may be in any case needs a fact about
  lower case alone (`Text.lowercase_lowercase`).
-/
import LoadOrder.Proofs.Filter.Marks
import LoadOrder.Proofs.Filter.Search
import LoadOrder.Proofs.Text.Lowered

namespace LoadOrder

namespace Plugin

/-! ### Without what is hidden -/

/-- The plugin with the hidden texts emptied and the hidden messages taken out. -/
def withoutHidden (p : Plugin) : Plugin :=
  { p with
    version := if p.card.versionHidden then "" else p.version
    crcText := if p.card.crcHidden then "" else p.crcText
    tagTexts := if p.card.tagsHidden then {} else p.tagTexts
    messages := p.shownMessages }

/-- Nothing is hidden: no field of the card and no message. -/
structure ShowsAll (p : Plugin) : Prop where
  version : p.card.versionHidden = false
  crc : p.card.crcHidden = false
  tags : p.card.tagsHidden = false
  messages : ∀ m ∈ p.messages, m.hidden = false

theorem ShowsAll.withoutHidden {p : Plugin} (h : p.ShowsAll) : p.withoutHidden = p := by
  have hmessages : p.shownMessages = p.messages := by
    rw [shownMessages, List.filter_eq_self]
    intro m hm
    rw [h.messages m hm]
    rfl
  simp only [Plugin.withoutHidden, h.version, h.crc, h.tags, hmessages, Bool.false_eq_true,
    if_false]

theorem foldedContains_empty {needle : String} (h : needle ≠ "") :
    foldedContains "" needle = false := by
  have hnil : needle.toList ≠ [] := fun heq => h (String.toList_eq_nil_iff.mp heq)
  simp only [foldedContains, Text.contains, Text.toList_lowercase]
  simpa [Text.lowerFrom, Text.occurs] using hnil

/-- A text that is emptied where it is hidden holds what it holds where it is not. -/
theorem foldedContains_emptied {needle : String} (h : needle ≠ "") (hidden : Bool)
    (text : String) :
    foldedContains (if hidden then "" else text) needle =
      (!hidden && foldedContains text needle) := by
  cases hidden with
  | false => rfl
  | true => exact foldedContains_empty h

variable (p : Plugin) (needle : String)

/-- **The two searches agree.** -/
theorem isVisible_eq_withoutHidden :
    p.isVisible needle = p.withoutHidden.matchesContent (Text.lowercase needle) := by
  by_cases hempty : Text.lowercase needle = ""
  · simp [isVisible, matchesContent, hempty]
  · have hadded : (if p.card.tagsHidden then ({} : TagTexts) else p.tagTexts).added =
        if p.card.tagsHidden then "" else p.tagTexts.added := by split <;> rfl
    have hremoved : (if p.card.tagsHidden then ({} : TagTexts) else p.tagTexts).removed =
        if p.card.tagsHidden then "" else p.tagTexts.removed := by split <;> rfl
    rw [isVisible_eq, matchesContent_eq]
    simp only [searchedTexts, withoutHidden, shownMessages, List.any_append, List.any_cons,
      List.any_nil, List.any_map, List.any_filter, Function.comp_def, hadded, hremoved,
      foldedContains_emptied hempty, Bool.not_false, Bool.true_and]

variable {p needle}

/-- A match of the search bar is one of the content filter. -/
theorem matchesContent_of_isVisible (h : p.isVisible needle = true) :
    p.matchesContent (Text.lowercase needle) = true := by
  rw [isVisible_eq, Bool.or_eq_true, List.any_eq_true] at h
  rcases h with hempty | ⟨t, ht, hfound⟩
  · rw [matchesContent, hempty]
    rfl
  · rw [Bool.and_eq_true] at hfound
    exact matchesContent_of_mem ht hfound.2

/-! ### Hiding more -/

/-- The same plugin, with all hidden that was and maybe more. -/
structure HidesMore (q p : Plugin) : Prop where
  same : q.bare = p.bare
  version : p.card.versionHidden = true → q.card.versionHidden = true
  crc : p.card.crcHidden = true → q.card.crcHidden = true
  tags : p.card.tagsHidden = true → q.card.tagsHidden = true
  messages : ∀ (i : Nat) (m m' : Message), p.messages[i]? = some m → q.messages[i]? = some m' →
    m.hidden = true → m'.hidden = true

/-- Hiding one message hides more, -/
theorem hidesMore_markMessage (p : Plugin) (index : Nat) :
    (p.markMessage index true).HidesMore p where
  same := by
    have hmessages : (p.messages.modify index fun m => { m with hidden := true }).map
        Message.unmarked = p.messages.map Message.unmarked := by
      apply List.ext_getElem?
      intro i
      rw [List.getElem?_map, List.getElem?_map, List.getElem?_modify]
      cases p.messages[i]? with
      | none => rfl
      | some m => by_cases hi : index = i <;> simp [hi, Message.unmarked]
    simp only [bare, markMessage, hmessages]
  version := fun h => h
  crc := fun h => h
  tags := fun h => h
  messages := by
    intro i m m' hm hm' hhidden
    rw [markMessage, List.getElem?_modify, hm] at hm'
    cases hm'
    by_cases hi : index = i
    · simp [hi]
    · simpa [hi] using hhidden

/-- and so does hiding any of the fields. -/
theorem hidesMore_card (p : Plugin) (version crc tags : Bool) :
    HidesMore
      { p with
        card :=
          { p.card with
            versionHidden := p.card.versionHidden || version
            crcHidden := p.card.crcHidden || crc
            tagsHidden := p.card.tagsHidden || tags } } p where
  same := rfl
  version := fun h => by rw [h, Bool.true_or]
  crc := fun h => by rw [h, Bool.true_or]
  tags := fun h => by rw [h, Bool.true_or]
  messages := by
    intro i m m' hm hm' hhidden
    rw [hm] at hm'
    cases hm'
    exact hhidden

/-- A text that is not hidden was not hidden before. -/
theorem HidesMore.exists_shown {q : Plugin} (h : q.HidesMore p) {t : SearchedText}
    (ht : t ∈ q.searchedTexts) (hshown : t.hidden = false) :
    ∃ u ∈ p.searchedTexts, u.text = t.text ∧ u.hidden = false := by
  have hbefore : ∀ {before now : Bool}, (before = true → now = true) → now = false →
      before = false := by
    intro before now himp hnow
    cases before with
    | false => rfl
    | true => rw [himp rfl] at hnow; cases hnow
  simp only [searchedTexts, List.mem_append, List.mem_cons, List.not_mem_nil, or_false,
    List.mem_map] at ht
  rcases ht with (rfl | rfl | rfl | rfl | rfl) | ⟨m', hm', rfl⟩
  · exact ⟨⟨p.name, false⟩, by simp [searchedTexts],
      (congrArg Plugin.name h.same).symm, rfl⟩
  · exact ⟨⟨p.crcText, p.card.crcHidden⟩, by simp [searchedTexts],
      (congrArg Plugin.crcText h.same).symm, hbefore h.crc hshown⟩
  · exact ⟨⟨p.version, p.card.versionHidden⟩, by simp [searchedTexts],
      (congrArg Plugin.version h.same).symm, hbefore h.version hshown⟩
  · exact ⟨⟨p.tagTexts.added, p.card.tagsHidden⟩, by simp [searchedTexts],
      congrArg TagTexts.added (congrArg Plugin.tagTexts h.same).symm, hbefore h.tags hshown⟩
  · exact ⟨⟨p.tagTexts.removed, p.card.tagsHidden⟩, by simp [searchedTexts],
      congrArg TagTexts.removed (congrArg Plugin.tagTexts h.same).symm, hbefore h.tags hshown⟩
  · obtain ⟨i, hi⟩ := List.mem_iff_getElem?.mp hm'
    have hmessages : q.messages.map Message.unmarked = p.messages.map Message.unmarked :=
      congrArg Plugin.messages h.same
    have hplace : (p.messages.map Message.unmarked)[i]? = some m'.unmarked := by
      rw [← hmessages, List.getElem?_map, hi]
      rfl
    rw [List.getElem?_map] at hplace
    obtain ⟨m, hm, hsame⟩ := Option.map_eq_some_iff.mp hplace
    have hcontent : m.unmarked.content = m'.unmarked.content := congrArg Message.content hsame
    refine ⟨⟨m.content, m.hidden⟩, ?_, hcontent, hbefore (h.messages i m m' hm hi) hshown⟩
    exact List.mem_append_right _ (List.mem_map.mpr ⟨m, List.mem_of_getElem? hm, rfl⟩)

/-- **Hiding adds no match.** -/
theorem HidesMore.isVisible {q : Plugin} (h : q.HidesMore p) (hq : q.isVisible needle = true) :
    p.isVisible needle = true := by
  rw [isVisible_eq, Bool.or_eq_true, List.any_eq_true] at hq
  rcases hq with hempty | ⟨t, ht, hfound⟩
  · rw [isVisible_eq, hempty]
    rfl
  · rw [Bool.and_eq_true, Bool.not_eq_true'] at hfound
    obtain ⟨u, hu, htext, hshown⟩ := h.exists_shown ht hfound.1
    exact isVisible_of_mem hu hshown (htext ▸ hfound.2)

theorem isVisible_lowercase (p : Plugin) (needle : String) :
    p.isVisible (Text.lowercase needle) = p.isVisible needle := by
  rw [isVisible_eq_withoutHidden, isVisible_eq_withoutHidden, Text.lowercase_lowercase]

/-- **The search bar against the content filter,** for every plugin with any marks and every
    needle.  The search bar finds what the content filter finds in the plugin without what
    is hidden; with nothing hidden the two agree; a match of the search bar is one of the
    content filter; hiding a field or a message adds no match; and the case of the needle
    does not matter. -/
theorem searches_agree (p : Plugin) (needle : String) :
    p.isVisible needle = p.withoutHidden.matchesContent (Text.lowercase needle) ∧
    (p.ShowsAll → p.isVisible needle = p.matchesContent (Text.lowercase needle)) ∧
    (p.isVisible needle = true → p.matchesContent (Text.lowercase needle) = true) ∧
    (∀ q : Plugin, q.HidesMore p → q.isVisible needle = true → p.isVisible needle = true) ∧
    p.isVisible (Text.lowercase needle) = p.isVisible needle := by
  refine ⟨isVisible_eq_withoutHidden p needle, ?_, matchesContent_of_isVisible,
    fun q hq => hq.isVisible, isVisible_lowercase p needle⟩
  intro hall
  rw [isVisible_eq_withoutHidden, hall.withoutHidden]

/-- A message in capitals that holds an `İ` is found until it is hidden, and so is a version. -/
theorem searches_agree_marked :
    let message : ReportedMessage := { severity := .warn, texts := [{ text := "DİKKAT" }] }
    let p := Plugin.ofData "A.esp" { version := "2.0", messages := [message] }
    let q := p.markMessage 0 true
    let r := { p with card := { p.card with versionHidden := true } }
    p.ShowsAll ∧ p.isVisible "dİK" = p.matchesContent (Text.lowercase "dİK") ∧
      p.isVisible "dİK" = true ∧ p.matchesContent (Text.lowercase "dİK") = true ∧
      q.HidesMore p ∧ q.isVisible "dİK" = false ∧
      q.isVisible "a.E" = true ∧ p.isVisible "a.E" = true ∧
      r.HidesMore p ∧ p.isVisible "2.0" = true ∧ r.isVisible "2.0" = false := by
  intro message p q r
  have hall : p.ShowsAll :=
    ⟨rfl, rfl, rfl, by simp [p, Plugin.ofData, Message.ofReported]⟩
  have hfound : p.isVisible "dİK" = true := by decide +kernel
  have hq : q.HidesMore p := hidesMore_markMessage p 0
  have hname : q.isVisible "a.E" = true := by decide +kernel
  have hr : r.HidesMore p := hidesMore_card p true false false
  obtain ⟨-, hsame, hcontent, -⟩ := searches_agree p "dİK"
  exact ⟨hall, hsame hall, hfound, hcontent hfound, hq, by decide +kernel, hname,
    (searches_agree p "a.E").2.2.2.1 q hq hname, hr, by decide +kernel, by decide +kernel⟩

end Plugin

end LoadOrder
