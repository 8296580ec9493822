/-
  LoadOrder/Proofs/Filter/Narrowing.lean
  ======================================
  **Stricter filters show less and hide more.**

  Criteria are tighter than others if every switch that was on is still on and what is
  searched for has become longer (`Criteria.Tightens`); a conflict set is tighter if it has
  become smaller, except that the empty set stands for all plugins, so that a set may
  tighten the empty one but must not itself become empty (`Names.Tightens`).

  The predicates are monotone one by one.  The one that needs care is that of the plugins
  without messages: it is on or off by its own switch, but reads how many messages the
  other switches hide, and that number is counted in two ways.  Counted message by message
  (`Criteria.hiddenMessages_eq_countP`) it can only grow.
-/
import LoadOrder.Proofs.Filter.Count
import LoadOrder.Proofs.Filter.Search

namespace LoadOrder

/-- Where one test passes all that another passes, it fails no more often. -/
theorem countP_not_le {α : Type} {test test' : α → Bool}
    (h : ∀ a, test' a = true → test a = true) (l : List α) :
    (l.countP fun a => !test a) ≤ l.countP fun a => !test' a := by
  apply List.countP_mono_left
  intro a _ ha
  cases ha' : test' a with
  | false => rfl
  | true =>
    rw [h a ha'] at ha
    cases ha

/-! ### Tighter criteria -/

/-- Every switch that is on stays on, and the needle holds the needle from before. -/
structure Criteria.Tightens (d c : Criteria) : Prop where
  toggles : ∀ toggle, c.toggles.get toggle = true → d.toggles.get toggle = true
  needle : (Text.lowercase c.needle).toList <:+: (Text.lowercase d.needle).toList
  phrase : d.phrase = c.phrase

/-- There was no set of names before, or there is one still, with no other names. -/
def Names.Tightens (names' names : Names) : Prop :=
  names = [] ∨ (names ≠ [] ∧ names' ≠ [] ∧ names' ⊆ names)

theorem Criteria.tightens_set (c : Criteria) (toggle : Toggle) :
    Criteria.Tightens { c with toggles := c.toggles.set toggle true } c where
  toggles := by
    intro other hother
    by_cases h : toggle = other
    · rw [← h, Toggles.get_set_self]
    · rw [Toggles.get_set_of_ne _ h]
      exact hother
  needle := List.infix_refl _
  phrase := rfl

namespace Criteria.Tightens

variable {c d : Criteria}

/-- Behind a switch a test passes what a stricter test passes behind the tighter one. -/
theorem behind (h : d.Tightens c) (toggle : Toggle) {test test' : Bool}
    (htest : test' = true → test = true) (hp : (!d.toggles.get toggle || test') = true) :
    (!c.toggles.get toggle || test) = true := by
  simp only [Bool.or_eq_true, Bool.not_eq_true'] at hp ⊢
  rcases hp with hoff | hpasses
  · left
    -- a switch that is off now was off before
    cases hon : c.toggles.get toggle with
    | false => rfl
    | true => rw [h.toggles toggle hon] at hoff; cases hoff
  · exact .inr (htest hpasses)

/-! ### Messages -/

theorem passesNotes (h : d.Tightens c) {m : Message} (hm : d.passesNotes m = true) :
    c.passesNotes m = true :=
  h.behind .hideNotes id hm

theorem passesPhrase (h : d.Tightens c) {m : Message} (hm : d.passesPhrase m = true) :
    c.passesPhrase m = true := by
  simp only [Criteria.passesPhrase, Bool.or_assoc, h.phrase] at hm ⊢
  exact h.behind .hideDoNotClean id hm

theorem passesMessages (h : d.Tightens c) (hd : d.passesMessages = true) :
    c.passesMessages = true := by
  have hd' : (!d.toggles.get .hideAllMessages || false) = true := by
    rw [Bool.or_false]
    exact hd
  have hc := h.behind .hideAllMessages id hd'
  rwa [Bool.or_false] at hc

theorem showsMessage (h : d.Tightens c) {m : Message} (hm : d.showsMessage m = true) :
    c.showsMessage m = true := by
  simp only [Criteria.showsMessage, Bool.and_eq_true] at hm ⊢
  obtain ⟨hmessages, hnotes, hphrase⟩ := hm
  exact ⟨h.passesMessages hmessages, h.passesNotes hnotes, h.passesPhrase hphrase⟩

theorem hiddenMessages_le (h : d.Tightens c) (p : Plugin) :
    c.hiddenMessages p ≤ d.hiddenMessages p := by
  rw [hiddenMessages_eq_countP, hiddenMessages_eq_countP]
  exact countP_not_le (fun _ hm => h.showsMessage hm) p.messages

/-! ### Plugins -/

theorem passesMessageless (h : d.Tightens c) {p : Plugin} (hp : d.passesMessageless p = true) :
    c.passesMessageless p = true := by
  refine h.behind .hideMessageless ?_ hp
  intro hleft
  have hcount := h.hiddenMessages_le p
  simp only [decide_eq_true_eq] at hleft ⊢
  omega

theorem passesActive (h : d.Tightens c) {p : Plugin} (hp : d.passesActive p = true) :
    c.passesActive p = true :=
  h.behind .hideInactive id hp

end Criteria.Tightens

namespace Plugin

theorem passesConflicts_of_tightens {names names' : Names} (h : names'.Tightens names)
    {p : Plugin} (hp : p.passesConflicts names' = true) : p.passesConflicts names = true := by
  simp only [passesConflicts, Bool.or_eq_true, List.isEmpty_iff, List.contains_iff_mem] at hp ⊢
  rcases h with hempty | ⟨-, hnames', hsub⟩
  · exact .inl hempty
  · right
    rcases hp with hempty' | hmem
    · exact absurd hempty' hnames'
    · exact hsub hmem

/-- A text that holds a needle holds every part of it. -/
theorem foldedContains_of_infix {text needle needle' : String}
    (h : needle.toList <:+: needle'.toList) (hfound : foldedContains text needle' = true) :
    foldedContains text needle = true := by
  simp only [foldedContains, Text.contains, Text.occurs_iff] at hfound ⊢
  exact h.trans hfound

theorem matchesContent_of_infix {p : Plugin} {needle needle' : String}
    (h : needle.toList <:+: needle'.toList) (hp : p.matchesContent needle' = true) :
    p.matchesContent needle = true := by
  simp only [matchesContent_eq, Bool.or_eq_true, beq_iff_eq, List.any_eq_true] at hp ⊢
  rcases hp with rfl | ⟨t, ht, hfound⟩
  · left
    exact String.toList_injective (List.infix_nil.mp h)
  · exact .inr ⟨t, ht, foldedContains_of_infix h hfound⟩

end Plugin

/-- **What tighter criteria show** was shown before. -/
theorem Criteria.Tightens.shows {c d : Criteria} {names names' : Names} (h : d.Tightens c)
    (hnames : names'.Tightens names) {p : Plugin}
    (hp : d.shows names' (Text.lowercase d.needle) p = true) :
    c.shows names (Text.lowercase c.needle) p = true := by
  simp only [Criteria.shows, Bool.and_eq_true] at hp ⊢
  obtain ⟨hmessageless, hactive, hconflicts, hcontent⟩ := hp
  exact ⟨h.passesMessageless hmessageless, h.passesActive hactive,
    Plugin.passesConflicts_of_tightens hnames hconflicts,
    Plugin.matchesContent_of_infix h.needle hcontent⟩

/-! ### Views -/

namespace View

theorem indicesFrom_sublist {α : Type} {test test' : α → Bool}
    (h : ∀ a, test' a = true → test a = true) (start : Nat) (l : List α) :
    (indicesFrom test' start l).Sublist (indicesFrom test start l) := by
  induction l generalizing start with
  | nil => exact List.Sublist.refl _
  | cons a rest ih =>
    simp only [indicesFrom]
    by_cases ha' : test' a = true
    · rw [if_pos ha', if_pos (h a ha')]
      exact (ih (start + 1)).cons_cons start
    · rw [if_neg ha']
      split
      · exact (ih (start + 1)).cons start
      · exact ih (start + 1)

/-- What is counted as hidden, by the messages of the plugins alone. -/
theorem hiddenMessages_of (c : Criteria) (names : Names) (l : List Plugin) :
    (View.of c names l).hiddenMessages =
      (l.map fun p => p.messages.map Message.unmarked).foldr
        (fun ms n => (ms.countP fun m => !c.showsMessage m) + n) 0 := by
  show Plugin.sumOf c.hiddenMessages l = _
  induction l with
  | nil => rfl
  | cons p rest ih =>
    have hfirst : c.hiddenMessages p =
        (p.messages.map Message.unmarked).countP fun m => !c.showsMessage m := by
      rw [c.hiddenMessages_eq_countP, List.countP_map]
      rfl
    simp only [Plugin.sumOf, List.map_cons, List.foldr_cons, hfirst, ih]

/-- **Tighter filters narrow the view,** on every load order.  The shown plugins are a part
    of those that were shown, in the same order, and no fewer plugins and messages are
    hidden.  In every view the places of the shown plugins ascend and are places of the
    load order, and with the hidden ones they are all the plugins.  And how many messages
    are hidden depends on nothing but the three switches that judge messages, the phrase
    and the messages themselves without their marks. -/
theorem narrowed_of (l : List Plugin) :
    (∀ (c d : Criteria) (names names' : Names), d.Tightens c → names'.Tightens names →
      (View.of d names' l).shown.Sublist (View.of c names l).shown ∧
      (View.of c names l).hiddenPlugins ≤ (View.of d names' l).hiddenPlugins ∧
      (View.of c names l).hiddenMessages ≤ (View.of d names' l).hiddenMessages) ∧
    (∀ (c : Criteria) (names : Names),
      (View.of c names l).shown.Pairwise (· < ·) ∧
      (∀ i ∈ (View.of c names l).shown, i < l.length) ∧
      (View.of c names l).shown.length + (View.of c names l).hiddenPlugins = l.length) ∧
    ∀ (c d : Criteria) (names names' : Names) (l' : List Plugin),
      d.toggles.hideNotes = c.toggles.hideNotes →
      d.toggles.hideDoNotClean = c.toggles.hideDoNotClean →
      d.toggles.hideAllMessages = c.toggles.hideAllMessages →
      d.phrase = c.phrase →
      (l'.map fun p => p.messages.map Message.unmarked) =
        (l.map fun p => p.messages.map Message.unmarked) →
      (View.of d names' l').hiddenMessages = (View.of c names l).hiddenMessages := by
  refine ⟨?_, ?_, ?_⟩
  · intro c d names names' hcriteria hnames
    have hshows : ∀ p, d.shows names' (Text.lowercase d.needle) p = true →
        c.shows names (Text.lowercase c.needle) p = true :=
      fun p hp => hcriteria.shows hnames hp
    exact ⟨indicesFrom_sublist hshows 0 l, countP_not_le hshows l,
      Plugin.sumOf_le fun p _ => hcriteria.hiddenMessages_le p⟩
  · intro c names
    refine ⟨pairwise_indicesFrom, ?_, ?_⟩
    · intro i hi
      obtain ⟨k, p, hk, hp, -⟩ := mem_indicesFrom.mp hi
      have hlt : k < l.length := (List.getElem?_eq_some_iff.mp hp).1
      omega
    · rw [View.of, length_indicesFrom, List.length_eq_countP_add_countP
        (c.shows names (Text.lowercase c.needle))]
      simp only [Bool.not_eq_true, Bool.decide_eq_false]
  · intro c d names names' l' hnotes hclean hall hphrase hmessages
    have hshows : ∀ m, d.showsMessage m = c.showsMessage m := by
      intro m
      simp only [Criteria.showsMessage, Criteria.passesMessages, Criteria.passesNotes,
        Criteria.passesPhrase, hnotes, hclean, hall, hphrase]
    simp only [hiddenMessages_of, hmessages, hshows]

/-- Notes are hidden as well, more is searched for, and the conflict set loses a name. -/
theorem narrowed_of_notes :
    let note : ReportedMessage := { severity := .note, texts := [{ text := "Bashed" }] }
    let l := [Plugin.ofData "A.esp" { messages := [note] }, Plugin.ofData "B.esp" {}]
    let marked := l.map fun p => { p with card := { found := true } }
    let c : Criteria := { needle := "A" }
    let d : Criteria := { c with toggles := { hideNotes := true }, needle := "a.ES" }
    d.Tightens c ∧ Names.Tightens ["A.esp"] ["A.esp", "B.esp"] ∧
      (View.of d ["A.esp"] l).shown.Sublist (View.of c ["A.esp", "B.esp"] l).shown ∧
      (View.of c ["A.esp", "B.esp"] l).hiddenMessages = 0 ∧
      (View.of d ["A.esp"] l).hiddenMessages = 1 ∧
      (View.of { d with needle := "" } [] marked).hiddenMessages =
        (View.of d ["A.esp"] l).hiddenMessages := by
  intro note l marked c d
  have hcriteria : d.Tightens c :=
    { c.tightens_set .hideNotes with needle := by decide +kernel }
  have hnames : Names.Tightens ["A.esp"] ["A.esp", "B.esp"] := by
    right
    simp
  obtain ⟨htighter, -, hcount⟩ := narrowed_of l
  exact ⟨hcriteria, hnames, (htighter c d _ _ hcriteria hnames).1, by decide, by decide,
    hcount d { d with needle := "" } _ _ marked rfl rfl rfl rfl rfl⟩

end View

end LoadOrder
