/-
  LoadOrder/Proofs/Session/Criteria.lean
  ======================================
  **The criteria are kept tidy, and the cards with them.**

  The needle of the content filter is stored without the blanks around it, so that the
  same filter is always the same text (`lasting_trimmed`).

  The three display switches are kept twice, in the criteria and on every card.  A
  plugin comes to the load order with an empty card, and an edit or a finding leaves
  the card alone; so the cards have to be written anew with every load order, and they
  are (`lasting_carded`).
-/
import LoadOrder.Proofs.Session.Rows
import LoadOrder.Proofs.Text.Trimmed

namespace LoadOrder

/-! ### Cards -/

/-- The display switches on a card. -/
def Card.switches (c : Card) : Card := { c with found := false }

theorem Plugin.map_switches_of_map_unmarked {l l' : List Plugin}
    (h : l'.map Plugin.unmarked = l.map Plugin.unmarked) :
    (l'.map fun p => p.card.switches) = l.map fun p => p.card.switches := by
  have hcards := congrArg (List.map Plugin.card) h
  rw [List.map_map, List.map_map] at hcards
  exact hcards

namespace Session

variable {s t : Session}

/-- Every card shows what the switches say. -/
def Carded (s : Session) : Prop := ∀ p ∈ s.plugins, p.card.switches = s.criteria.toggles.card

theorem Carded.congr (h : s.Carded)
    (hcards : (t.plugins.map fun p => p.card.switches) = s.plugins.map fun p => p.card.switches)
    (htoggles : t.criteria.toggles.card = s.criteria.toggles.card) : t.Carded := by
  intro p hp
  have hmem : p.card.switches ∈ s.plugins.map fun p => p.card.switches :=
    hcards ▸ List.mem_map_of_mem hp
  obtain ⟨q, hq, heq⟩ := List.mem_map.mp hmem
  rw [htoggles, ← heq]
  exact h q hq

theorem carded_showCards (s : Session) : s.showCards.Carded := by
  intro p hp
  obtain ⟨q, -, rfl⟩ := List.mem_map.mp hp
  rfl

theorem lasting_trimmed {Loaded : Plugin → Prop} :
    Lasting Loaded fun s => Text.Trimmed s.criteria.needle where
  same := by
    intro s t h _ hcriteria _ _
    rw [hcriteria]
    exact h
  load := fun _ _ _ h => h
  edit := fun _ _ h => h
  criteria := by
    intro s c hneedle _ h
    rcases hneedle with hsame | ⟨value, htrim⟩
    · rw [hsame]
      exact h
    · rw [htrim]
      exact Text.trimmed_trim value
  cards := fun _ h => h
  pass := fun _ h => h
  search := fun _ h => h
  select := fun _ _ h => h

theorem trimmed_perform (h : Text.Trimmed s.criteria.needle) (a : Act) :
    Text.Trimmed (s.perform a).criteria.needle :=
  lasting_trimmed.perform_of_restore (fun _ hs => hs) h a.loadsOnly_true

theorem lasting_carded {Loaded : Plugin → Prop} : Lasting Loaded Carded where
  same := by
    intro s t h hplugins hcriteria _ _
    exact h.congr (by rw [hplugins]) (by rw [hcriteria])
  load := fun _ _ _ _ => carded_showCards _
  edit := by
    intro s name e h
    have hcards := congrArg (List.map Card.switches) (Merge.map_card_editFirst name e s.plugins)
    rw [List.map_map, List.map_map] at hcards
    exact h.congr hcards rfl
  criteria := fun _ _ hcards h => h.congr rfl hcards
  cards := fun _ _ => carded_showCards _
  pass := fun names h =>
    h.congr (Plugin.map_switches_of_map_unmarked (finishRefresh_unmarked _ names)) rfl
  search := fun needle h =>
    h.congr (Plugin.map_switches_of_map_unmarked (search_unmarked _ needle)) rfl
  select := fun _ _ h => h

/-- Applying the switches puts the cards right, whatever they have shown before. -/
theorem carded_applyToggles (s : Session) : s.applyToggles.Carded := by
  rcases applyToggles_eq s with heq | heq <;> rw [heq]
  · exact carded_showCards s.refresh
  · exact carded_showCards s

end Session

end LoadOrder
