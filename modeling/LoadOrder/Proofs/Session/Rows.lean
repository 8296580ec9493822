/-
  LoadOrder/Proofs/Session/Rows.lean
  ==================================
  **The rows on the screen are those of the load order.**

  The view names plugins by their places, and the selection names a row of the view.
  Both outlive what they were made from: a load order is replaced while the pass that
  belongs to it is put off, and a selection stays where it is while rows go.  Still
  every row is that of a plugin, the rows stand in load order, the selected one is
  there, and no plugin is marked that has no row (`Rows`).
-/
import LoadOrder.Proofs.Session.Lasting

namespace LoadOrder

theorem Merge.map_card_editFirst (name : String) (e : Edit) (l : List Plugin) :
    (Merge.editFirst name e l).map Plugin.card = l.map Plugin.card := by
  induction l with
  | nil => rfl
  | cons p rest ih =>
    rw [editFirst]
    split
    · rw [List.map_cons, List.map_cons, Plugin.edit_eq]
    · rw [List.map_cons, List.map_cons, ih]

namespace Session

variable {s t : Session}

/-- The rows are places of the load order, in its order; the selected one is there; and
    the search marks no plugin without a row. -/
structure Rows (s : Session) : Prop where
  sorted : s.view.shown.Pairwise (· < ·)
  inside : ∀ i ∈ s.view.shown, i < s.plugins.length
  selected : IsRow s.view.shown s.selected
  found : ∀ i p, s.plugins[i]? = some p → p.card.found = true → i ∈ s.view.shown

theorem Rows.congr (h : s.Rows)
    (hfound : (t.plugins.map fun p => p.card.found) = s.plugins.map fun p => p.card.found)
    (hview : t.view = s.view) (hselected : IsRow s.view.shown t.selected) : t.Rows where
  sorted := hview ▸ h.sorted
  inside := by
    have hlength := congrArg List.length hfound
    rw [List.length_map, List.length_map] at hlength
    rw [hview, hlength]
    exact h.inside
  selected := hview ▸ hselected
  found := by
    intro i p hp hmark
    have hat := congrArg (fun marks => marks[i]?) hfound
    simp only [List.getElem?_map, hp, Option.map_some] at hat
    obtain ⟨q, hq, hsame⟩ := Option.map_eq_some_iff.mp hat.symm
    rw [hview]
    exact h.found i q hq (hsame.trans hmark)

/-- A search marks plugins that have a row, whatever was marked before. -/
theorem rows_search (hsorted : s.view.shown.Pairwise (· < ·))
    (hinside : ∀ i ∈ s.view.shown, i < s.plugins.length) (hrow : IsRow s.view.shown s.selected)
    (needle : String) : (s.search needle).Rows where
  sorted := hsorted
  inside := by
    rw [search, List.length_mapIdx]
    exact hinside
  selected := hrow
  found := by
    intro i p hp hmark
    simp only [search, List.getElem?_mapIdx, Option.map_eq_some_iff] at hp
    obtain ⟨q, -, rfl⟩ := hp
    simp only [Bool.and_eq_true] at hmark
    exact List.contains_iff_mem.mp hmark.2.1

theorem rows_finishRefresh (s : Session) (names : Names) : (s.finishRefresh names).Rows := by
  apply rows_search
  · exact View.pairwise_indicesFrom
  · intro i hi
    obtain ⟨k, p, hk, hp, -⟩ := View.mem_indicesFrom.mp hi
    obtain ⟨hlt, -⟩ := List.getElem?_eq_some_iff.mp hp
    show i < (View.changeAt _ _ s.plugins).length
    rw [View.changeAt, List.length_mapIdx]
    omega
  · exact Lasting.isRow_clampSelection _

theorem rows_loaded (s : Session) (title : Option String) (plugins : List Plugin) :
    (s.loaded title plugins).Rows := by
  have hlength : (s.loaded title plugins).plugins.length = plugins.length := List.length_map _
  constructor
  · exact List.pairwise_lt_range
  · intro i hi
    rw [hlength]
    exact List.mem_range.mp hi
  · show IsRow (List.range plugins.length) 0
    cases plugins with
    | nil => exact .inr ⟨rfl, rfl⟩
    | cons p rest =>
      left
      rw [List.length_range]
      exact Nat.zero_lt_succ _
  · intro i p hp _
    obtain ⟨hlt, -⟩ := List.getElem?_eq_some_iff.mp hp
    rw [hlength] at hlt
    exact List.mem_range.mpr hlt

theorem lasting_rows {Loaded : Plugin → Prop} : Lasting Loaded Rows where
  same := by
    intro s t h hplugins _ hview hselected
    exact h.congr (by rw [hplugins]) hview (hselected ▸ h.selected)
  load := fun title _ _ _ => rows_loaded _ title _
  edit := by
    intro s name e h
    have hcards := congrArg (List.map Card.found) (Merge.map_card_editFirst name e s.plugins)
    rw [List.map_map, List.map_map] at hcards
    exact h.congr hcards rfl h.selected
  criteria := fun _ _ _ h => h.congr rfl rfl h.selected
  cards := by
    intro s toggles h
    refine h.congr ?_ rfl h.selected
    rw [showCards, List.map_map]
    rfl
  pass := fun names _ => rows_finishRefresh _ names
  search := fun needle h => rows_search h.sorted h.inside h.selected needle
  select := fun _ hrow h => h.congr rfl rfl hrow

theorem Rows.perform (h : s.Rows) (a : Act) : (s.perform a).Rows :=
  lasting_rows.perform_of_restore (fun _ hs => hs.congr rfl rfl hs.selected) h a.loadsOnly_true

/-! ### Results -/

theorem found_search (s : Session) (needle : String) {i : Nat} (hi : i ∈ s.view.shown) :
    (match (s.search needle).plugins[i]? with
      | some p => p.card.found
      | none => false) = (needle != "" && s.isMatch needle i) := by
  have hshown : s.view.shown.contains i = true := List.contains_iff_mem.mpr hi
  simp only [search, List.getElem?_mapIdx, isMatch, hshown, Bool.true_and]
  cases s.plugins[i]? with
  | none => simp
  | some p => rfl

/-- **A search says how many rows it has marked,** whatever session it is made in. -/
theorem length_searchResults_search (s : Session) (needle : String) :
    (s.search needle).searchResults.length = s.matchCount needle := by
  calc (s.search needle).searchResults.length
      = s.view.shown.countP fun i => needle != "" && s.isMatch needle i := by
        rw [searchResults, View.length_indicesFrom]
        apply List.countP_congr
        exact fun i hi => Bool.eq_iff_iff.mp (found_search s needle hi)
    _ = s.matchCount needle := by
        rw [matchCount]
        split
        · rename_i hempty
          rw [hempty, List.countP_eq_zero]
          exact fun _ _ => Bool.false_ne_true
        · rename_i hneedle
          rw [bne_iff_ne.mpr hneedle]
          rfl

end Session

end LoadOrder
