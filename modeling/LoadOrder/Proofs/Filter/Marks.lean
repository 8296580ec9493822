/-
  LoadOrder/Proofs/Filter/Marks.lean
  ==================================
  **The filters and the totals do not look at marks.**

  A plugin carries marks that only say how it is drawn: the hidden marks of its
  messages, and its card.  A filter pass writes the first, a search and the display
  switches the second, so a pass would feed on itself if its predicates read them.
  They do not: a view (`View.of_congr`) and the totals (`Totals.ofPlugins_congr`)
  are the same for load orders that are equal without their marks (`Plugin.bare`).

  A filter pass and a search leave even more alone: the positions of the display
  switches on the card stay (`Plugin.unmarked`).
-/
import LoadOrder.Filter.View
import LoadOrder.Totals

namespace LoadOrder

/-! ### Plugins without marks -/

/-- The message without its mark. -/
def Message.unmarked (m : Message) : Message := { m with hidden := false }

namespace Plugin

/-- The plugin without the marks of a filter pass and of a search. -/
def unmarked (p : Plugin) : Plugin :=
  { p with card := { p.card with found := false }, messages := p.messages.map Message.unmarked }

/-- The plugin without the marks of its messages and without its card. -/
def bare (p : Plugin) : Plugin :=
  { p with card := {}, messages := p.messages.map Message.unmarked }

theorem bare_unmarked (p : Plugin) : p.unmarked.bare = p.bare := by
  have hmap : (p.messages.map Message.unmarked).map Message.unmarked =
      p.messages.map Message.unmarked := by
    rw [List.map_map]
    rfl
  simp only [bare, unmarked, hmap]

theorem map_bare_of_map_unmarked {l l' : List Plugin}
    (h : l.map unmarked = l'.map unmarked) : l.map bare = l'.map bare := by
  have hbare : ∀ k : List Plugin, k.map bare = (k.map unmarked).map bare := by
    intro k
    rw [List.map_map]
    exact List.map_congr_left fun p _ => (bare_unmarked p).symm
  rw [hbare l, hbare l', h]

theorem sumOf_map (f : Plugin → Nat) (g : Plugin → Plugin) (l : List Plugin) :
    sumOf f (l.map g) = sumOf (fun p => f (g p)) l := by
  induction l with
  | nil => rfl
  | cons p rest ih => simp only [List.map_cons, sumOf, ih]

theorem sumOf_le {f g : Plugin → Nat} {l : List Plugin} (h : ∀ p ∈ l, f p ≤ g p) :
    sumOf f l ≤ sumOf g l := by
  induction l with
  | nil => exact Nat.le_refl _
  | cons p rest ih =>
    exact Nat.add_le_add (h p List.mem_cons_self)
      (ih fun q hq => h q (List.mem_cons_of_mem _ hq))

theorem le_sumOf (f : Plugin → Nat) {l : List Plugin} {p : Plugin} (h : p ∈ l) :
    f p ≤ sumOf f l := by
  induction h with
  | head => exact Nat.le_add_right _ _
  | tail q _ ih => exact Nat.le_trans ih (Nat.le_add_left _ _)

theorem countP_eq_sumOf (test : Plugin → Bool) (l : List Plugin) :
    l.countP test = sumOf (fun p => if test p then 1 else 0) l := by
  induction l with
  | nil => rfl
  | cons p rest ih =>
    rw [List.countP_cons, sumOf, ih]
    omega

end Plugin

/-! ### What the filters read -/

namespace Criteria

variable (c : Criteria)

theorem hiddenMessages_bare (p : Plugin) : c.hiddenMessages p.bare = c.hiddenMessages p := by
  unfold hiddenMessages
  simp only [Plugin.bare, List.length_map, List.countP_map]
  rfl

theorem hiddenMessages_le (p : Plugin) : c.hiddenMessages p ≤ p.messages.length := by
  unfold hiddenMessages
  split
  · exact List.countP_le_length
  · exact Nat.le_refl _

theorem shows_bare (names : Names) (needle : String) (p : Plugin) :
    c.shows names needle p.bare = c.shows names needle p := by
  have hless : c.passesMessageless p.bare = c.passesMessageless p := by
    unfold passesMessageless
    rw [hiddenMessages_bare]
    simp only [Plugin.bare, List.length_map]
  have hcontent : p.bare.matchesContent needle = p.matchesContent needle := by
    unfold Plugin.matchesContent
    simp only [Plugin.bare, List.any_map]
    rfl
  unfold shows
  rw [hless, hcontent]
  rfl

theorem markMessages_unmarked (p : Plugin) : (c.markMessages p).unmarked = p.unmarked := by
  unfold markMessages Plugin.unmarked
  simp only [List.map_map]
  rfl

end Criteria

namespace View

theorem indicesFrom_map {α β : Type} (test : β → Bool) (g : α → β) (start : Nat) (l : List α) :
    indicesFrom test start (l.map g) = indicesFrom (fun a => test (g a)) start l := by
  induction l generalizing start with
  | nil => rfl
  | cons a rest ih => simp only [List.map_cons, indicesFrom, ih]

theorem of_map_bare (c : Criteria) (names : Names) (l : List Plugin) :
    View.of c names (l.map Plugin.bare) = View.of c names l := by
  simp only [View.of, indicesFrom_map, List.countP_map, Plugin.sumOf_map, Function.comp_def,
    Criteria.shows_bare, Criteria.hiddenMessages_bare]

/-- **The view does not depend on marks.** -/
theorem of_congr (c : Criteria) (names : Names) {l l' : List Plugin}
    (h : l.map Plugin.bare = l'.map Plugin.bare) : View.of c names l = View.of c names l' := by
  rw [← of_map_bare c names l, h, of_map_bare]

/-- A display switch does not change a view. -/
theorem of_set_displayOnly (c : Criteria) (names : Names) (l : List Plugin) {toggle : Toggle}
    (h : toggle.isDisplayOnly = true) (on : Bool) :
    View.of { c with toggles := c.toggles.set toggle on } names l = View.of c names l := by
  cases toggle <;> first | rfl | cases h

/-- The messages that a view counts as hidden are among those that there are. -/
theorem of_hiddenMessages_le (c : Criteria) (names : Names) (l : List Plugin) :
    (View.of c names l).hiddenMessages ≤ (Totals.ofPlugins l).messages :=
  Plugin.sumOf_le fun p _ => c.hiddenMessages_le p

/-! ### What a pass and a search write -/

/-- A change that `f` does not see, made at any places, leaves what `f` sees of the
    load order. -/
theorem map_mapIdx_of_eq {β : Type} (f : Plugin → β) {g : Nat → Plugin → Plugin}
    (h : ∀ i p, f (g i p) = f p) (l : List Plugin) : (l.mapIdx g).map f = l.map f := by
  apply List.ext_getElem?
  intro i
  simp only [List.getElem?_map, List.getElem?_mapIdx, Option.map_map]
  cases l[i]? with
  | none => rfl
  | some p => exact congrArg some (h i p)

theorem changeAt_markMessages_unmarked (c : Criteria) (shown : List Nat) (l : List Plugin) :
    (changeAt shown c.markMessages l).map Plugin.unmarked = l.map Plugin.unmarked := by
  apply map_mapIdx_of_eq
  intro i p
  split
  · exact c.markMessages_unmarked p
  · rfl

end View

/-! ### What the totals count -/

/-- **The totals do not depend on marks.** -/
theorem Totals.ofPlugins_congr {l l' : List Plugin}
    (h : l.map Plugin.bare = l'.map Plugin.bare) : Totals.ofPlugins l = Totals.ofPlugins l' := by
  have hbare : ∀ k : List Plugin, Totals.ofPlugins (k.map Plugin.bare) = Totals.ofPlugins k := by
    intro k
    unfold Totals.ofPlugins Tally.ofMessages
    simp only [Plugin.sumOf_map, List.countP_map, Plugin.bare, List.length_map]
    rfl
  rw [← hbare l, h, hbare]

end LoadOrder
