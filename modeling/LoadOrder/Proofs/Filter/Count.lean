/-
  LoadOrder/Proofs/Filter/Count.lean
  ==================================
  **What a filter pass counts is what it marks.**

  A pass counts the hidden messages of every plugin before it marks any, and it
  marks those of the shown plugins only; the switch that hides all messages is asked
  in another place each time.  The count and the marks still agree plugin by plugin
  (`Plugin.countP_hidden_of_marked`).

  A view splits a load order into the plugins it shows and the others
  (`View.plugins_of`, `View.others_of`), so a sum over the load order is the sum over
  both parts (`View.sumOf_of`).
-/
import LoadOrder.Proofs.Filter.Marks

namespace LoadOrder

/-! ### One plugin -/

namespace Criteria

variable (c : Criteria)

theorem hiddenMessages_eq_countP (p : Plugin) :
    c.hiddenMessages p = p.messages.countP fun m => !c.showsMessage m := by
  unfold hiddenMessages showsMessage
  cases c.passesMessages with
  | true => simp only [if_true, Bool.true_and]
  | false => simp

theorem hiddenMessages_add_countP (p : Plugin) :
    c.hiddenMessages p + p.messages.countP c.showsMessage = p.messages.length := by
  rw [hiddenMessages_eq_countP, List.length_eq_countP_add_countP c.showsMessage, Nat.add_comm]
  simp only [Bool.not_eq_true, Bool.decide_eq_false]

/-- Plugins that are equal without their marks have as many hidden messages. -/
theorem hiddenMessages_congr {p q : Plugin} (h : q.bare = p.bare) :
    c.hiddenMessages q = c.hiddenMessages p := by
  rw [← c.hiddenMessages_bare q, h, c.hiddenMessages_bare]

end Criteria

namespace Plugin

section

variable {c : Criteria} {q : Plugin}

/-- **The marks are as many as were counted.** -/
theorem countP_hidden_of_marked (h : ∀ m ∈ q.messages, m.hidden = !c.showsMessage m) :
    q.messages.countP Message.hidden = c.hiddenMessages q := by
  rw [Criteria.hiddenMessages_eq_countP]
  apply List.countP_congr
  intro m hm
  rw [h m hm]

theorem length_shownMessages_of_marked (h : ∀ m ∈ q.messages, m.hidden = !c.showsMessage m) :
    q.shownMessages.length = q.messages.countP c.showsMessage := by
  rw [shownMessages, ← List.countP_eq_length_filter]
  apply List.countP_congr
  intro m hm
  rw [h m hm, Bool.not_not]

end

theorem sumOf_congr {f g : Plugin → Nat} {l : List Plugin} (h : ∀ p ∈ l, f p = g p) :
    sumOf f l = sumOf g l := by
  induction l with
  | nil => rfl
  | cons p rest ih =>
    rw [sumOf, sumOf, h p List.mem_cons_self, ih fun q hq => h q (List.mem_cons_of_mem _ hq)]

theorem sumOf_add (f g : Plugin → Nat) (l : List Plugin) :
    sumOf (fun p => f p + g p) l = sumOf f l + sumOf g l := by
  induction l with
  | nil => rfl
  | cons p rest ih =>
    simp only [sumOf, ih]
    omega

/-- A test splits a sum in two. -/
theorem sumOf_filter (f : Plugin → Nat) (test : Plugin → Bool) (l : List Plugin) :
    sumOf f (l.filter test) + sumOf f (l.filter fun p => !test p) = sumOf f l := by
  induction l with
  | nil => rfl
  | cons p rest ih =>
    cases h : test p <;>
      simp only [List.filter_cons, h, Bool.not_true, Bool.not_false, Bool.false_eq_true, if_true,
        if_false, sumOf] <;>
      omega

end Plugin

/-! ### The indices of a view -/

namespace View

section

variable {α : Type} {test : α → Bool} {start : Nat} {l : List α}

theorem mem_indicesFrom {i : Nat} :
    i ∈ indicesFrom test start l ↔ ∃ k a, i = start + k ∧ l[k]? = some a ∧ test a = true := by
  induction l generalizing start with
  | nil => simp [indicesFrom]
  | cons b rest ih =>
    have hrest : i ∈ indicesFrom test (start + 1) rest ↔
        ∃ k a, i = start + (k + 1) ∧ rest[k]? = some a ∧ test a = true := by
      rw [ih]
      simp only [Nat.add_assoc, Nat.add_comm 1]
    rw [indicesFrom]
    constructor
    · intro hi
      have hcases : (i = start ∧ test b = true) ∨ i ∈ indicesFrom test (start + 1) rest := by
        split at hi
        · rename_i hb
          exact (List.mem_cons.mp hi).imp (fun heq => ⟨heq, hb⟩) id
        · exact .inr hi
      rcases hcases with ⟨rfl, hb⟩ | hmem
      · exact ⟨0, b, rfl, rfl, hb⟩
      · obtain ⟨k, a, hk, ha, htest⟩ := hrest.mp hmem
        exact ⟨k + 1, a, hk, ha, htest⟩
    · rintro ⟨k, a, hk, ha, htest⟩
      cases k with
      | zero =>
        cases ha
        rw [if_pos htest, hk]
        exact List.mem_cons_self
      | succ k =>
        have hmem := hrest.mpr ⟨k, a, hk, ha, htest⟩
        split
        · exact List.mem_cons_of_mem _ hmem
        · exact hmem

theorem pairwise_indicesFrom : (indicesFrom test start l).Pairwise (· < ·) := by
  induction l generalizing start with
  | nil => exact .nil
  | cons a rest ih =>
    rw [indicesFrom]
    split
    · refine .cons (fun i hi => ?_) ih
      obtain ⟨k, _, hk, -⟩ := mem_indicesFrom.mp hi
      omega
    · exact ih

theorem length_indicesFrom : (indicesFrom test start l).length = l.countP test := by
  induction l generalizing start with
  | nil => rfl
  | cons a rest ih =>
    rw [indicesFrom]
    split
    · rename_i ha
      rw [List.length_cons, ih, List.countP_cons_of_pos ha]
    · rename_i ha
      rw [ih, List.countP_cons_of_neg ha]

theorem filterMap_indicesFrom {f : Nat → Option α} (h : ∀ k < l.length, f (start + k) = l[k]?) :
    (indicesFrom test start l).filterMap f = l.filter test := by
  induction l generalizing start with
  | nil => rfl
  | cons a rest ih =>
    have hfirst : f start = some a := h 0 (Nat.zero_lt_succ _)
    have hrest : (indicesFrom test (start + 1) rest).filterMap f = rest.filter test := by
      apply ih
      intro k hk
      rw [Nat.add_assoc, Nat.add_comm 1]
      exact h (k + 1) (Nat.succ_lt_succ hk)
    rw [indicesFrom]
    split
    · rename_i ha
      rw [List.filterMap_cons_some hfirst, hrest, List.filter_cons_of_pos ha]
    · rename_i ha
      rw [hrest, List.filter_cons_of_neg ha]

end

/-- The plugins that a view does not show. -/
def others (v : View) (all : List Plugin) : List Plugin :=
  (all.zipIdx.filter fun entry => !v.shown.contains entry.2).map Prod.fst

variable (c : Criteria) (names : Names) (l : List Plugin)

theorem plugins_of :
    (View.of c names l).plugins l = l.filter (c.shows names (Text.lowercase c.needle)) := by
  apply filterMap_indicesFrom
  intro k _
  rw [Nat.zero_add]

theorem others_of :
    (View.of c names l).others l =
      l.filter fun p => !c.shows names (Text.lowercase c.needle) p := by
  have hshown : ∀ entry ∈ l.zipIdx, (View.of c names l).shown.contains entry.2 =
      c.shows names (Text.lowercase c.needle) entry.1 := by
    rintro ⟨p, i⟩ hentry
    have hp : l[i]? = some p := List.mk_mem_zipIdx_iff_getElem?.mp hentry
    rw [Bool.eq_iff_iff, List.contains_iff_mem, View.of, mem_indicesFrom]
    constructor
    · rintro ⟨k, q, hk, hq, htest⟩
      rw [Nat.zero_add] at hk
      rw [← hk, hp] at hq
      cases hq
      exact htest
    · intro htest
      exact ⟨i, p, (Nat.zero_add i).symm, hp, htest⟩
  have hfst : (fun entry : Plugin × Nat => !c.shows names (Text.lowercase c.needle) entry.1) =
      (fun p => !c.shows names (Text.lowercase c.needle) p) ∘ Prod.fst := rfl
  rw [others, List.filter_congr fun entry hentry => congrArg Bool.not (hshown entry hentry), hfst,
    ← List.filter_map, List.zipIdx_map_fst]

/-- **A sum over the load order** is one over the shown plugins and one over the others. -/
theorem sumOf_of (f : Plugin → Nat) :
    Plugin.sumOf f ((View.of c names l).plugins l) +
      Plugin.sumOf f ((View.of c names l).others l) = Plugin.sumOf f l := by
  rw [plugins_of, others_of, Plugin.sumOf_filter]

end View

end LoadOrder
