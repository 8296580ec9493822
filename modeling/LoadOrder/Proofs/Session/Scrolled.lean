/-
  LoadOrder/Proofs/Session/Scrolled.lean
  ======================================
  **How far the scroll of the log counts what is below the window.**

  The keys scroll without knowing how high the window is, and a new entry moves a
  scrolled window up without knowing it either.  So the scroll is bounded by the length
  of the log, and only the window by its own height; the number of entries below the
  window is the lesser of the two (`below`).

  They are the same until a motion overshoots (`Overshoots`): one scrolls up by more than
  there is above the window, or an entry comes to a full log while the window stands at
  its oldest entries.  No other motion parts them (`exact_move_iff`).  As long as they are
  the same, a window at the newest entry follows the log, and a scrolled one stays where
  it is (`window_push`).

  A scroll that has overshot is still counted.  With a log that just fills the window, a
  scroll up moves nothing, but the entry that comes next is hidden
  (`not_exact_overscrolled`).
-/
import LoadOrder.Session.Log
import Mathlib.Data.List.Induction

namespace LoadOrder.Log

/-- What happens to a log: an entry comes, or somebody scrolls. -/
inductive Motion where
  | push (e : LogEntry)
  | up (lines : Nat)
  | down (lines : Nat)
deriving DecidableEq, Repr

def move (l : Log) : Motion → Log
  | .push e => l.push e
  | .up lines => l.scrollUp lines
  | .down lines => l.scrollDown lines

/-- The log after several motions, the first of which finds it empty. -/
def run (motions : List Motion) : Log := motions.foldl move {}

/-- The scroll is the number of entries below the window. -/
def Exact (l : Log) (height : Nat) : Prop := l.scroll = l.below height

/-- A motion makes the scroll greater than the number of entries that can be below the
    window. -/
def Overshoots (l : Log) (height : Nat) : Motion → Prop
  | .push _ => 0 < l.scroll ∧ l.entries.length = capacity ∧ l.scroll + height = capacity
  | .up lines => l.entries.length - height < l.scroll + lines
  | .down _ => False

instance (l : Log) (height : Nat) : (m : Motion) → Decidable (l.Overshoots height m)
  | .push _ => inferInstanceAs (Decidable (_ ∧ _ ∧ _))
  | .up lines => inferInstanceAs (Decidable (_ < l.scroll + lines))
  | .down _ => .isFalse not_false

variable {l : Log} {height : Nat}

theorem exact_iff : l.Exact height ↔ l.scroll ≤ l.entries.length - height := by
  unfold Exact below
  omega

/-! ### The window -/

/-- The entries are those below the window, those in it, and those above it. -/
theorem exists_append_window (l : Log) (height : Nat) :
    ∃ newer older, newer.length = l.below height ∧
      l.entries = newer ++ (l.window height).reverse ++ older := by
  refine ⟨l.entries.take (l.below height), (l.entries.drop (l.below height)).drop height, ?_, ?_⟩
  · rw [List.length_take, below]
    omega
  · rw [window, List.reverse_reverse, List.append_assoc, List.take_append_drop,
      List.take_append_drop]

theorem length_push (l : Log) (e : LogEntry) :
    (l.push e).entries.length = min (l.entries.length + 1) capacity := by
  rw [push, List.length_take, List.length_cons, Nat.min_comm]

theorem scroll_push (l : Log) (e : LogEntry) :
    (l.push e).scroll =
      if 0 < l.scroll then min (l.scroll + 1) (min (l.entries.length + 1) capacity) else 0 := by
  rw [← length_push l e]
  by_cases hscroll : 0 < l.scroll
  · rw [if_pos hscroll, push]
    exact if_pos hscroll
  · rw [if_neg hscroll, push]
    exact (if_neg hscroll).trans (Nat.eq_zero_of_not_pos hscroll)

/-! ### One motion -/

theorem length_move_le (h : l.entries.length ≤ capacity) (m : Motion) :
    (l.move m).entries.length ≤ capacity := by
  cases m with
  | push e =>
    rw [move, length_push]
    exact Nat.min_le_right _ _
  | up lines => exact h
  | down lines => exact h

/-- **A motion keeps the scroll exact unless it overshoots.** -/
theorem exact_move_iff (hlength : l.entries.length ≤ capacity) (hheight : 0 < height)
    (hexact : l.Exact height) (m : Motion) :
    (l.move m).Exact height ↔ ¬l.Overshoots height m := by
  have hcapacity : capacity = 300 := rfl
  rw [exact_iff] at hexact ⊢
  cases m with
  | push e =>
    rw [move, length_push, scroll_push, Overshoots]
    split <;> omega
  | up lines =>
    have hmax : maxScroll = 18446744073709551615 := rfl
    rw [move, scrollUp, Overshoots]
    simp only
    omega
  | down lines =>
    refine iff_of_true ?_ not_false
    rw [move, scrollDown]
    simp only
    omega

/-- An entry that comes to a scrolled window is put below it, and the window stays where it
    is. -/
theorem window_push (hlength : l.entries.length ≤ capacity) (hexact : l.Exact height)
    (hscroll : 0 < l.scroll) {e : LogEntry} (h : ¬l.Overshoots height (.push e)) :
    (l.push e).window height = l.window height := by
  have hbelow : (l.push e).below height = l.scroll + 1 := by
    have hcapacity : capacity = 300 := rfl
    rw [exact_iff] at hexact
    rw [Overshoots] at h
    rw [below, length_push, scroll_push, if_pos hscroll]
    omega
  rw [window, window, hbelow, ← hexact, push]
  simp only
  congr 1
  by_cases hroom : l.entries.length < capacity
  · have hall : (e :: l.entries).length ≤ capacity := hroom
    rw [List.take_of_length_le hall, List.drop_succ_cons]
  · have hfits : height ≤ capacity - (l.scroll + 1) := by
      rw [exact_iff] at hexact
      rw [Overshoots] at h
      omega
    rw [List.drop_take, List.drop_succ_cons, List.take_take, Nat.min_eq_left hfits]

/-- Where the newest entry is in the window, the next one is too, unless the window has been
    scrolled up and would be full. -/
theorem below_push_eq_zero_iff (hlength : l.entries.length ≤ capacity) (hheight : 0 < height)
    (hbelow : l.below height = 0) (e : LogEntry) :
    (l.push e).below height = 0 ↔
      ¬(0 < l.scroll ∧ l.entries.length = height ∧ height < capacity) := by
  unfold below at hbelow ⊢
  rw [length_push, scroll_push]
  split <;> omega

/-! ### A run -/

theorem run_concat (motions : List Motion) (m : Motion) :
    run (motions ++ [m]) = (run motions).move m := by
  rw [run, List.foldl_append]
  rfl

theorem length_run_le (motions : List Motion) : (run motions).entries.length ≤ capacity := by
  induction motions using List.reverseRecOn with
  | nil => exact Nat.zero_le capacity
  | append_singleton motions m ih =>
    rw [run_concat]
    exact length_move_le ih m

/-- The scroll is exact all along a run exactly if no motion of it overshoots. -/
theorem exact_run_iff (motions : List Motion) (hheight : 0 < height) :
    (∀ sofar, sofar <+: motions → (run sofar).Exact height) ↔
      ∀ sofar m, sofar ++ [m] <+: motions → ¬(run sofar).Overshoots height m := by
  constructor
  · intro h sofar m hm
    have hbefore := h sofar ((List.prefix_append sofar [m]).trans hm)
    have hafter := h (sofar ++ [m]) hm
    rw [run_concat] at hafter
    exact (exact_move_iff (length_run_le sofar) hheight hbefore m).mp hafter
  · intro h sofar
    induction sofar using List.reverseRecOn with
    | nil =>
      intro _
      exact exact_iff.mpr (Nat.zero_le _)
    | append_singleton sofar m ih =>
      intro hm
      have hbefore := ih ((List.prefix_append sofar [m]).trans hm)
      rw [run_concat]
      exact (exact_move_iff (length_run_le sofar) hheight hbefore m).mpr (h sofar m hm)

/-- **How far the window follows the log.**  The entries fall apart into those below the
    window, those in it and those above it, and the scroll counts the first all along a run
    exactly if no motion overshoots.  Where it counts them, an entry that comes is seen by a
    window at the newest one, and leaves any other where it was unless it overshoots.  Where
    it need not count them, the entry that comes next to a window at the newest one is hidden
    exactly if the window was scrolled up and the log just fills it; but a scroll that has
    reached the greatest number has no next one, and is left out. -/
theorem follows_run (motions : List Motion) {height : Nat} (hheight : 0 < height) :
    (∃ newer older, newer.length = (run motions).below height ∧
      (run motions).entries = newer ++ ((run motions).window height).reverse ++ older) ∧
    ((∀ sofar, sofar <+: motions → (run sofar).scroll = (run sofar).below height) ↔
      ∀ sofar m, sofar ++ [m] <+: motions → ¬(run sofar).Overshoots height m) ∧
    ((run motions).scroll = (run motions).below height → ∀ e,
      ¬(run motions).Overshoots height (.push e) →
        if (run motions).scroll = 0 then ((run motions).push e).below height = 0
        else ((run motions).push e).window height = (run motions).window height) ∧
    ((run motions).below height = 0 → (run motions).scroll < maxScroll → ∀ e,
      ((run motions).push e).below height = 0 ↔
        ¬(0 < (run motions).scroll ∧ (run motions).entries.length = height ∧
          height < capacity)) := by
  have hlength := length_run_le motions
  refine ⟨exists_append_window _ height, exact_run_iff motions hheight, ?_, ?_⟩
  · intro hexact e he
    split
    · rename_i hzero
      rw [hzero] at hexact
      refine (below_push_eq_zero_iff hlength hheight hexact.symm e).mpr ?_
      rintro ⟨hscroll, -⟩
      omega
    · rename_i hscroll
      exact window_push hlength hexact (Nat.pos_of_ne_zero hscroll) he
  · intro hbelow _ e
    exact below_push_eq_zero_iff hlength hheight hbelow e

def entryNamed (text : String) : LogEntry := ⟨.info, text⟩

/-- Two entries, a scroll by one, and a window for one entry. -/
def scrolledOnce : List Motion := [.push (entryNamed "one"), .push (entryNamed "two"), .up 1]

/-- The window goes on showing the first of them when a third comes. -/
theorem follows_run_scrolledOnce :
    ((run scrolledOnce).push (entryNamed "three")).window 1 = [entryNamed "one"] ∧
    ((run []).push (entryNamed "one")).below 1 = 0 := by
  obtain ⟨-, -, hstays, -⟩ := follows_run scrolledOnce Nat.one_pos
  obtain ⟨-, -, -, hseen⟩ := follows_run [] Nat.one_pos
  refine ⟨hstays rfl (entryNamed "three") (by decide), ?_⟩
  exact (hseen rfl (by decide) (entryNamed "one")).mpr (by decide)

/-- In a window for both of them the scroll shows nothing new, but it is counted, and it
    hides the third entry. -/
theorem not_exact_overscrolled :
    (¬∀ motions height, 0 < height → (run motions).Exact height) ∧
      ¬∀ motions height e, 0 < height → (run motions).below height = 0 →
        ((run motions).push e).below height = 0 := by
  constructor
  · intro h
    have hexact := h scrolledOnce 2 Nat.two_pos
    cases hexact
  · intro h
    have hseen := h scrolledOnce 2 (entryNamed "three") Nat.two_pos rfl
    cases hseen

end LoadOrder.Log
