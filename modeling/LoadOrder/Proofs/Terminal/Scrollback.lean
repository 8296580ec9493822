/-
  LoadOrder/Proofs/Terminal/Scrollback.lean
  =========================================
  **What the log keeps, and what its panel shows of it.**

  Entries come, and somebody scrolls (`Log.Motion`).  Of the entries that have come the
  log keeps the newest 300, and nothing that was scrolled changes that (`entries_run`).
  The panel shows a run of neighbours among them, as many as it has lines (`Log.Seen`).

  An entry that comes while the panel does not stand at the newest ones must not move it.
  Two things move at that time, the scroll and, when the log is full, its oldest end;
  both bounds of the scroll lie above it then, so that it grows by one and the panel
  stays (`Seen.push`).  There is one case in which it cannot: the panel stands at the
  oldest entries of a full log, and the oldest of them goes (`Seen.push_oldest`).
-/
import LoadOrder.Proofs.Session.Run
import LoadOrder.Proofs.Session.Scrolled
import LoadOrder.Terminal.Panels
import Mathlib.Data.List.Basic

namespace LoadOrder.Log

open Terminal

/-! ### What comes -/

namespace Motion

/-- The entry that a motion brings. -/
def entry? : Motion → Option LogEntry
  | .push e => some e
  | .up _ => none
  | .down _ => none

/-- The act of a session by which its log makes a motion. -/
def act : Motion → Session.Act
  | .push e => .note e.level e.text
  | .up lines => .scrollUp lines
  | .down lines => .scrollDown lines

end Motion

/-- The entries that several motions bring, the oldest first. -/
def brought (motions : List Motion) : List LogEntry := motions.filterMap Motion.entry?

theorem log_run_act (s : Session) (motions : List Motion) :
    (s.run (motions.map Motion.act)).log = motions.foldl move s.log := by
  induction motions generalizing s with
  | nil => rfl
  | cons m rest ih =>
    have hmove : (s.perform m.act).log = s.log.move m := by cases m <;> rfl
    rw [List.map_cons, Session.run_cons, ih, hmove, List.foldl_cons]

/-! ### What is kept -/

theorem take_cons_take (e : LogEntry) (entries : List LogEntry) (n : Nat) :
    (e :: entries.take n).take n = (e :: entries).take n := by
  cases n with
  | zero => rfl
  | succ n => simp [List.take_take]

/-- **The log keeps the newest entries,** however it was scrolled. -/
theorem entries_run (motions : List Motion) :
    (run motions).entries = (brought motions).reverse.take capacity := by
  induction motions using List.reverseRecOn with
  | nil => rfl
  | append_singleton motions m ih =>
    rw [run_concat, brought, List.filterMap_append, List.reverse_append]
    cases m with
    | push e =>
      show (e :: (run motions).entries).take capacity = _
      rw [ih, take_cons_take]
      rfl
    | up lines => exact ih
    | down lines => exact ih

theorem reverse_entries_run (motions : List Motion) :
    (run motions).entries.reverse =
      (brought motions).drop ((brought motions).length - capacity) := by
  rw [entries_run, List.reverse_take, List.reverse_reverse, List.length_reverse]

/-! ### What is shown -/

/-- The entries of a log, the oldest first, as a window of some height divides them:
    those above the window, those in it, and those below it. -/
structure Seen (l : Log) (height : Nat) (older shown newer : List LogEntry) : Prop where
  eq_append : l.entries.reverse = older ++ shown ++ newer
  window_eq : l.window height = shown
  length_newer : newer.length = l.below height

variable {l : Log} {height : Nat} {older shown newer : List LogEntry}

theorem length_window (l : Log) (height : Nat) :
    (l.window height).length = min height l.entries.length := by
  simp only [window, below, List.length_reverse, List.length_take, List.length_drop]
  omega

theorem exists_seen (l : Log) (height : Nat) :
    ∃ older shown newer, l.Seen height older shown newer := by
  obtain ⟨newer, older, hbelow, hentries⟩ := exists_append_window l height
  refine ⟨older.reverse, l.window height, newer.reverse, ?_, rfl, ?_⟩
  · rw [hentries]
    simp
  · rw [List.length_reverse, hbelow]

/-- Entries are in the window if there are as many of them as it has lines, and as many
    below them as below it. -/
theorem seen_of_length (hentries : l.entries.reverse = older ++ shown ++ newer)
    (hshown : shown.length = min height l.entries.length)
    (hnewer : newer.length = l.below height) : l.Seen height older shown newer := by
  obtain ⟨above, visible, hidden, hseen⟩ := exists_seen l height
  have hvisible : visible.length = shown.length := by
    rw [hshown, ← hseen.window_eq, length_window]
  have hsame := hseen.eq_append.symm.trans hentries
  obtain ⟨hfront, -⟩ := List.append_inj' hsame (hseen.length_newer.trans hnewer.symm)
  obtain ⟨-, hin⟩ := List.append_inj' hfront hvisible
  exact ⟨hentries, hseen.window_eq.trans hin, hnewer⟩

theorem Seen.length_shown (h : l.Seen height older shown newer) :
    shown.length = min height l.entries.length := by
  rw [← h.window_eq, length_window]

theorem Seen.length_eq (h : l.Seen height older shown newer) :
    older.length + shown.length + newer.length = l.entries.length := by
  have hlength := congrArg List.length h.eq_append
  simp only [List.length_reverse, List.length_append] at hlength
  exact hlength.symm

theorem Seen.logLines {s : Session} (h : s.log.Seen height older shown newer)
    (hheight : 0 < height) (hlog : s.log.entries ≠ []) :
    logLines s height = shown.map logLine := by
  simp only [Terminal.logLines, Nat.ne_of_gt hheight, List.isEmpty_iff, hlog, if_false, h.window_eq]

/-! ### One more entry -/

theorem reverse_entries_push (l : Log) (e : LogEntry) :
    (l.push e).entries.reverse =
      (l.entries.reverse ++ [e]).drop (l.entries.length + 1 - capacity) := by
  rw [push, List.reverse_take, List.reverse_cons, List.length_cons]

/-- **An entry that comes below a window does not move it,** if there is room in the log
    or another entry goes. -/
theorem Seen.push (h : l.Seen height older shown newer) (hlength : l.entries.length ≤ capacity)
    (hbelow : newer ≠ []) (hroom : l.entries.length < capacity ∨ older ≠ []) (e : LogEntry) :
    (l.push e).Seen height (older.drop (l.entries.length + 1 - capacity)) shown (newer ++ [e]) := by
  have hnewer : 0 < newer.length := List.length_pos_iff.mpr hbelow
  have hcount := h.length_newer
  have hshown := h.length_shown
  have hsum := h.length_eq
  have hgone : l.entries.length + 1 - capacity ≤ older.length := by
    rcases hroom with hroom | holder
    · omega
    · have holder : 0 < older.length := List.length_pos_iff.mpr holder
      omega
  unfold below at hcount
  apply seen_of_length
  · rw [reverse_entries_push, h.eq_append, List.append_assoc, List.append_assoc,
      List.drop_append_of_le_length hgone, List.append_assoc]
  · rw [length_push]
    omega
  · rw [List.length_append, List.length_singleton, below, length_push, scroll_push]
    split <;> omega

/-- **A window at the oldest entries of a full log moves on,** since the first of them
    goes. -/
theorem Seen.push_oldest {next : LogEntry} {rest : List LogEntry}
    (h : l.Seen height [] shown (next :: rest)) (hfull : l.entries.length = capacity)
    (hheight : 0 < height) (e : LogEntry) :
    (l.push e).Seen height [] (shown.tail ++ [next]) (rest ++ [e]) := by
  have hcapacity : capacity = 300 := rfl
  have hcount := h.length_newer
  have hshown := h.length_shown
  have hsum := h.length_eq
  unfold below at hcount
  simp only [List.length_nil, List.length_cons] at hcount hsum
  obtain ⟨first, others, rfl⟩ : ∃ first others, shown = first :: others := by
    apply List.exists_cons_of_length_pos
    omega
  simp only [List.length_cons] at hshown hsum
  apply seen_of_length
  · rw [reverse_entries_push, h.eq_append, hfull]
    simp [hcapacity]
  · rw [length_push]
    simp only [List.tail_cons, List.length_append, List.length_singleton]
    omega
  · rw [List.length_append, List.length_singleton, below, length_push, scroll_push]
    split <;> omega

/-! ### A full log -/

def numbered (i : Nat) : LogEntry := entryNamed (toString i)

/-- As many entries as the log keeps, and then a scroll. -/
def filled (lines : Nat) : List Motion :=
  ((List.range capacity).map numbered).map .push ++ [.up lines]

theorem brought_filled (lines : Nat) :
    brought (filled lines) = (List.range capacity).map numbered := by
  simp [brought, filled, Motion.entry?, List.filterMap_append, List.filterMap_map,
    Function.comp_def]

theorem scroll_run_pushes (entries : List LogEntry) : (run (entries.map .push)).scroll = 0 := by
  induction entries using List.reverseRecOn with
  | nil => rfl
  | append_singleton entries e ih =>
    rw [List.map_append, List.map_singleton, run_concat, move, scroll_push, ih, if_neg]
    exact Nat.lt_irrefl 0

theorem scroll_run_filled (lines : Nat) : (run (filled lines)).scroll = min lines maxScroll := by
  rw [filled, run_concat, move, scrollUp, scroll_run_pushes, Nat.zero_add]

theorem scroll_of_prefix_filled {lines : Nat} (hlines : lines < maxScroll) {sofar : List Motion}
    (h : sofar <+: filled lines) : (run sofar).scroll < maxScroll := by
  rcases List.prefix_concat_iff.mp h with rfl | hfront
  · rw [← filled, scroll_run_filled]
    omega
  · rw [List.prefix_iff_eq_take.mp hfront, ← List.map_take, scroll_run_pushes]
    omega

/-! ### A run -/

theorem entries_push_ne_nil (l : Log) (e : LogEntry) : (l.push e).entries ≠ [] := by
  simp [Log.push, capacity]

/-- **What the log keeps and shows.**  Entries come to a new session and its log is
    scrolled, in any order, and the scroll never reaches the greatest number.  Then the log
    holds the last of the entries in their order, 300 or all that there are.  A panel shows
    as many neighbours among them as it has lines, if there are so many.  While some are
    hidden below the panel, one more entry is hidden too and the panel goes on showing the
    same ones; only if the log is full and the panel stands at its oldest entry, the panel
    gives up that one and takes in the next below. -/
theorem retained_run_new (toggles : Toggles) (phrase : String) (motions : List Motion) :
    let start := Session.new toggles phrase
    let s := start.run (motions.map Motion.act)
    (∀ sofar, sofar <+: motions → (start.run (sofar.map Motion.act)).log.scroll < maxScroll) →
    s.log.entries.reverse = (brought motions).drop ((brought motions).length - capacity) ∧
    ∀ height, 0 < height → s.log.entries ≠ [] →
      ∃ older shown newer, s.log.Seen height older shown newer ∧
        shown.length = min height s.log.entries.length ∧
        logLines s height = shown.map logLine ∧
        ∀ level text next rest, newer = next :: rest →
          let e : LogEntry := ⟨level, text⟩
          let t := s.perform (.note level text)
          (s.log.entries.length < capacity ∨ older ≠ [] →
            t.log.Seen height (older.drop (s.log.entries.length + 1 - capacity)) shown
                (newer ++ [e]) ∧
              logLines t height = logLines s height) ∧
          (s.log.entries.length = capacity → older = [] →
            t.log.Seen height [] (shown.tail ++ [next]) (rest ++ [e]) ∧
              logLines t height = (shown.tail ++ [next]).map logLine) := by
  -- the scroll has a next number everywhere here, so its bound is not used
  intro start s _
  have hlog : s.log = run motions := log_run_act start motions
  refine ⟨by rw [hlog, reverse_entries_run], ?_⟩
  intro height hheight hsome
  obtain ⟨older, shown, newer, hseen⟩ := exists_seen s.log height
  have hlines := hseen.logLines hheight hsome
  refine ⟨older, shown, newer, hseen, hseen.length_shown, hlines, ?_⟩
  intro level text next rest hnewer e t
  have ht : t.log.entries ≠ [] := entries_push_ne_nil s.log e
  constructor
  · intro hroom
    have hlength : s.log.entries.length ≤ capacity := by
      rw [hlog]
      exact length_run_le motions
    have hstays : t.log.Seen height _ shown (newer ++ [e]) :=
      hseen.push hlength (hnewer ▸ List.cons_ne_nil next rest) hroom e
    exact ⟨hstays, (hstays.logLines hheight ht).trans hlines.symm⟩
  · rintro hfull rfl
    subst hnewer
    have hmoves : t.log.Seen height [] (shown.tail ++ [next]) (rest ++ [e]) :=
      hseen.push_oldest hfull hheight e
    exact ⟨hmoves, hmoves.logLines hheight ht⟩

/-- The log is full.  A panel of two lines that stands one entry above the newest stays
    where it is when another comes; one that stands at the oldest moves on to the second. -/
theorem retained_run_new_filled :
    let start := Session.new {} defaultPhrase
    let scrolled (lines : Nat) := start.run ((filled lines).map Motion.act)
    let later (lines : Nat) := (scrolled lines).perform (.note .info "late")
    logLines (later 1) 2 = logLines (scrolled 1) 2 ∧
      logLines (scrolled 300) 2 = [numbered 0, numbered 1].map logLine ∧
      logLines (later 300) 2 = [numbered 1, numbered 2].map logLine := by
  intro start scrolled later
  have hlog : ∀ lines, (scrolled lines).log = run (filled lines) :=
    fun lines => log_run_act start _
  have hlength : ∀ lines, (scrolled lines).log.entries.length = 300 := by
    intro lines
    rw [hlog, entries_run, brought_filled]
    simp [capacity]
  have hsome : ∀ lines, (scrolled lines).log.entries ≠ [] := by
    intro lines hnone
    have hlength := hlength lines
    rw [hnone] at hlength
    cases hlength
  have hscroll : ∀ lines < maxScroll, ∀ sofar, sofar <+: filled lines →
      (start.run (sofar.map Motion.act)).log.scroll < maxScroll := by
    intro lines hlines sofar hsofar
    rw [log_run_act]
    exact scroll_of_prefix_filled hlines hsofar
  have hbelow : ∀ lines, (scrolled lines).log.below 2 = min (min lines maxScroll) 298 := by
    intro lines
    rw [below, hlength, hlog, scroll_run_filled]
  refine ⟨?_, ?_⟩
  · obtain ⟨-, hpanel⟩ := retained_run_new {} defaultPhrase (filled 1) (hscroll 1 (by decide))
    obtain ⟨older, shown, newer, hseen, hshown, -, hlate⟩ := hpanel 2 Nat.two_pos (hsome 1)
    have hnewer : newer.length = 1 := hseen.length_newer.trans (hbelow 1)
    have hsum := hseen.length_eq
    rw [hshown, hlength 1, hnewer] at hsum
    obtain ⟨next, rest, rfl⟩ := List.exists_cons_of_length_pos (l := newer) (by omega)
    obtain ⟨hstays, -⟩ := hlate .info "late" next rest rfl
    refine (hstays (.inr ?_)).2
    rintro rfl
    simp at hsum
  · obtain ⟨hkept, hpanel⟩ :=
      retained_run_new {} defaultPhrase (filled 300) (hscroll 300 (by decide))
    obtain ⟨older, shown, newer, hseen, hshown, hlines, hlate⟩ := hpanel 2 Nat.two_pos (hsome 300)
    have hnewer : newer.length = 298 := hseen.length_newer.trans (hbelow 300)
    have hsum := hseen.length_eq
    rw [hlength 300] at hshown hsum
    obtain ⟨first, second, rfl⟩ := List.length_eq_two.mp hshown
    obtain ⟨next, rest, rfl⟩ := List.exists_cons_of_length_pos (l := newer) (by omega)
    obtain rfl : older = [] := by
      apply List.eq_nil_of_length_eq_zero
      rw [hshown, hnewer] at hsum
      omega
    -- the first three entries are in the panel and the one below it
    have hfirst : ((List.range capacity).map numbered).take 3 =
        [numbered 0, numbered 1, numbered 2] := by
      rw [← List.map_take, List.take_range]
      rfl
    have hparts := hkept.symm.trans hseen.eq_append
    rw [brought_filled, List.length_map, List.length_range, Nat.sub_self, List.drop_zero] at hparts
    rw [hparts] at hfirst
    injection hfirst with hone hfirst
    injection hfirst with htwo hfirst
    injection hfirst with hthree
    subst hone htwo hthree
    obtain ⟨-, hmoves⟩ := hlate .info "late" (numbered 2) rest rfl
    exact ⟨hlines, (hmoves (hlength 300) rfl).2⟩

end LoadOrder.Log
