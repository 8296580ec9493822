/-
  LoadOrder/Proofs/Terminal/Rounds.lean
  =====================================
  **Going through the results of a search.**

  One key goes from result to result: to the next marked row below the selection, and
  from the last one to the first.  The selection it starts from need not be a result.

  Seen from a selection the results are in the order in which the key comes to them:
  those below it, and then the others, from the top (`Session.toCome`).  One press
  selects the first of these and puts it at the end (`Session.toCome_selectNextResult`),
  because the results are the rows up to the selection followed by those below it.  So as
  many presses as there are results come to each of them once, and the round begins
  again.
-/
import LoadOrder.Proofs.Terminal.Desk
import LoadOrder.Proofs.Terminal.Editing
import Mathlib.Data.List.Rotate

namespace LoadOrder

/-! ### Rows in order -/

/-- Rows in order are those up to a row, and then those below it. -/
theorem filter_le_append_filter_lt {rows : List Nat} (hsorted : rows.Pairwise (· < ·))
    (row : Nat) : rows.filter (· ≤ row) ++ rows.filter (row < ·) = rows := by
  induction rows with
  | nil => rfl
  | cons first rest ih =>
    obtain ⟨hfirst, hrest⟩ := List.pairwise_cons.mp hsorted
    by_cases hle : first ≤ row
    · simp [hle, Nat.not_lt_of_le hle, ih hrest]
    · -- what stands behind a row below is below as well
      have hlt : ∀ r ∈ rest, row < r := fun r hr => by
        have := hfirst r hr
        omega
      have hnone : rest.filter (· ≤ row) = [] := by
        simpa [List.filter_eq_nil_iff] using hlt
      have hall : rest.filter (row < ·) = rest := by
        simpa [List.filter_eq_self] using hlt
      simp [hle, Nat.lt_of_not_le hle, hnone, hall]

theorem filter_around (front : List Nat) {back : List Nat} {row : Nat}
    (hsorted : (front ++ row :: back).Pairwise (· < ·)) :
    (front ++ row :: back).filter (row < ·) = back ∧
      (front ++ row :: back).filter (· ≤ row) = front ++ [row] := by
  obtain ⟨-, hback, hfront⟩ := List.pairwise_append.mp hsorted
  obtain ⟨hbelow, -⟩ := List.pairwise_cons.mp hback
  have habove : ∀ r ∈ front, r < row := fun r hr => hfront r hr row List.mem_cons_self
  constructor
  · have hnone : front.filter (row < ·) = [] := by
      simpa [List.filter_eq_nil_iff] using fun r hr => Nat.le_of_lt (habove r hr)
    have hall : back.filter (row < ·) = back := by
      simpa [List.filter_eq_self] using hbelow
    simp [hnone, hall]
  · have hall : front.filter (· ≤ row) = front := by
      simpa [List.filter_eq_self] using fun r hr => Nat.le_of_lt (habove r hr)
    have hnone : back.filter (· ≤ row) = [] := by
      simpa [List.filter_eq_nil_iff] using hbelow
    simp [hnone, hall]

namespace Session

/-! ### The results to come -/

/-- The results in the order in which one comes to them: those below the selection, and
    then the others. -/
def toCome (s : Session) : List Nat :=
  s.searchResults.filter (s.selected < ·) ++ s.searchResults.filter (· ≤ s.selected)

/-- The rows that are selected one after the other by going to the next result. -/
def visits (s : Session) : Nat → List Nat
  | 0 => []
  | n + 1 => s.selectNextResult.selected :: s.selectNextResult.visits n

variable {s : Session} {row : Nat} {rest : List Nat}

theorem pairwise_searchResults (s : Session) : s.searchResults.Pairwise (· < ·) :=
  View.pairwise_indicesFrom

theorem mem_searchResults {s : Session} {row : Nat} :
    row ∈ s.searchResults ↔
      ∃ i p, s.view.shown[row]? = some i ∧ s.plugins[i]? = some p ∧ p.card.found = true := by
  rw [searchResults, View.mem_indicesFrom]
  constructor
  · rintro ⟨k, i, rfl, hi, hfound⟩
    rw [Nat.zero_add]
    split at hfound
    · rename_i p hp
      exact ⟨i, p, hi, hp, hfound⟩
    · cases hfound
  · rintro ⟨i, p, hi, hp, hfound⟩
    refine ⟨row, i, (Nat.zero_add row).symm, hi, ?_⟩
    rw [hp]
    exact hfound

theorem searchResults_eq (s : Session) :
    s.searchResults =
      s.searchResults.filter (· ≤ s.selected) ++ s.searchResults.filter (s.selected < ·) :=
  (filter_le_append_filter_lt (pairwise_searchResults s) s.selected).symm

theorem toCome_perm (s : Session) : s.toCome.Perm s.searchResults := by
  have hswap : s.toCome.Perm
      (s.searchResults.filter (· ≤ s.selected) ++ s.searchResults.filter (s.selected < ·)) :=
    List.perm_append_comm
  rwa [← searchResults_eq] at hswap

theorem toCome_eq_nil_iff : s.toCome = [] ↔ s.searchResults = [] := by
  rw [← List.length_eq_zero_iff, s.toCome_perm.length_eq, List.length_eq_zero_iff]

theorem head?_toCome (s : Session) :
    s.toCome.head? =
      (s.searchResults.find? fun row => decide (s.selected < row)).orElse
        fun _ => s.searchResults.head? := by
  rw [toCome, List.head?_append, List.head?_filter]
  cases hnext : s.searchResults.find? fun row => decide (s.selected < row) with
  | some row => rfl
  | none =>
    have hall : s.searchResults.filter (· ≤ s.selected) = s.searchResults := by
      simpa [List.filter_eq_self] using hnext
    rw [hall]
    rfl

/-! ### One press -/

theorem selectNextResult_of_cons (h : s.toCome = row :: rest) :
    s.selectNextResult = { s with selected := row } := by
  have hhead := head?_toCome s
  rw [h, List.head?_cons] at hhead
  simp only [selectNextResult, ← hhead]

theorem selectNextResult_of_nil (h : s.searchResults = []) : s.selectNextResult = s := by
  simp [selectNextResult, h]

/-- **The first of the results to come is selected and comes last.** -/
theorem toCome_selectNextResult (h : s.toCome = row :: rest) :
    s.selectNextResult.toCome = rest ++ [row] := by
  have hsorted := pairwise_searchResults s
  have hsplit := searchResults_eq s
  rw [selectNextResult_of_cons h]
  show s.searchResults.filter (row < ·) ++ s.searchResults.filter (· ≤ row) = _
  rw [toCome] at h
  generalize s.searchResults.filter (· ≤ s.selected) = upTo at h hsplit
  generalize s.searchResults.filter (s.selected < ·) = below at h hsplit
  rw [hsplit] at hsorted ⊢
  cases below with
  | nil =>
    -- there is no result below, and the first of all is selected
    rw [List.nil_append] at h
    subst h
    obtain ⟨hbehind, hbefore⟩ := filter_around [] (by simpa using hsorted)
    rw [List.append_nil]
    exact congrArg₂ (· ++ ·) hbehind hbefore
  | cons first others =>
    rw [List.cons_append] at h
    obtain ⟨rfl, rfl⟩ := List.cons_eq_cons.mp h
    obtain ⟨hbehind, hbefore⟩ := filter_around upTo hsorted
    rw [hbehind, hbefore, List.append_assoc]

theorem toCome_iterate (n : Nat) (s : Session) :
    (selectNextResult^[n] s).toCome = s.toCome.rotate n := by
  induction n generalizing s with
  | zero => simp
  | succ n ih =>
    rw [Function.iterate_succ_apply, ih]
    cases h : s.toCome with
    | nil =>
      rw [selectNextResult_of_nil (toCome_eq_nil_iff.mp h), h, List.rotate_nil, List.rotate_nil]
    | cons row rest => rw [toCome_selectNextResult h, List.rotate_cons_succ]

/-! ### A round -/

theorem iterate_eq (n : Nat) (s : Session) :
    selectNextResult^[n] s = { s with selected := (selectNextResult^[n] s).selected } := by
  induction n generalizing s with
  | zero => rfl
  | succ n ih =>
    rw [Function.iterate_succ_apply, ih]
    cases h : s.toCome with
    | nil => rw [selectNextResult_of_nil (toCome_eq_nil_iff.mp h)]
    | cons row rest => rw [selectNextResult_of_cons h]

theorem iterate_of_nil (h : s.searchResults = []) (n : Nat) : selectNextResult^[n] s = s :=
  Function.iterate_fixed (selectNextResult_of_nil h) n

theorem visits_eq_take {n : Nat} (hn : n ≤ s.toCome.length) : s.visits n = s.toCome.take n := by
  induction n generalizing s with
  | zero => rfl
  | succ n ih =>
    cases h : s.toCome with
    | nil =>
      rw [h] at hn
      cases hn
    | cons row rest =>
      have hnext := toCome_selectNextResult h
      rw [h, List.length_cons] at hn
      rw [visits, ih, hnext, selectNextResult_of_cons h, List.take_succ_cons,
        List.take_append_of_le_length (Nat.le_of_succ_le_succ hn)]
      rw [hnext, List.length_append]
      omega

/-- **As many presses as there are results come to each of them.** -/
theorem visits_length (s : Session) : s.visits s.searchResults.length = s.toCome := by
  have hlength := s.toCome_perm.length_eq
  rw [visits_eq_take hlength.ge, List.take_of_length_le hlength.le]

theorem iterate_length_succ (s : Session) :
    selectNextResult^[s.searchResults.length + 1] s = s.selectNextResult := by
  cases h : s.toCome with
  | nil =>
    have hnone := toCome_eq_nil_iff.mp h
    rw [iterate_of_nil hnone, selectNextResult_of_nil hnone]
  | cons row rest =>
    have hround : (selectNextResult^[s.searchResults.length] s).toCome = row :: rest := by
      rw [toCome_iterate, ← s.toCome_perm.length_eq, List.rotate_length, h]
    rw [Function.iterate_succ_apply', selectNextResult_of_cons hround, selectNextResult_of_cons h,
      iterate_eq]

end Session

/-! ### At the keyboard -/

namespace Terminal.Desk

open Session

variable {d : Desk}

theorem onSession_session (f : Session → Session) : (d.onSession f).session = f d.session := rfl

theorem pressWith_next (hmode : d.keyboard.mode = .normal) {k : Key} (hk : k.code = .char 'n')
    (clipboard : Clipboard) : d.pressWith clipboard k = d.onSession selectNextResult := by
  obtain ⟨s, mode, quit⟩ := d
  obtain ⟨code, control, alt, shift⟩ := k
  subst hmode hk
  rfl

theorem pressAll_next (hmode : d.keyboard.mode = .normal) {presses : List Press}
    (hkeys : ∀ press ∈ presses, press.1.code = .char 'n') :
    d.pressAll presses = d.onSession selectNextResult^[presses.length] := by
  induction presses generalizing d with
  | nil => rfl
  | cons press rest ih =>
    have hpress := pressWith_next hmode (hkeys press List.mem_cons_self) press.2
    rw [pressAll, List.foldl_cons, hpress, ← pressAll,
      ih (d := d.onSession selectNextResult) hmode fun p hp => hkeys p (List.mem_cons_of_mem _ hp)]
    rfl

/-- **The key for the next result goes round.**  Whatever has been done at a desk and
    whatever row is selected, let `results` be the rows of the view whose plugin is marked,
    from the top; no place of the view is outside the load order.  As many presses as there
    are results select each of them once and nothing else: first those below the selection,
    in their order, and then those above it or at it, in theirs, which begin with the first
    of all.  One press more selects what the first one selected.  Without results nothing
    changes, and a press never changes anything but the selection. -/
theorem rounds_run_new (toggles : Toggles) (phrase : String) (happenings : List Happening)
    (row : Nat) :
    let d := run { session := Session.new toggles phrase } happenings
    let s : Session := { d.session with selected := row }
    let results := s.searchResults
    (∀ r, r ∈ results ↔
      ∃ i p, s.view.shown[r]? = some i ∧ s.plugins[i]? = some p ∧ p.card.found = true) ∧
    (∀ i ∈ s.view.shown, i < s.plugins.length) ∧
    (∃ upTo below, results = upTo ++ below ∧ results.Pairwise (· < ·) ∧
      (∀ r ∈ upTo, r ≤ row) ∧ (∀ r ∈ below, row < r) ∧
      s.visits results.length = below ++ upTo) ∧
    (∀ r, (s.visits results.length).count r = if r ∈ results then 1 else 0) ∧
    selectNextResult^[results.length + 1] s = s.selectNextResult ∧
    (results = [] → ∀ n, selectNextResult^[n] s = s) ∧
    (∀ n, selectNextResult^[n] s = { s with selected := (selectNextResult^[n] s).selected }) ∧
    ∀ presses : List Press, (∀ press ∈ presses, press.1.code = .char 'n') →
      (({ d with session := s } : Desk).enter .normal).pressAll presses =
        (({ d with session := s } : Desk).enter .normal).onSession
          selectNextResult^[presses.length] := by
  intro d s results
  have horderly : Orderly d.session := Orderly.run (orderly_new toggles phrase) happenings
  have hsorted : results.Pairwise (· < ·) := pairwise_searchResults s
  refine ⟨fun r => ?_, horderly.rows.inside, ?_, fun r => ?_, iterate_length_succ s,
    iterate_of_nil, fun n => iterate_eq n s, fun presses hkeys => pressAll_next rfl hkeys⟩
  · exact mem_searchResults
  · refine ⟨results.filter (· ≤ row), results.filter (row < ·), searchResults_eq s, hsorted,
      fun r hr => ?_, fun r hr => ?_, visits_length s⟩
    · simpa using (List.mem_filter.mp hr).2
    · simpa using (List.mem_filter.mp hr).2
  · have hvisits : (s.visits results.length).Perm results := by
      rw [visits_length]
      exact s.toCome_perm
    rw [hvisits.count_eq]
    exact hsorted.nodup.count
/-- Two of three rows are results, and the selection stands between them; before anything
    is loaded there are none. -/
theorem rounds_run_new_between :
    let happenings : List Happening :=
      [.act (.load none [Plugin.ofData "A.esp" {}, Plugin.ofData "Bee.esm" {},
        Plugin.ofData "Sea.esp" {}]), .act (.search "a")]
    let d := run { session := Session.new {} defaultPhrase } happenings
    let s : Session := { d.session with selected := 1 }
    let next : Press := ({ code := .char 'n', shift := true }, fun _ => .taken)
    let nothing : Session := { Session.new {} defaultPhrase with selected := 0 }
    s.searchResults = [0, 2] ∧ s.visits 2 = [2, 0] ∧
      ((({ d with session := s } : Desk).enter .normal).pressAll [next, next, next]).session =
        { s with selected := 2 } ∧
      nothing.searchResults = [] ∧ selectNextResult^[5] nothing = nothing := by
  intro happenings d s next nothing
  have hresults : s.searchResults = [0, 2] := by decide
  have hnone : nothing.searchResults = [] := rfl
  have hkeys : ∀ press ∈ [next, next, next], press.1.code = .char 'n' := by simp [next]
  have hcome : s.toCome = [2, 0] := by decide
  obtain ⟨-, -, -, -, hagain, -, -, hpresses⟩ := rounds_run_new {} defaultPhrase happenings 1
  obtain ⟨-, -, -, -, -, hstays, -, -⟩ := rounds_run_new {} defaultPhrase [] 0
  refine ⟨hresults, by decide, ?_, hnone, hstays hnone 5⟩
  have hthird : selectNextResult^[3] s = s.selectNextResult := by
    rw [← hagain, hresults]
    rfl
  have hpressed := congrArg Desk.session (hpresses [next, next, next] hkeys)
  rw [onSession_session] at hpressed
  exact hpressed.trans (hthird.trans (selectNextResult_of_cons hcome))

end Terminal.Desk

end LoadOrder
