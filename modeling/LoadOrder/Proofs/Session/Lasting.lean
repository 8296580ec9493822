/-
  LoadOrder/Proofs/Session/Lasting.lean
  =====================================
  **What the acts are made of, for what is on the screen.**

  The steps of a run (`Step`) leave it open what becomes of the selection, the criteria
  and the cards.  For what is on the screen that is too coarse.  Here the acts come
  down to seven changes of the plugins, the criteria, the view and the selection; what
  these keep (`Lasting`) is kept by every refresh, by every outcome and by every act but
  one (`Lasting.perform`).  The one is that switches are restored and not yet applied.
-/
import LoadOrder.Proofs.Filter.Count
import LoadOrder.Proofs.Session.Reached

namespace LoadOrder

/-- What the switches show on a card. -/
def Toggles.card (t : Toggles) : Card :=
  { versionHidden := t.hideVersions, crcHidden := t.hideCrcs, tagsHidden := t.hideBashTags }

theorem Toggles.card_set {toggle : Toggle} (h : toggle.isDisplayOnly = false) (t : Toggles)
    (on : Bool) : (t.set toggle on).card = t.card := by
  cases toggle <;> first | rfl | cases h

namespace Session

variable {s t : Session}

/-- Whether switches are restored, without being applied. -/
def Act.restores : Act → Bool
  | .restoreToggles _ => true
  | _ => false

/-! ### The changes -/

/-- A row that can be selected among the shown plugins: one that there is, or the first
    if there is none. -/
def IsRow (shown : List Nat) (row : Nat) : Prop :=
  row < shown.length ∨ shown = [] ∧ row = 0

/-- What the changes keep that acts and keys are made of, as long as the plugins that are
    loaded have a property. -/
structure Lasting (Loaded : Plugin → Prop) (P : Session → Prop) : Prop where
  /-- Nothing else of a session matters. -/
  same : ∀ {s t : Session}, P s → t.plugins = s.plugins → t.criteria = s.criteria →
    t.view = s.view → t.selected = s.selected → P t
  load : ∀ {s : Session} (title : Option String) {plugins : List Plugin},
    (∀ p ∈ plugins, Loaded p) → P s → P (s.loaded title plugins)
  edit : ∀ {s : Session} (name : String) (e : Edit), P s →
    P { s with plugins := Merge.editFirst name e s.plugins }
  /-- Other criteria come with a needle that was trimmed, and with the same cards. -/
  criteria : ∀ {s : Session} (c : Criteria),
    (c.needle = s.criteria.needle ∨ ∃ value, c.needle = Text.trim value) →
    c.toggles.card = s.criteria.toggles.card → P s → P { s with criteria := c }
  /-- Other cards come with the switches that they show. -/
  cards : ∀ {s : Session} (toggles : Toggles), P s →
    P ({ s with criteria := { s.criteria with toggles := toggles } } : Session).showCards
  pass : ∀ {s : Session} (names : Names), P s → P (s.finishRefresh names)
  search : ∀ {s : Session} (needle : String), P s → P (s.search needle)
  select : ∀ {s : Session} (row : Nat), IsRow s.view.shown row → P s → P { s with selected := row }

namespace Lasting

variable {Loaded : Plugin → Prop} {P : Session → Prop}

/-! ### Outcomes -/

theorem ask (h : Lasting Loaded P) (hs : P s) (plugin : String) : P (s.ask plugin) :=
  h.same hs rfl rfl rfl rfl

theorem refresh (h : Lasting Loaded P) (hs : P s) : P s.refresh := by
  rcases s.refresh_cases with ⟨_, -, heq⟩ | ⟨-, -, heq⟩ | ⟨_, -, -, heq⟩ <;> rw [heq]
  · exact h.same hs rfl rfl rfl rfl
  · exact h.pass [] hs
  · exact h.ask hs _

theorem editAll (h : Lasting Loaded P) (hs : P s) (report : Report) :
    P { s with plugins := Merge.editAll report s.plugins } := by
  induction report generalizing s with
  | nil => exact hs
  | cons entry rest ih => exact ih (h.edit entry.1 entry.2.edit hs)

theorem taking (h : Lasting Loaded P) (hs : P s) (o : Outcome) : P (s.taking o) := by
  refine h.same (h.editAll hs o.findings) (taking_plugins s o) (taking_criteria s o) ?_
    (taking_rest s o).2.2.2.1
  cases o <;> rfl

theorem blame (h : Lasting Loaded P) (hs : P s) (o : Outcome) : P (s.blame o) := by
  cases o with
  | completed plugin report => exact hs
  | failed plugin text => exact h.same hs rfl rfl rfl rfl

theorem handle (h : Lasting Loaded P) (hs : P s) (o : Outcome) : P (s.handle o) := by
  have htaken := h.taking hs o
  rcases s.handle_cases o with ⟨-, heq⟩ | ⟨-, -, heq⟩ | ⟨-, -, heq⟩ <;> rw [heq]
  · exact h.refresh (h.same hs rfl rfl rfl rfl)
  · exact h.refresh (h.same htaken rfl rfl rfl rfl)
  · exact h.blame (h.pass _ htaken) o

theorem pollConflicts (h : Lasting Loaded P) (hs : P s) (arrival : Courier.Arrival) :
    P (s.pollConflicts arrival) := by
  fun_induction Session.pollConflicts s arrival with
  | case1 s _ => exact hs
  | case2 s o c _ ih => exact ih (h.handle (h.same (t := s.withCourier c) hs rfl rfl rfl rfl) o)

theorem waitForConflicts (h : Lasting Loaded P) (hs : P s) (engine : Engine) :
    P (s.waitForConflicts engine) := by
  fun_induction Session.waitForConflicts s engine with
  | case1 s _ => exact hs
  | case2 s o c _ ih => exact ih (h.handle (h.same (t := s.withCourier c) hs rfl rfl rfl rfl) o)

/-! ### Acts -/

theorem showCards (h : Lasting Loaded P) (hs : P s) : P s.showCards := h.cards s.criteria.toggles hs

theorem editPlugin (h : Lasting Loaded P) (hs : P s) (name : String) (e : Edit) :
    P (s.editPlugin name e) :=
  h.same (h.edit name e hs) (Merge.editNamed_plugins _ name e) rfl rfl rfl

theorem setToggle (h : Lasting Loaded P) (hs : P s) (toggle : Toggle) (on : Bool) :
    P (s.setToggle toggle on) := by
  rw [setToggle_eq]
  split
  · exact hs
  · cases hcard : toggle.isDisplayOnly with
    | true => exact h.same (h.cards (s.criteria.toggles.set toggle on) hs) rfl rfl rfl rfl
    | false =>
      apply h.refresh
      have hturned := h.criteria { s.criteria with toggles := s.criteria.toggles.set toggle on }
        (.inl rfl) (Toggles.card_set hcard s.criteria.toggles on) hs
      exact h.same hturned rfl rfl rfl rfl

theorem setContentFilter (h : Lasting Loaded P) (hs : P s) (value : String) :
    P (s.setContentFilter value) := by
  rw [setContentFilter_eq]
  split
  · exact hs
  · apply h.refresh
    have hset := h.criteria { s.criteria with needle := Text.trim value } (.inr ⟨value, rfl⟩) rfl hs
    exact h.same hset rfl rfl rfl rfl

theorem showConflicts (h : Lasting Loaded P) (hs : P s) (plugin : Option String) :
    P (s.showConflicts plugin) := by
  rw [showConflicts_eq]
  split
  · exact hs
  · exact h.refresh (h.criteria { s.criteria with conflictPlugin := plugin } (.inl rfl) rfl hs)

theorem isRow_clampSelection (s : Session) : IsRow s.view.shown s.clampSelection.selected := by
  unfold IsRow clampSelection
  by_cases hnone : s.view.shown = []
  · right
    simp [hnone]
  · have hpos : 0 < s.view.shown.length := List.length_pos_iff.mpr hnone
    left
    simp only
    split
    · omega
    · split <;> omega

theorem moveSelection (h : Lasting Loaded P) (hs : P s) (rows : Int) :
    P (s.moveSelection rows) := by
  have hrow : IsRow s.view.shown (s.moveSelection rows).selected :=
    isRow_clampSelection { s with selected := _ }
  exact h.select (s := s) (s.moveSelection rows).selected hrow hs

theorem isRow_of_mem_searchResults {row : Nat} (h : row ∈ s.searchResults) :
    IsRow s.view.shown row := by
  obtain ⟨k, i, hk, hi, -⟩ := View.mem_indicesFrom.mp h
  obtain ⟨hlt, -⟩ := List.getElem?_eq_some_iff.mp hi
  left
  omega

theorem selectNextResult (h : Lasting Loaded P) (hs : P s) : P s.selectNextResult := by
  unfold Session.selectNextResult
  simp only
  split
  · rename_i row hrow
    have hmem : row ∈ s.searchResults := by
      cases hnext : s.searchResults.find? fun row => decide (s.selected < row) with
      | some next =>
        rw [hnext] at hrow
        cases hrow
        exact List.mem_of_find?_eq_some hnext
      | none =>
        rw [hnext] at hrow
        exact List.mem_of_mem_head? hrow
    exact h.select row (isRow_of_mem_searchResults hmem) hs
  · exact hs

/-- **What the changes keep is kept by every act,** unless it only restores switches. -/
theorem perform (h : Lasting Loaded P) (hs : P s) {a : Act} (hload : a.LoadsOnly Loaded)
    (ha : a.restores = false) : P (s.perform a) := by
  cases a with
  | load title plugins => exact h.refresh (h.load title hload hs)
  | edit name e => exact h.editPlugin hs name e
  | setToggle toggle on => exact h.setToggle hs toggle on
  | flipToggle toggle => exact h.setToggle hs toggle _
  | restoreToggles toggles => cases ha
  | applyToggles =>
    rcases applyToggles_eq s with heq | heq <;> rw [Session.perform, heq]
    · exact h.showCards (h.refresh hs)
    · exact h.showCards hs
  | showCards => exact h.showCards hs
  | setContentFilter value => exact h.setContentFilter hs value
  | showConflicts plugin => exact h.showConflicts hs plugin
  | search needle => exact h.search needle hs
  | moveSelection rows => exact h.moveSelection hs rows
  | clampSelection => exact h.select _ (isRow_clampSelection s) hs
  | selectNextResult => exact h.selectNextResult hs
  | refresh => exact h.refresh hs
  | refreshAndWait engine => exact h.waitForConflicts (h.refresh hs) engine
  | answer engine => exact h.same hs rfl rfl rfl rfl
  | poll arrival => exact h.pollConflicts hs arrival
  | wait engine => exact h.waitForConflicts hs engine
  | tick arrival =>
    have hlive : P { s with notice := s.liveNotice } := h.same hs rfl rfl rfl rfl
    exact h.pollConflicts hlive arrival
  | note level text => exact h.same hs rfl rfl rfl rfl
  | scrollUp lines => exact h.same hs rfl rfl rfl rfl
  | scrollDown lines => exact h.same hs rfl rfl rfl rfl
  | notify text level duration => exact h.same hs rfl rfl rfl rfl
  | timePasses time => exact h.same hs rfl rfl rfl rfl

/-- What does not depend on the switches is kept when they are restored, too. -/
theorem perform_of_restore (h : Lasting Loaded P)
    (hrestore : ∀ {s : Session} (toggles : Toggles), P s → P (s.restoreToggles toggles))
    (hs : P s) {a : Act} (hload : a.LoadsOnly Loaded) : P (s.perform a) := by
  cases ha : a.restores with
  | false => exact h.perform hs hload ha
  | true =>
    cases a with
    | restoreToggles toggles => exact hrestore toggles hs
    | _ => cases ha

end Lasting

end Session

end LoadOrder
