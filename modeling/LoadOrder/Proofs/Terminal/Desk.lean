/-
  LoadOrder/Proofs/Terminal/Desk.lean
  ===================================
  **What can be relied on at the screen, whatever happens.**

  At a desk two things go on at once: keys are pressed, and the program acts on the
  session of its own, as when an outcome is picked up.  A key press comes to acts, and
  to a new status or a new row for the selection (`Keyed`); so it keeps what acts keep.

  The screen is drawn after any of this, and it takes for granted that its rows are
  plugins, that the selected row is there, and that the header and the cards say what
  the session does (`orderly_run_new`).
-/
import LoadOrder.Proofs.Session.Criteria
import LoadOrder.Terminal.Clipboard

namespace LoadOrder.Terminal

open LoadOrder Session

/-! ### Key presses -/

/-- What a key press makes of a session. -/
inductive Keyed (s : Session) : Session → Prop where
  | refl : Keyed s s
  | act {t : Session} (a : Act) (hload : a.isLoad = false) (ha : a.restores = false)
      (h : Keyed s t) : Keyed s (t.perform a)
  | status {t : Session} (text : String) (h : Keyed s t) : Keyed s { t with status := text }
  | select {t : Session} (row : Nat) (hrow : IsRow t.view.shown row) (h : Keyed s t) :
      Keyed s { t with selected := row }

namespace Keyed

variable {s t : Session}

theorem lasting {Loaded : Plugin → Prop} {P : Session → Prop} (hP : Lasting Loaded P)
    (h : Keyed s t) (hs : P s) : P t := by
  induction h with
  | refl => exact hs
  | act a hload ha _ ih => exact hP.perform ih (Act.loadsOnly_of_isLoad hload Loaded) ha
  | status text _ ih => exact hP.same ih rfl rfl rfl rfl
  | select row hrow _ ih => exact hP.select row hrow ih

theorem reached (h : Keyed s t) (hs : s.Reached) : t.Reached := by
  induction h with
  | refl => exact hs
  | act a _ _ _ ih => exact ih.perform a
  | @status t text _ ih => exact ih.path (path_aside t text t.log t.notice t.selected t.clock)
  | @select t row _ _ ih => exact ih.path (path_aside t t.status t.log t.notice row t.clock)

end Keyed

namespace Desk

variable (s : Session) (d : Desk)

theorem isRow_zero (shown : List Nat) : IsRow shown 0 := by
  cases shown with
  | nil => exact .inr ⟨rfl, rfl⟩
  | cons i rest => exact .inl (Nat.zero_lt_succ _)

theorem isRow_last (shown : List Nat) : IsRow shown (shown.length - 1) := by
  cases shown with
  | nil => exact .inr ⟨rfl, rfl⟩
  | cons i rest => exact .inl (Nat.lt_succ_self _)

theorem keyed_act (a : Act) (hload : a.isLoad = false) (ha : a.restores = false) :
    Keyed s (s.perform a) := .act a hload ha .refl

theorem keyed_toggleConflicts : Keyed s (toggleConflicts s) := by
  unfold toggleConflicts
  split
  · exact .refl
  · split
    · exact keyed_act s (.showConflicts none) rfl rfl
    · exact keyed_act s (.showConflicts (some _)) rfl rfl

theorem keyed_clearSearch : Keyed s (clearSearch s) := by
  unfold clearSearch
  split
  · exact .refl
  · exact .status _ (keyed_act s (.search "") rfl rfl)

theorem keyed_runSearch (line : String) : Keyed s (runSearch s line) := by
  unfold runSearch
  simp only
  split
  · exact keyed_act s (.search _) rfl rfl
  · exact .act .selectNextResult rfl rfl (.status _ (keyed_act s (.search _) rfl rfl))

theorem keyed_applyLine (line : String) (purpose : Purpose) :
    Keyed s (applyLine s line purpose) := by
  cases purpose with
  | contentFilter => exact keyed_act s (.setContentFilter line) rfl rfl
  | search => exact keyed_runSearch s line

theorem keyed_normalChar (c : Char) (onlyControl : Bool) :
    Keyed d.session (d.normalChar c onlyControl).session := by
  unfold normalChar
  -- the branches in the order in which the characters are tried
  split
  · exact .refl
  split
  · exact keyed_act d.session (.moveSelection (-1)) rfl rfl
  split
  · exact keyed_act d.session (.moveSelection 1) rfl rfl
  split
  · rename_i toggle _
    exact keyed_act d.session (.flipToggle toggle) rfl rfl
  split
  · exact .refl
  split
  · exact .refl
  split
  · exact keyed_act d.session .selectNextResult rfl rfl
  split
  · exact keyed_toggleConflicts d.session
  split
  · exact keyed_act d.session (.showConflicts none) rfl rfl
  · exact .refl

theorem keyed_normalKey (k : Key) : Keyed d.session (d.normalKey k).session := by
  unfold normalKey
  cases k.code with
  | char c => exact keyed_normalChar d c _
  | up => exact keyed_act d.session (.moveSelection (-1)) rfl rfl
  | down => exact keyed_act d.session (.moveSelection 1) rfl rfl
  | home => exact .select 0 (isRow_zero _) .refl
  | finish => exact .select _ (isRow_last _) .refl
  | pageUp => exact keyed_act d.session (.scrollUp pageLines) rfl rfl
  | pageDown => exact keyed_act d.session (.scrollDown pageLines) rfl rfl
  | esc => exact keyed_clearSearch d.session
  | _ => exact .refl

theorem keyed_editKey (k : Key) (prompt buffer : String) (purpose : Purpose) :
    Keyed d.session (d.editKey k prompt buffer purpose).session := by
  unfold editKey
  cases k.code with
  | esc => exact keyed_act d.session (.notify (cancelText purpose) .warn cancelNoticeTime) rfl rfl
  | enter => exact keyed_applyLine d.session buffer purpose
  | char c =>
    simp only
    split <;> exact .refl
  | _ => exact .refl

theorem keyed_press (k : Key) : Keyed d.session (d.press k).session := by
  unfold press
  split
  · exact keyed_normalKey d k
  · exact keyed_editKey d k _ _ _

theorem keyed_noteCopied (status notice : String) (answer : Copied) :
    Keyed s (noteCopied s status notice answer) := by
  cases answer with
  | taken => exact .act (.notify notice .info copyNoticeTime) rfl rfl (.status _ .refl)
  | unavailable reason => exact .act (.note .warn _) rfl rfl (.status _ .refl)
  | refused reason => exact .act (.note .warn _) rfl rfl (.status _ .refl)

/-- **A key press comes to acts, statuses and rows,** whatever the clipboard says. -/
theorem keyed_pressWith (clipboard : Clipboard) (k : Key) :
    Keyed d.session (d.pressWith clipboard k).session := by
  unfold pressWith
  split
  · exact keyed_press d k
  split
  · exact keyed_noteCopied d.session _ _ _
  · show Keyed d.session (copyCard d.session clipboard)
    unfold copyCard
    split
    · exact .refl
    · exact keyed_noteCopied d.session _ _ _
  · exact keyed_press d k

end Desk

/-! ### Runs of a desk -/

/-- What may happen at a desk. -/
inductive Happening where
  | act (a : Act)
  | press (k : Key) (clipboard : Clipboard)

namespace Happening

def restores : Happening → Bool
  | .act a => a.restores
  | .press _ _ => false

/-- Switches that are restored are applied later on. -/
def RestoresApplied : List Happening → Prop
  | [] => True
  | h :: rest => (h.restores = true → .act .applyToggles ∈ rest) ∧ RestoresApplied rest

end Happening

namespace Desk

variable {d : Desk}

def meet (d : Desk) : Happening → Desk
  | .act a => d.onSession fun s => s.perform a
  | .press k clipboard => d.pressWith clipboard k

def run (d : Desk) (happenings : List Happening) : Desk := happenings.foldl meet d

/-- What holds at a desk at any time. -/
structure Orderly (s : Session) : Prop where
  reached : s.Reached
  rows : s.Rows
  trimmed : Text.Trimmed s.criteria.needle

theorem Orderly.meet (h : Orderly d.session) (happening : Happening) :
    Orderly (d.meet happening).session := by
  cases happening with
  | press k clipboard =>
    have hkeyed := keyed_pressWith d clipboard k
    have hrows : Lasting (fun _ => True) Rows := lasting_rows
    have htrimmed : Lasting (fun _ => True) fun s => Text.Trimmed s.criteria.needle :=
      lasting_trimmed
    exact ⟨hkeyed.reached h.reached, hkeyed.lasting hrows h.rows,
      hkeyed.lasting htrimmed h.trimmed⟩
  | act a => exact ⟨h.reached.perform a, h.rows.perform a, trimmed_perform h.trimmed a⟩

theorem Orderly.run (h : Orderly d.session) (happenings : List Happening) :
    Orderly (d.run happenings).session := by
  induction happenings generalizing d with
  | nil => exact h
  | cons happening rest ih => exact ih (h.meet happening)

/-! ### Cards -/

theorem carded_meet {happening : Happening} (h : d.session.Carded)
    (hno : happening.restores = false) : (d.meet happening).session.Carded := by
  have hlasting : Lasting (fun _ => True) Carded := lasting_carded
  cases happening with
  | press k clipboard => exact (keyed_pressWith d clipboard k).lasting hlasting h
  | act a => exact hlasting.perform h a.loadsOnly_true hno

/-- The cards are right at the end if they are right now, or if the switches are still
    to be applied. -/
theorem carded_run {happenings : List Happening} (happlied : Happening.RestoresApplied happenings)
    (h : d.session.Carded ∨ .act .applyToggles ∈ happenings) :
    (d.run happenings).session.Carded := by
  induction happenings generalizing d with
  | nil =>
    rcases h with hcarded | hmem
    · exact hcarded
    · cases hmem
  | cons happening rest ih =>
    obtain ⟨hrestore, hrest⟩ := happlied
    apply ih hrest
    cases hrestores : happening.restores with
    | true => exact .inr (hrestore hrestores)
    | false =>
      rcases h with hcarded | hmem
      · exact .inl (carded_meet hcarded hrestores)
      · rcases List.mem_cons.mp hmem with rfl | hmem
        · exact .inl (carded_applyToggles d.session)
        · exact .inr hmem

/-! ### A new session at a desk -/

theorem orderly_new (toggles : Toggles) (phrase : String) :
    Orderly (Session.new toggles phrase) where
  reached := reached_run_new toggles phrase []
  rows := ⟨.nil, List.forall_mem_nil _, .inr ⟨rfl, rfl⟩, fun _ _ hp => by cases hp⟩
  trimmed := Text.trimmed_trim ""

/-- **What can be relied on at the screen.**  Whatever is done at a desk and whatever the
    engine does: the rows are places of the load order, in its order; the selected row
    is one of them, or the first if there is none; the header speaks of a question
    exactly while one is out; the content filter has no blanks around it; the cards show
    what the switches say, when switches that were restored have been applied; the search
    marks no plugin without a row; and a search says how many rows it has marked. -/
theorem orderly_run_new (toggles : Toggles) (phrase : String) (happenings : List Happening) :
    let s := (run { session := Session.new toggles phrase } happenings).session
    s.view.shown.Pairwise (· < ·) ∧
    (∀ i ∈ s.view.shown, i < s.plugins.length) ∧
    (s.selected < s.view.shown.length ∨ s.view.shown = [] ∧ s.selected = 0) ∧
    s.progress.isSome = s.isBusy ∧
    Text.Trimmed s.criteria.needle ∧
    (Happening.RestoresApplied happenings → ∀ p ∈ s.plugins,
      p.card.versionHidden = s.criteria.toggles.hideVersions ∧
      p.card.crcHidden = s.criteria.toggles.hideCrcs ∧
      p.card.tagsHidden = s.criteria.toggles.hideBashTags) ∧
    (∀ i p, s.plugins[i]? = some p → p.card.found = true → i ∈ s.view.shown) ∧
    ∀ (t : Session) (needle : String),
      (t.search needle).searchResults.length = t.matchCount needle := by
  intro s
  have h : Orderly s := Orderly.run (orderly_new toggles phrase) happenings
  refine ⟨h.rows.sorted, h.rows.inside, h.rows.selected, h.reached.resting.progress, h.trimmed,
    ?_, h.rows.found, length_searchResults_search⟩
  intro happlied p hp
  have hcarded : s.Carded := carded_run happlied (.inl fun _ hq => nomatch hq)
  have hcard := hcarded p hp
  exact ⟨congrArg Card.versionHidden hcard, congrArg Card.crcHidden hcard,
    congrArg Card.tagsHidden hcard⟩

/-- Switches are restored, a load order comes, they are applied; then a search is typed. -/
theorem orderly_restore_search :
    let happenings : List Happening :=
      [.act (.restoreToggles { hideInactive := true, hideVersions := true }),
       .act (.load none [Plugin.ofData "A.esp" {}, Plugin.ofData "B.esp" { active := true }]),
       .act .applyToggles, .press { code := .char '/' } fun _ => .taken,
       .press { code := .char 'b' } fun _ => .taken, .press { code := .enter } fun _ => .taken,
       .press { code := .char 'y' } fun _ => .unavailable "no display"]
    let s := (run { session := Session.new {} defaultPhrase } happenings).session
    Happening.RestoresApplied happenings ∧ s.view.shown = [1] ∧ s.searchResults = [0] ∧
      (s.selected < s.view.shown.length ∨ s.view.shown = [] ∧ s.selected = 0) ∧
      ∀ p ∈ s.plugins, p.card.versionHidden = s.criteria.toggles.hideVersions := by
  intro happenings s
  have happlied : Happening.RestoresApplied happenings := by
    simp [happenings, Happening.RestoresApplied, Happening.restores, Act.restores]
  obtain ⟨-, -, hselected, -, -, hcards, -, -⟩ := orderly_run_new {} defaultPhrase happenings
  exact ⟨happlied, by decide, by decide, hselected, fun p hp => (hcards happlied p hp).1⟩

end Desk

end LoadOrder.Terminal
