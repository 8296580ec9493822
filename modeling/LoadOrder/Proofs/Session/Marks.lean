/-
  LoadOrder/Proofs/Session/Marks.lean
  ===================================
  **When the search marks are right, and when they are not.**

  A search marks the shown plugins that hold its needle, and it does not look at what
  the display switches have taken from the cards (`Plugin.isVisible`).  The marks are
  written again by every search and at the end of every filter pass, so they cannot be
  out of date because of the criteria, a new load order or an answer.

  A display switch, though, changes what a search would find and does not search again.
  The marks then stay those of the last search, and they are right exactly as long as
  no shown plugin has come to hold the needle or ceased to.
-/
import Mathlib.Data.List.Induction
import LoadOrder.Proofs.Session.Balance

namespace LoadOrder

/-- The plugin as it is when every display switch is off. -/
def Plugin.unswitched (p : Plugin) : Plugin := { p with card := { found := p.card.found } }

theorem Plugin.isVisible_empty (p : Plugin) : p.isVisible "" = true := by
  have hempty : Text.lowercase "" = "" := rfl
  simp only [isVisible, hempty, beq_self_eq_true, Bool.true_or]

namespace Session

variable {s t u : Session}

/-! ### Marks that are current -/

/-- The plugins that are marked are those that a search for the present needle would
    find now. -/
def MarksCurrent (s : Session) : Prop :=
  ∀ i p, s.plugins[i]? = some p →
    (p.card.found = true ↔
      s.needle ≠ "" ∧ i ∈ s.view.shown ∧ p.isVisible s.needle = true)

theorem marksCurrent_search (s : Session) (needle : String) : (s.search needle).MarksCurrent := by
  intro i p hp
  simp only [search, List.getElem?_mapIdx, Option.map_eq_some_iff] at hp
  obtain ⟨q, -, rfl⟩ := hp
  -- what is found on a card does not depend on the mark
  show _ ↔ needle ≠ "" ∧ i ∈ s.view.shown ∧ q.isVisible needle = true
  simp only [Bool.and_eq_true, bne_iff_ne, List.contains_iff_mem]

theorem marksCurrent_finishRefresh (s : Session) (names : Names) :
    (s.finishRefresh names).MarksCurrent :=
  marksCurrent_search _ s.needle

theorem MarksCurrent.blame (h : s.MarksCurrent) (o : Outcome) : (s.blame o).MarksCurrent := by
  cases o <;> exact h

theorem marksCurrent_refresh (hs : s.courier.Sound)
    (hidle : s.refresh.courier.active = none) : s.refresh.MarksCurrent := by
  rcases s.refresh_cases with ⟨plugin, hactive, heq⟩ | ⟨-, -, heq⟩ | ⟨plugin, hactive, -, heq⟩ <;>
    rw [heq] at hidle ⊢
  · cases hactive.symm.trans hidle
  · exact marksCurrent_finishRefresh s []
  · have hsend : (s.ask plugin).courier = _ := hs.send_of_free hactive plugin
    rw [hsend] at hidle
    cases hidle

theorem marksCurrent_handle (hs : s.courier.Sound) {o : Outcome}
    (hidle : (s.handle o).courier.active = none) : (s.handle o).MarksCurrent := by
  rcases s.handle_cases o with ⟨-, heq⟩ | ⟨-, -, heq⟩ | ⟨-, -, heq⟩ <;> rw [heq] at hidle ⊢
  · exact marksCurrent_refresh (s := s.dropping o) hs hidle
  · refine marksCurrent_refresh ?_ hidle
    rwa [taking_courier]
  · exact (marksCurrent_finishRefresh _ _).blame o

/-! ### Marks that are kept -/

/-- What the marks depend on is the same in two sessions in which no question is out. -/
structure SameMarks (s t : Session) : Prop where
  idle : s.courier.active = none
  needle : t.needle = s.needle
  view : t.view = s.view
  plugins : t.plugins = s.plugins

theorem MarksCurrent.of_same (h : s.MarksCurrent) (hst : SameMarks s t) : t.MarksCurrent := by
  intro i p hp
  rw [hst.plugins] at hp
  rw [hst.needle, hst.view]
  exact h i p hp

/-- **A step writes the marks or keeps them,** if no question is out afterwards. -/
theorem marks_step {k : List PickUp} (hst : Step s k t) (hs : s.courier.Sound)
    (hidle : t.courier.active = none) : t.MarksCurrent ∨ SameMarks s t := by
  cases hst with
  | aside => exact .inr ⟨hidle, rfl, rfl, rfl⟩
  | search needle => exact .inl (marksCurrent_search s needle)
  | refresh criteria =>
    exact .inl (marksCurrent_refresh (s := { s with criteria := criteria }) hs hidle)
  | answer engine =>
    obtain ⟨-, -, hactive⟩ := hs.arrive (.always engine)
    exact .inr ⟨hactive.symm.trans hidle, rfl, rfl, rfl⟩
  | @pickUp _ o c hp =>
    obtain ⟨_, _, _, _, rfl⟩ := hs.poll_eq_some hp
    exact .inl (marksCurrent_handle (.freed _) hidle)

theorem marks_path {k : List PickUp} (h : Path s k t) (hs : s.courier.Sound)
    (hidle : t.courier.active = none) : t.MarksCurrent ∨ SameMarks s t := by
  induction h with
  | refl s => exact .inr ⟨hidle, rfl, rfl, rfl⟩
  | head hst _ ih =>
    -- the last step that writes the marks decides, and those after it keep them
    rcases ih (sound_step hst hs) hidle with hcurrent | hsame
    · exact .inl hcurrent
    · rcases marks_step hst hs hsame.idle with hcurrent | hsame'
      · exact .inl (hcurrent.of_same hsame)
      · exact .inr
          { idle := hsame'.idle
            needle := hsame.needle.trans hsame'.needle
            view := hsame.view.trans hsame'.view
            plugins := hsame.plugins.trans hsame'.plugins }

/-! ### Display switches -/

/-- Between two sessions nothing has happened to what the marks depend on, but that in
    some of the acts a display switch was turned. -/
structure Switched (s : Session) (acts : List Act) (t : Session) : Prop where
  needle : t.needle = s.needle
  view : t.view = s.view
  plugins : t.plugins.map Plugin.unswitched = s.plugins.map Plugin.unswitched
  unturned : (∀ a ∈ acts, a.turnsCards = false) → t.plugins = s.plugins

theorem SameMarks.switched (h : SameMarks s t) (acts : List Act) : Switched s acts t where
  needle := h.needle
  view := h.view
  plugins := by rw [h.plugins]
  unturned := fun _ => h.plugins

theorem Switched.append {acts more : List Act} (hst : Switched s acts t)
    (htu : Switched t more u) : Switched s (acts ++ more) u where
  needle := htu.needle.trans hst.needle
  view := htu.view.trans hst.view
  plugins := htu.plugins.trans hst.plugins
  unturned := by
    intro h
    have hacts : ∀ a ∈ acts, a.turnsCards = false := fun a ha => h a (List.mem_append_left _ ha)
    have hmore : ∀ a ∈ more, a.turnsCards = false := fun a ha => h a (List.mem_append_right _ ha)
    exact (htu.unturned hmore).trans (hst.unturned hacts)

theorem switched_turned (s : Session) (toggle : Toggle) (on : Bool) {a : Act}
    (hturns : a.turnsCards = true) : Switched s [a] (s.turned toggle on).showCards where
  needle := rfl
  view := rfl
  plugins := by
    show (s.plugins.map _).map Plugin.unswitched = _
    rw [List.map_map]
    rfl
  unturned := by
    intro h
    rw [h a List.mem_cons_self] at hturns
    cases hturns

/-- An act writes the marks or keeps what they depend on, display switches aside, if no
    question is out afterwards. -/
theorem marks_perform (hs : s.courier.Sound) {a : Act} (ha : a.isEveryday = true)
    (hidle : (s.perform a).courier.active = none) :
    (s.perform a).MarksCurrent ∨
      (s.courier.active = none ∧ Switched s [a] (s.perform a)) := by
  cases s.effect hs a with
  | path h =>
    rcases marks_path h hs hidle with hcurrent | hsame
    · exact .inl hcurrent
    · exact .inr ⟨hsame.idle, hsame.switched [a]⟩
  | load title plugins =>
    rw [perform, load_eq] at hidle ⊢
    exact .inl (marksCurrent_refresh (s := s.loaded title plugins) hs hidle)
  | edit name e => cases ha
  | restoreToggles toggles => cases ha
  | applyToggles => cases ha
  | showCards => cases ha
  | turn toggle on _ hturns _ h =>
    rw [h] at hidle ⊢
    exact .inr ⟨hidle, switched_turned s toggle on hturns⟩

/-- At the end of a run the marks are those of an earlier session in the run, at which
    they were current. -/
theorem marks_run (hs : s.courier.Sound) (hcurrent : s.MarksCurrent) (acts : List Act)
    (hacts : ∀ a ∈ acts, a.isEveryday = true) (hidle : (s.run acts).courier.active = none) :
    ∃ before after, acts = before ++ after ∧ (s.run before).courier.active = none ∧
      (s.run before).MarksCurrent ∧ Switched (s.run before) after (s.run acts) := by
  induction acts using List.reverseRecOn with
  | nil => exact ⟨[], [], rfl, hidle, hcurrent, rfl, rfl, rfl, fun _ => rfl⟩
  | append_singleton acts a ih =>
    have hsound : (s.run acts).courier.Sound :=
      run_kept (P := fun t => t.courier.Sound) (fun _ b _ ht => sound_perform ht b) hs
    have hrun : s.run (acts ++ [a]) = (s.run acts).perform a := run_append s acts [a]
    have ha : a.isEveryday = true := hacts a (List.mem_append_right _ List.mem_cons_self)
    have hidle' : ((s.run acts).perform a).courier.active = none := by rwa [← hrun]
    rcases marks_perform hsound ha hidle' with hnow | ⟨hbefore, hswitched⟩
    · refine ⟨acts ++ [a], [], (List.append_nil _).symm, hidle, ?_, rfl, rfl, rfl, fun _ => rfl⟩
      rwa [hrun]
    · obtain ⟨before, after, rfl, hfree, hmarks, hsince⟩ :=
        ih (fun b hb => hacts b (List.mem_append_left _ hb)) hbefore
      refine ⟨before, after ++ [a], List.append_assoc _ _ _, hfree, hmarks, ?_⟩
      rw [hrun]
      exact hsince.append hswitched

theorem Switched.found {acts : List Act} (hst : Switched s acts t) {i : Nat} {p : Plugin}
    (hp : t.plugins[i]? = some p) :
    ∃ q, s.plugins[i]? = some q ∧ p.card.found = q.card.found := by
  have hmap : (t.plugins.map Plugin.unswitched)[i]? = (s.plugins.map Plugin.unswitched)[i]? := by
    rw [hst.plugins]
  rw [List.getElem?_map, List.getElem?_map, hp] at hmap
  cases hq : s.plugins[i]? with
  | none =>
    rw [hq] at hmap
    cases hmap
  | some q =>
    rw [hq] at hmap
    have hplugin : p.unswitched = q.unswitched := Option.some.inj hmap
    have hfound : p.unswitched.card.found = q.unswitched.card.found := by rw [hplugin]
    exact ⟨q, rfl, hfound⟩

theorem Switched.length_eq {acts : List Act} (hst : Switched s acts t) :
    t.plugins.length = s.plugins.length := by
  rw [← List.length_map Plugin.unswitched, hst.plugins, List.length_map]

theorem isMatch_of_some {needle : String} {i : Nat} {p : Plugin} (h : s.plugins[i]? = some p) :
    s.isMatch needle i = p.isVisible needle := by
  simp only [isMatch, h]

/-- Marks that were current are current still if and only if every shown plugin holds
    the needle as it did then. -/
theorem marksCurrent_iff (h : s.MarksCurrent) {acts : List Act} (hst : Switched s acts t) :
    t.MarksCurrent ↔ ∀ i ∈ t.view.shown, t.isMatch t.needle i = s.isMatch t.needle i := by
  constructor
  · intro hnow i hi
    cases hp : t.plugins[i]? with
    | none =>
      have hlen := List.getElem?_eq_none_iff.mp hp
      rw [hst.length_eq] at hlen
      simp only [isMatch, hp, List.getElem?_eq_none hlen]
    | some p =>
      obtain ⟨q, hq, hfound⟩ := hst.found hp
      rw [isMatch_of_some hp, isMatch_of_some hq]
      have hthen := h i q hq
      rw [← hst.needle, ← hst.view, ← hfound, hnow i p hp] at hthen
      -- nothing is marked for the empty needle, though everything holds it
      by_cases hneedle : t.needle = ""
      · rw [hneedle, Plugin.isVisible_empty, Plugin.isVisible_empty]
      · simpa only [ne_eq, hneedle, not_false_eq_true, hi, true_and, Bool.coe_iff_coe] using hthen
  · intro hall i p hp
    obtain ⟨q, hq, hfound⟩ := hst.found hp
    have hthen := h i q hq
    rw [← hst.needle, ← hst.view, ← hfound] at hthen
    rw [hthen]
    refine and_congr_right fun _ => and_congr_right fun hi => ?_
    have hsame := hall i hi
    rw [isMatch_of_some hp, isMatch_of_some hq] at hsame
    rw [hsame]

/-! ### Runs of a new session -/

/-- **The search marks are those of the last time they were written.**  In everyday use
    this holds when no question is out: at some time in the run the marks were current,
    and since then neither the needle nor the view has changed, nor anything of the
    plugins if no display switch was turned; if one was, the marks are current still if
    and only if every shown plugin holds the needle as it did then. -/
theorem marks_run_new (toggles : Toggles) (phrase : String) (acts : List Act)
    (hacts : ∀ a ∈ acts, a.isEveryday = true) :
    let start := new toggles phrase
    let s := start.run acts
    s.isBusy = false →
      ∃ before after, acts = before ++ after ∧
        let t := start.run before
        t.isBusy = false ∧ t.MarksCurrent ∧ s.needle = t.needle ∧ s.view = t.view ∧
        s.plugins.map Plugin.unswitched = t.plugins.map Plugin.unswitched ∧
        ((∀ a ∈ after, a.turnsCards = false) → s.plugins = t.plugins) ∧
        (s.MarksCurrent ↔ ∀ i ∈ s.view.shown, s.isMatch s.needle i = t.isMatch s.needle i) := by
  intro start s hidle
  have hactive : s.courier.active = none := isBusy_eq_false_iff.mp hidle
  have hnew : start.MarksCurrent := fun i p hp => by cases hp
  obtain ⟨before, after, happ, hfree, hmarks, hst⟩ :=
    marks_run (sound_new toggles phrase) hnew acts hacts hactive
  exact ⟨before, after, happ, isBusy_eq_false_iff.mpr hfree, hmarks, hst.needle, hst.view,
    hst.plugins, hst.unturned, marksCurrent_iff hmarks hst⟩

/-- A search for a version, and then the display switch that takes the versions away. -/
theorem marks_search_hideVersions :
    let acts : List Act :=
      [.load none [Plugin.ofData "A.esp" { version := "2.0" }], .search "2.0",
       .setToggle .hideVersions true]
    let start := new {} defaultPhrase
    let s := start.run acts
    (∀ a ∈ acts, a.isEveryday = true) ∧ s.isBusy = false ∧
      ∃ before after, acts = before ++ after ∧ (start.run before).MarksCurrent ∧
        s.view = (start.run before).view ∧
        (s.MarksCurrent ↔ ∀ i ∈ s.view.shown,
          s.isMatch s.needle i = (start.run before).isMatch s.needle i) := by
  intro acts start s
  have hacts : ∀ a ∈ acts, a.isEveryday = true := by decide
  have hidle : s.isBusy = false := rfl
  obtain ⟨before, after, happ, -, hmarks, -, hview, -, -, hiff⟩ :=
    marks_run_new {} defaultPhrase acts hacts hidle
  exact ⟨hacts, hidle, before, after, happ, hmarks, hview, hiff⟩

/-- **Marks may be out of date.**  A plugin is found by its version, the versions are
    taken from the cards, and the plugin keeps its mark. -/
theorem not_marksCurrent_hideVersions :
    let acts : List Act :=
      [.load none [Plugin.ofData "A.esp" { version := "2.0" }], .search "2.0",
       .setToggle .hideVersions true]
    let s := (new {} defaultPhrase).run acts
    (∀ a ∈ acts, a.isEveryday = true) ∧ s.isBusy = false ∧ ¬s.MarksCurrent := by
  intro acts s
  refine ⟨by decide, rfl, fun hcurrent => ?_⟩
  have hmark : s.plugins.map (fun p => (p.card.found, p.isVisible s.needle)) =
      [(true, false)] := by decide +kernel
  obtain ⟨p, hp, hpair⟩ : ∃ p, s.plugins = [p] ∧ (p.card.found, p.isVisible s.needle) =
      (true, false) := ⟨_, rfl, List.head_eq_of_cons_eq hmark⟩
  obtain ⟨hfound, hvisible⟩ := Prod.mk.inj hpair
  have hheld := ((hcurrent 0 p (by rw [hp]; rfl)).mp hfound).2.2
  rw [hvisible] at hheld
  cases hheld

end Session

end LoadOrder
