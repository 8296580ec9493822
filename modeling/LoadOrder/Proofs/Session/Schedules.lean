/-
  LoadOrder/Proofs/Session/Schedules.lean
  =======================================
  **It does not matter when the outcomes are picked up.**

  A user asks for the conflicts of a plugin and then turns switches and sets the content
  filter.  Between any two of these settings outcomes may be picked up (`Schedule`), and
  different schedules make different questions, merges and passes.  Still they lead to
  the same, as soon as nothing is out.

  Each run is compared with the one in which nothing is picked up at all (`Follows`).
  That run has the settings and none of the findings.  A run that follows it has the same
  plugins as soon as the findings are merged into both (`Merge.Alike`); and as a merge
  that is made again changes nothing, it may have been made any number of times before.
-/
import LoadOrder.Proofs.Session.Reached
import LoadOrder.Proofs.Session.Settled

namespace LoadOrder

/-! ### Plugins up to a merge -/

namespace Plugin

/-- The plugin with what the display switches say on its card. -/
def carded (toggles : Toggles) (p : Plugin) : Plugin :=
  { p with
    card :=
      { p.card with
        versionHidden := toggles.hideVersions, crcHidden := toggles.hideCrcs
        tagsHidden := toggles.hideBashTags } }

theorem apart_carded (toggles : Toggles) : Apart (carded toggles) :=
  apart_card fun card =>
    { card with
      versionHidden := toggles.hideVersions, crcHidden := toggles.hideCrcs
      tagsHidden := toggles.hideBashTags }

theorem map_unmarked_carded (toggles : Toggles) (l : List Plugin) :
    (l.map (carded toggles)).map unmarked = (l.map unmarked).map (carded toggles) := by
  rw [List.map_map, List.map_map]
  rfl

end Plugin

namespace Merge

variable {report : Report} {j k l : List Plugin}

theorem editAll_carded_unmarked (report : Report) (toggles : Toggles) (l : List Plugin) :
    (editAll report (l.map (Plugin.carded toggles))).map Plugin.unmarked =
      ((editAll report l).map Plugin.unmarked).map (Plugin.carded toggles) := by
  rw [← editAll_map (Plugin.apart_carded toggles), Plugin.map_unmarked_carded]

/-- The plugins are the same, marks aside, as soon as a report is merged into both. -/
def Alike (report : Report) (k l : List Plugin) : Prop :=
  (editAll report k).map Plugin.unmarked = (editAll report l).map Plugin.unmarked

theorem Alike.trans (hjk : Alike report j k) (hkl : Alike report k l) : Alike report j l :=
  Eq.trans hjk hkl

theorem alike_editAll (report : Report) (l : List Plugin) : Alike report (editAll report l) l := by
  rw [Alike, editAll_editAll]

theorem alike_of_unmarked (h : k.map Plugin.unmarked = l.map Plugin.unmarked) :
    Alike report k l := by
  rw [Alike, editAll_map Plugin.apart_unmarked, h, ← editAll_map Plugin.apart_unmarked]

theorem Alike.carded (h : Alike report k l) (toggles : Toggles) :
    Alike report (k.map (Plugin.carded toggles)) (l.map (Plugin.carded toggles)) := by
  have hmerged : (editAll report k).map Plugin.unmarked =
      (editAll report l).map Plugin.unmarked := h
  rw [Alike, editAll_carded_unmarked, editAll_carded_unmarked, hmerged]

end Merge

namespace Session

variable {r s t : Session} {engine : Engine} {plugin : String} {o : Outcome}

/-! ### Schedules -/

/-- Whether an act turns a switch or sets the content filter. -/
def Act.isSetting : Act → Bool
  | .setToggle _ _ => true
  | .flipToggle _ => true
  | .setContentFilter _ => true
  | _ => false

/-- What has arrived is what an engine answers. -/
def ArrivesFrom (engine : Engine) (arrival : Courier.Arrival) : Prop :=
  ∀ asked request answer, arrival asked request = some answer → answer = engine asked request

/-- Settings, and between them an engine that answers at any time and somebody who looks
    or waits at any time. -/
inductive Schedule (engine : Engine) : List Act → List Act → Prop where
  | done : Schedule engine [] []
  | setting {a : Act} {settings acts : List Act} (ha : a.isSetting = true)
      (h : Schedule engine settings acts) : Schedule engine (a :: settings) (a :: acts)
  | answer {settings acts : List Act} (h : Schedule engine settings acts) :
      Schedule engine settings (.answer engine :: acts)
  | poll {settings acts : List Act} {arrival : Courier.Arrival}
      (harrival : ArrivesFrom engine arrival) (h : Schedule engine settings acts) :
      Schedule engine settings (.poll arrival :: acts)
  | tick {settings acts : List Act} {arrival : Courier.Arrival}
      (harrival : ArrivesFrom engine arrival) (h : Schedule engine settings acts) :
      Schedule engine settings (.tick arrival :: acts)
  | wait {settings acts : List Act} (h : Schedule engine settings acts) :
      Schedule engine settings (.wait engine :: acts)

theorem arrivesFrom_always (engine : Engine) : ArrivesFrom engine (.always engine) := by
  intro asked request answer h
  exact (Option.some.inj h).symm

/-! ### What a setting comes to -/

/-- The same session with other criteria, apart from what is told. -/
structure Revised (criteria : Criteria) (s t : Session) : Prop where
  criteria : t.criteria = criteria
  plugins : t.plugins = s.plugins
  courier : t.courier = s.courier
  edition : t.edition = s.edition
  askedEdition : t.askedEdition = s.askedEdition

theorem revised_turned (s : Session) (toggle : Toggle) (on : Bool) :
    Revised { s.criteria with toggles := s.criteria.toggles.set toggle on } s
      (s.turned toggle on) :=
  ⟨rfl, rfl, rfl, rfl, rfl⟩

theorem revised_filteredBy (s : Session) (value : String) :
    Revised { s.criteria with needle := Text.trim value } s (s.filteredBy value) := by
  cases s
  exact ⟨rfl, rfl, rfl, rfl, rfl⟩

/-- What a setting comes to in all sessions with the same criteria: nothing, new cards, or
    a refresh for other criteria, with the same conflict plugin. -/
inductive Setting (c : Criteria) (f : Session → Session) : Prop where
  | nothing (h : ∀ u : Session, u.criteria = c → f u = u)
  | cards (toggle : Toggle) (on : Bool) (hcard : toggle.isDisplayOnly = true)
      (h : ∀ u : Session, u.criteria = c → f u = (u.turned toggle on).showCards)
  | refresh (c' : Criteria) (hconf : c'.conflictPlugin = c.conflictPlugin)
      (h : ∀ u : Session, u.criteria = c → ∃ v, Revised c' u v ∧ f u = v.refresh)

theorem Setting.congr {c : Criteria} {f g : Session → Session} (h : Setting c f)
    (hfg : ∀ u : Session, u.criteria = c → g u = f u) : Setting c g := by
  cases h with
  | nothing h => exact .nothing fun u hu => (hfg u hu).trans (h u hu)
  | cards toggle on hcard h => exact .cards toggle on hcard fun u hu => (hfg u hu).trans (h u hu)
  | refresh c' hconf h =>
    refine .refresh c' hconf fun u hu => ?_
    obtain ⟨v, hv, heq⟩ := h u hu
    exact ⟨v, hv, (hfg u hu).trans heq⟩

theorem setting_setToggle (c : Criteria) (toggle : Toggle) (on : Bool) :
    Setting c fun u => u.setToggle toggle on := by
  by_cases hsame : c.toggles.get toggle = on
  · apply Setting.nothing
    intro u hu
    rw [setToggle_eq, hu, if_pos hsame]
  · cases hcard : toggle.isDisplayOnly with
    | true =>
      apply Setting.cards toggle on hcard
      intro u hu
      rw [setToggle_eq, hu, if_neg hsame, hcard, if_pos rfl]
    | false =>
      refine .refresh { c with toggles := c.toggles.set toggle on } rfl fun u hu => ?_
      refine ⟨u.turned toggle on, ?_, ?_⟩
      · rw [← hu]
        exact revised_turned u toggle on
      · rw [setToggle_eq, hu, if_neg hsame, hcard, if_neg Bool.false_ne_true]

theorem setting_setContentFilter (c : Criteria) (value : String) :
    Setting c fun u => u.setContentFilter value := by
  by_cases hsame : Text.trim value = c.needle
  · apply Setting.nothing
    intro u hu
    rw [setContentFilter_eq, hu, if_pos hsame]
  · refine .refresh { c with needle := Text.trim value } rfl fun u hu => ?_
    refine ⟨u.filteredBy value, ?_, ?_⟩
    · rw [← hu]
      exact revised_filteredBy u value
    · rw [setContentFilter_eq, hu, if_neg hsame]

theorem setting_perform {a : Act} (ha : a.isSetting = true) (c : Criteria) :
    Setting c fun u => u.perform a := by
  cases a with
  | setToggle toggle on => exact setting_setToggle c toggle on
  | flipToggle toggle =>
    -- which way a switch is flipped depends on the criteria alone
    refine (setting_setToggle c toggle (!c.toggles.get toggle)).congr fun u hu => ?_
    rw [← hu]
    rfl
  | setContentFilter value => exact setting_setContentFilter c value
  | _ => cases ha

/-! ### Runs that follow each other -/

/-- In neither session anything has been asked yet, and what there is is the same. -/
structure Unasked (r t : Session) : Prop where
  reference : r.courier.active = none
  idle : t.courier.active = none
  plugins : t.plugins = r.plugins
  totals : t.totals = r.totals
  view : t.view = r.view
  conflicts : t.conflicts = r.conflicts

/-- In the reference `r` a question about a plugin is out.  The other session may have
    one out too, and then its outcome is `o`; and it has the same plugins as soon as the
    findings are merged into both. -/
structure Asking (plugin : String) (o : Outcome) (r t : Session) : Prop where
  reference : r.courier.active = some plugin
  active : ∀ other, t.courier.active = some other → other = plugin
  inFlight : t.courier.active ≠ none → t.askedEdition = t.edition
  mailbox : ∀ x ∈ t.courier.mailbox, x = o
  merged : Merge.Alike o.findings t.plugins r.plugins

/-- In this session the findings of an outcome have been merged into the plugins of the
    reference, and the view is up to date. -/
structure Answered (o : Outcome) (r t : Session) : Prop where
  plugins : t.plugins.map Plugin.unmarked =
    (Merge.editAll o.findings r.plugins).map Plugin.unmarked
  conflicts : t.conflicts = (t.mergeOf o).names
  upToDate : t.UpToDate

/-- The session `t` has the settings of the reference `r`, in which nothing is ever picked
    up.  It has the findings of the outcome about the conflict plugin too, if it was asked
    about and nothing is out. -/
structure Follows (plugin : String) (o : Outcome) (r t : Session) : Prop where
  reference : r.Reached
  reached : t.Reached
  criteria : t.criteria = r.criteria
  conflictPlugin : r.criteria.conflictPlugin = some plugin
  data : Unasked r t ∨
    (Asking plugin o r t ∧ (t.courier.active = none → Answered o r t))

/-! ### Settings -/

theorem Follows.turned (h : Follows plugin o r t) {toggle : Toggle}
    (hcard : toggle.isDisplayOnly = true) (on : Bool)
    (hr : (r.turned toggle on).showCards.Reached) (ht : (t.turned toggle on).showCards.Reached) :
    Follows plugin o (r.turned toggle on).showCards (t.turned toggle on).showCards := by
  have hcriteria : (t.turned toggle on).criteria = (r.turned toggle on).criteria := by
    show { t.criteria with toggles := t.criteria.toggles.set toggle on } = _
    rw [h.criteria]
    rfl
  have hcards : ∀ u : Session, u.showCards.plugins =
      u.plugins.map (Plugin.carded u.criteria.toggles) := fun _ => rfl
  have hr' : (r.turned toggle on).showCards.plugins = r.plugins.map _ := hcards _
  have ht' : (t.turned toggle on).showCards.plugins = t.plugins.map _ := hcards _
  rw [hcriteria] at ht'
  refine ⟨hr, ht, hcriteria, h.conflictPlugin, ?_⟩
  rcases h.data with hsame | ⟨hasking, hanswered⟩
  · refine .inl ⟨hsame.reference, hsame.idle, ?_, hsame.totals, hsame.view, hsame.conflicts⟩
    rw [hr', ht', hsame.plugins]
  · refine .inr ⟨⟨hasking.reference, hasking.active, hasking.inFlight, hasking.mailbox, ?_⟩,
      fun hidle => ?_⟩
    · rw [hr', ht']
      exact hasking.merged.carded _
    · have hthen := hanswered hidle
      refine ⟨?_, ?_, ?_⟩
      · rw [hr', ht', Merge.editAll_carded_unmarked, Plugin.map_unmarked_carded, hthen.plugins]
      · exact hthen.conflicts.trans (mergeOf_names_congr _ _ o)
      · exact (hthen.upToDate.turned hcard on).congr rfl rfl rfl rfl (showCards_uncarded _)

theorem asking_ask (ht : t.courier.Sound) (hidle : t.courier.active = none)
    (hout : r.courier.active = some plugin)
    (hmerged : Merge.Alike o.findings t.plugins r.plugins) :
    Asking plugin o r (t.ask plugin) ∧ (t.ask plugin).courier.active ≠ none := by
  have hsend : (t.ask plugin).courier = _ := ht.send_of_free hidle plugin
  refine ⟨⟨hout, ?_, fun _ => rfl, ?_, hmerged⟩, ?_⟩
  · rw [hsend]
    exact fun other h => (Option.some.inj h).symm
  · rw [hsend]
    exact fun x hx => by cases hx
  · rw [hsend]
    exact Option.some_ne_none plugin

theorem Asking.refresh (h : Asking plugin o r t) (ht : t.courier.Sound)
    (hconf : t.criteria.conflictPlugin = some plugin) :
    Asking plugin o r t.refresh ∧ t.refresh.courier.active ≠ none := by
  cases hactive : t.courier.active with
  | none =>
    rw [refresh_of_some hactive hconf]
    exact asking_ask ht hactive h.reference h.merged
  | some other =>
    rw [refresh_of_out hactive]
    refine ⟨⟨h.reference, h.active, h.inFlight, h.mailbox, h.merged⟩, ?_⟩
    show t.courier.active ≠ none
    rw [hactive]
    exact Option.some_ne_none other

theorem Asking.reference_refresh (h : Asking plugin o r t) : Asking plugin o r.refresh t := by
  -- the reference only owes a refresh now, and what it owes is not compared
  rw [refresh_of_out h.reference]
  exact ⟨h.reference, h.active, h.inFlight, h.mailbox, h.merged⟩

theorem Asking.revised (h : Asking plugin o r t) {c : Criteria} {r' t' : Session}
    (hr : Revised c r r') (ht : Revised c t t') : Asking plugin o r' t' where
  reference := by
    rw [hr.courier]
    exact h.reference
  active := by
    rw [ht.courier]
    exact h.active
  inFlight := by
    rw [ht.courier, ht.askedEdition, ht.edition]
    exact h.inFlight
  mailbox := by
    rw [ht.courier]
    exact h.mailbox
  merged := by
    rw [hr.plugins, ht.plugins]
    exact h.merged

theorem Follows.revised (h : Follows plugin o r t) {c : Criteria} {r' t' : Session}
    (hconf : c.conflictPlugin = some plugin) (hr : Revised c r r') (ht : Revised c t t')
    (href : r'.refresh.Reached) (hreached : t'.refresh.Reached) :
    Follows plugin o r'.refresh t'.refresh := by
  have hrsound : r'.courier.Sound := by
    rw [hr.courier]
    exact h.reference.sound
  have htsound : t'.courier.Sound := by
    rw [ht.courier]
    exact h.reached.sound
  have hrconf : r'.criteria.conflictPlugin = some plugin := by
    rw [hr.criteria]
    exact hconf
  have htconf : t'.criteria.conflictPlugin = some plugin := by
    rw [ht.criteria]
    exact hconf
  have hasking : Asking plugin o r'.refresh t'.refresh ∧ t'.refresh.courier.active ≠ none := by
    rcases h.data with hsame | ⟨hasking, -⟩
    · -- this is the first question of both
      have hridle : r'.courier.active = none := by
        rw [hr.courier]
        exact hsame.reference
      have htidle : t'.courier.active = none := by
        rw [ht.courier]
        exact hsame.idle
      have hsend : (r'.ask plugin).courier = _ := hrsound.send_of_free hridle plugin
      rw [refresh_of_some hridle hrconf, refresh_of_some htidle htconf]
      refine asking_ask htsound htidle ?_ ?_
      · rw [hsend]
      · show Merge.Alike o.findings t'.plugins r'.plugins
        rw [ht.plugins, hr.plugins, hsame.plugins]
        rfl
    · exact (hasking.revised hr ht).reference_refresh.refresh htsound htconf
  refine ⟨href, hreached, ?_, ?_, .inr ⟨hasking.1, fun hidle => absurd hidle hasking.2⟩⟩
  · rw [refresh_criteria, refresh_criteria, hr.criteria, ht.criteria]
  · rwa [refresh_criteria]

/-- **A setting in both sessions leaves one following the other.** -/
theorem Follows.setting (h : Follows plugin o r t) {a : Act} (ha : a.isSetting = true) :
    Follows plugin o (r.perform a) (t.perform a) := by
  have hr := h.reference.perform a
  have ht := h.reached.perform a
  cases setting_perform ha r.criteria with
  | nothing hsame =>
    rw [hsame r rfl, hsame t h.criteria]
    exact h
  | cards toggle on hcard hturn =>
    rw [hturn r rfl] at hr ⊢
    rw [hturn t h.criteria] at ht ⊢
    exact h.turned hcard on hr ht
  | refresh c hconf hrevise =>
    obtain ⟨r', hr', heq⟩ := hrevise r rfl
    obtain ⟨t', ht', heq'⟩ := hrevise t h.criteria
    rw [heq] at hr ⊢
    rw [heq'] at ht ⊢
    exact h.revised (hconf.trans h.conflictPlugin) hr' ht' hr ht

/-! ### Outcomes -/

/-- What is always answered about a plugin comes to one outcome. -/
def AlwaysLeadsTo (engine : Engine) (plugin : String) (o : Outcome) : Prop :=
  ∀ asked, Outcome.ofAnswer plugin (engine asked (.conflictsOf plugin)) = o

theorem Asking.mem_mailbox_arrive (h : Asking plugin o r t) (ht : t.courier.Sound)
    (hengine : AlwaysLeadsTo engine plugin o) {arrival : Courier.Arrival}
    (harrival : ArrivesFrom engine arrival) :
    ∀ x ∈ (t.courier.arrive arrival).mailbox, x = o := by
  intro x hx
  rcases ht.mem_mailbox_arrive hx with hold | ⟨other, asked, answer, hactive, hanswer, rfl⟩
  · exact h.mailbox x hold
  · rw [h.active other hactive] at hanswer ⊢
    rw [harrival _ _ _ hanswer]
    exact hengine asked

theorem Follows.deliver (h : Follows plugin o r t) (hengine : AlwaysLeadsTo engine plugin o) :
    Follows plugin o r (t.deliver engine) := by
  obtain ⟨-, -, hactive⟩ := h.reached.sound.arrive (.always engine)
  have hsame : (t.deliver engine).courier.active = t.courier.active := hactive
  refine ⟨h.reference, h.reached.step (.answer t engine), h.criteria, h.conflictPlugin, ?_⟩
  rcases h.data with hunasked | ⟨hasking, hanswered⟩
  · exact .inl ⟨hunasked.reference, hsame.trans hunasked.idle, hunasked.plugins,
      hunasked.totals, hunasked.view, hunasked.conflicts⟩
  · refine .inr ⟨⟨hasking.reference, ?_, ?_, ?_, hasking.merged⟩, fun hidle => ?_⟩
    · rw [hsame]
      exact hasking.active
    · rw [hsame]
      exact hasking.inFlight
    · exact hasking.mem_mailbox_arrive h.reached.sound hengine (arrivesFrom_always engine)
    · have hthen := hanswered (hsame.symm.trans hidle)
      exact ⟨hthen.plugins, hthen.conflicts, hthen.upToDate.congr rfl rfl rfl rfl rfl⟩

theorem asking_of_freed {c : Courier} (hfreed : t.courier = c.freed)
    (hout : r.courier.active = some plugin)
    (hmerged : Merge.Alike o.findings t.plugins r.plugins) : Asking plugin o r t := by
  constructor
  · exact hout
  · rw [hfreed]
    exact fun other h => by cases h
  · rw [hfreed]
    exact fun h => absurd rfl h
  · rw [hfreed]
    exact fun x hx => by cases hx
  · exact hmerged

theorem asking_release {c : Courier} (hfreed : s.courier = c.freed)
    (hout : r.courier.active = some plugin) (hconf : s.criteria.conflictPlugin = some plugin)
    (hmerged : Merge.Alike o.findings s.plugins r.plugins) :
    let u := ({ s.taking o with refreshHeld := false } : Session).refresh
    Asking plugin o r u ∧ u.courier.active ≠ none := by
  intro u
  have hcourier : ({ s.taking o with refreshHeld := false } : Session).courier = c.freed :=
    (taking_courier s o).trans hfreed
  have hcriteria : ({ s.taking o with refreshHeld := false } : Session).criteria = s.criteria :=
    taking_criteria s o
  have hplugins : ({ s.taking o with refreshHeld := false } : Session).plugins =
      Merge.editAll o.findings s.plugins := taking_plugins s o
  -- the findings may have been merged before, and are merged now
  have hasking : Asking plugin o r { s.taking o with refreshHeld := false } := by
    refine asking_of_freed hcourier hout ?_
    rw [hplugins]
    exact (Merge.alike_editAll o.findings s.plugins).trans hmerged
  refine hasking.refresh ?_ ?_
  · rw [hcourier]
    exact .freed c
  · rw [hcriteria]
    exact hconf

theorem answered_pass {c : Courier} (hb : s.Balanced) (hfreed : s.courier = c.freed)
    (hout : r.courier.active = some plugin)
    (hmerged : Merge.Alike o.findings s.plugins r.plugins) :
    let u := ((s.taking o).finishRefresh (s.mergeOf o).names).blame o
    Asking plugin o r u ∧ Answered o r u := by
  intro u
  obtain ⟨-, hplugins, hconflicts⟩ :=
    blame_rest ((s.taking o).finishRefresh (s.mergeOf o).names) o
  have hanswered : u.plugins.map Plugin.unmarked =
      (Merge.editAll o.findings r.plugins).map Plugin.unmarked := by
    rw [hplugins, finishRefresh_unmarked, taking_plugins]
    exact hmerged
  have hmerged' : Merge.Alike o.findings u.plugins r.plugins :=
    (Merge.alike_of_unmarked hanswered).trans (Merge.alike_editAll o.findings r.plugins)
  have hcourier : u.courier = c.freed := by
    rw [blame_courier, finishRefresh_courier, taking_courier, hfreed]
  refine ⟨asking_of_freed hcourier hout hmerged', hanswered, ?_, ?_⟩
  · exact hconflicts.trans (mergeOf_names_congr s u o)
  · exact (upToDate_finishRefresh (hb.taking o) _).blame o

/-- **An outcome that is picked up leaves one session following the other.** -/
theorem Follows.pickUp (h : Follows plugin o r t) (hengine : AlwaysLeadsTo engine plugin o)
    {arrival : Courier.Arrival} (harrival : ArrivesFrom engine arrival) {x : Outcome}
    {c : Courier} (hp : t.courier.poll arrival = some (x, c)) :
    Follows plugin o r ((t.withCourier c).handle x) := by
  have hreached := h.reached.step (.pickUp hp)
  have hcriteria := (handle_criteria (t.withCourier c) x).trans h.criteria
  have hmailbox := Courier.mem_mailbox_of_poll hp
  obtain ⟨other, _, hactive, -, rfl⟩ := h.reached.sound.poll_eq_some hp
  have hout : t.courier.active ≠ none := by
    rw [hactive]
    exact Option.some_ne_none other
  rcases h.data with hunasked | ⟨hasking, -⟩
  · exact absurd hunasked.idle hout
  · obtain rfl : x = o :=
      hasking.mem_mailbox_arrive h.reached.sound hengine harrival x hmailbox
    refine ⟨h.reference, hreached, hcriteria, h.conflictPlugin, .inr ?_⟩
    rcases (t.withCourier t.courier.freed).handle_cases x with ⟨hlate, -⟩ | ⟨-, -, heq⟩ |
      ⟨-, -, heq⟩
    · exact absurd (hasking.inFlight hout) hlate
    · have hconf : t.criteria.conflictPlugin = some plugin := by
        rw [h.criteria]
        exact h.conflictPlugin
      obtain ⟨hagain, hbusy⟩ := asking_release (s := t.withCourier t.courier.freed) rfl
        hasking.reference hconf hasking.merged
      rw [heq]
      exact ⟨hagain, fun hidle => absurd hidle hbusy⟩
    · have hb : (t.withCourier t.courier.freed).Balanced :=
        ⟨h.reached.balanced.counts, h.reached.balanced.shown, h.reached.balanced.trace⟩
      obtain ⟨hagain, hanswered⟩ := answered_pass hb rfl hasking.reference hasking.merged
      rw [heq]
      exact ⟨hagain, fun _ => hanswered⟩

theorem Follows.pollConflicts (h : Follows plugin o r t)
    (hengine : AlwaysLeadsTo engine plugin o) {arrival : Courier.Arrival}
    (harrival : ArrivesFrom engine arrival) : Follows plugin o r (t.pollConflicts arrival) := by
  fun_induction Session.pollConflicts t arrival with
  | case1 t hp => exact h
  | case2 t x c hp ih => exact ih (h.pickUp hengine harrival hp)

theorem Follows.notice (h : Follows plugin o r t) (notice : Option Notice) :
    Follows plugin o r { t with notice := notice } := by
  have hreached : ({ t with notice := notice } : Session).Reached :=
    h.reached.path (path_aside t t.status t.log notice t.selected t.clock)
  refine ⟨h.reference, hreached, h.criteria, h.conflictPlugin, ?_⟩
  rcases h.data with hsame | ⟨hasking, hanswered⟩
  · exact .inl ⟨hsame.reference, hsame.idle, hsame.plugins, hsame.totals, hsame.view,
      hsame.conflicts⟩
  · refine .inr ⟨⟨hasking.reference, hasking.active, hasking.inFlight, hasking.mailbox,
      hasking.merged⟩, fun hidle => ?_⟩
    have hthen := hanswered hidle
    exact ⟨hthen.plugins, hthen.conflicts, hthen.upToDate.congr rfl rfl rfl rfl rfl⟩

/-- **Every schedule of some settings follows the reference that has the settings
    alone.** -/
theorem Follows.run {settings acts : List Act} (hschedule : Schedule engine settings acts)
    (hengine : AlwaysLeadsTo engine plugin o) (h : Follows plugin o r t) :
    Follows plugin o (r.run settings) (t.run acts) := by
  -- a setting moves both sessions, and everything else moves `t` alone
  induction hschedule generalizing r t with
  | done => exact h
  | setting ha _ ih => exact ih (h.setting ha)
  | answer _ ih => exact ih (h.deliver hengine)
  | poll harrival _ ih => exact ih (h.pollConflicts hengine harrival)
  | tick harrival _ ih => exact ih ((h.notice _).pollConflicts hengine harrival)
  | wait _ ih =>
    refine ih ?_
    rw [perform, waitForConflicts_eq h.reached.sound]
    exact h.pollConflicts hengine (arrivesFrom_always engine)

/-! ### Sessions that agree -/

/-- The view and everything it is made from are the same, and so are the plugins, but for
    the marks of what is not shown and of the search. -/
structure Agree (s t : Session) : Prop where
  criteria : s.criteria = t.criteria
  conflicts : s.conflicts = t.conflicts
  view : s.view = t.view
  totals : s.totals = t.totals
  plugins : s.plugins.map Plugin.unmarked = t.plugins.map Plugin.unmarked
  shownMessages : s.shownPlugins.map Plugin.messages = t.shownPlugins.map Plugin.messages

theorem UpToDate.shownMessages_eq (h : s.UpToDate) :
    s.shownPlugins.map Plugin.messages =
      (s.view.plugins (s.plugins.map Plugin.unmarked)).map fun p =>
        (s.criteria.markMessages p).messages := by
  -- the marks of a shown plugin are those that the present criteria give it
  have hmessages : ∀ p ∈ s.shownPlugins,
      p.messages = (s.criteria.markMessages p.unmarked).messages := by
    intro p hp
    have hmark : ∀ m ∈ p.messages,
        { m.unmarked with hidden := !s.criteria.showsMessage m.unmarked } = m := by
      intro m hm
      have hhidden : (!s.criteria.showsMessage m.unmarked) = m.hidden := (h.marks p hp m hm).symm
      rw [hhidden]
      rfl
    simp only [Criteria.markMessages, Plugin.unmarked, List.map_map]
    exact (List.map_id p.messages).symm.trans (List.map_congr_left fun m hm => (hmark m hm).symm)
  rw [List.map_congr_left hmessages]
  simp only [shownPlugins, View.plugins, List.map_filterMap, List.getElem?_map, Option.map_map]
  rfl

/-- **Two sessions that follow one reference agree as soon as nothing is out in them.** -/
theorem Follows.agree (hs : Follows plugin o r s) (ht : Follows plugin o r t)
    (hsidle : s.courier.active = none) (htidle : t.courier.active = none) : Agree s t := by
  have hcriteria : s.criteria = t.criteria := hs.criteria.trans ht.criteria.symm
  rcases hs.data with hsame | ⟨hasking, hanswered⟩ <;>
    rcases ht.data with hsame' | ⟨hasking', hanswered'⟩
  · have hplugins := hsame.plugins.trans hsame'.plugins.symm
    have hview := hsame.view.trans hsame'.view.symm
    refine ⟨hcriteria, hsame.conflicts.trans hsame'.conflicts.symm, hview,
      hsame.totals.trans hsame'.totals.symm, ?_, ?_⟩
    · rw [hplugins]
    · rw [shownPlugins, shownPlugins, hview, hplugins]
  · cases hsame.reference.symm.trans hasking'.reference
  · cases hsame'.reference.symm.trans hasking.reference
  · have hsthen := hanswered hsidle
    have htthen := hanswered' htidle
    have hplugins := hsthen.plugins.trans htthen.plugins.symm
    have hbare := Plugin.map_bare_of_map_unmarked hplugins
    have hconflicts : s.conflicts = t.conflicts := by
      rw [hsthen.conflicts, htthen.conflicts, mergeOf_names_congr s t o]
    have hview : s.view = t.view := by
      rw [hsthen.upToDate.view, htthen.upToDate.view, hcriteria, hconflicts,
        View.of_congr _ _ hbare]
    refine ⟨hcriteria, hconflicts, hview, ?_, hplugins, ?_⟩
    · rw [hsthen.upToDate.totals_eq hs.reached.balanced,
        htthen.upToDate.totals_eq ht.reached.balanced, Totals.ofPlugins_congr hbare, hview]
    · rw [hsthen.upToDate.shownMessages_eq, htthen.upToDate.shownMessages_eq, hview, hplugins,
        hcriteria]

/-! ### Runs of a new session -/

theorem follows_refresh (hs : s.courier.Sound) (hidle : s.courier.active = none)
    (hconf : s.criteria.conflictPlugin = some plugin) (hreached : s.refresh.Reached)
    (o : Outcome) : Follows plugin o s.refresh s.refresh := by
  have hsend : (s.ask plugin).courier = _ := hs.send_of_free hidle plugin
  have hactive : (s.ask plugin).courier.active = some plugin := by rw [hsend]
  obtain ⟨hasking, hbusy⟩ := asking_ask (o := o) hs hidle hactive rfl
  rw [refresh_of_some hidle hconf] at hreached ⊢
  exact ⟨hreached, hreached, rfl, hconf, .inr ⟨hasking, fun hnone => absurd hnone hbusy⟩⟩

theorem follows_showConflicts (h : s.Reached) (hidle : s.courier.active = none)
    (plugin : String) (o : Outcome) :
    Follows plugin o (s.showConflicts (some plugin)) (s.showConflicts (some plugin)) := by
  have hreached : (s.showConflicts (some plugin)).Reached :=
    h.perform (.showConflicts (some plugin))
  by_cases hsame : some plugin = s.criteria.conflictPlugin
  · -- these conflicts are shown already, so nothing is asked before a setting asks
    rw [showConflicts_eq, if_pos hsame]
    exact ⟨h, h, rfl, hsame.symm, .inl ⟨hidle, hidle, rfl, rfl, rfl, rfl⟩⟩
  · rw [showConflicts_eq, if_neg hsame] at hreached ⊢
    refine follows_refresh ?_ ?_ rfl hreached o
    · exact h.sound
    · exact hidle

/-- **It does not matter when the outcomes are picked up.**  No question is out, the user
    asks for the conflicts of a plugin, and whatever the engine answers about it always
    comes to the same.  Then any two schedules of the same settings, after each of which
    somebody waits, lead to sessions that agree.  They have the criteria that the settings
    alone lead to; and if the settings alone leave a question out, they have the plugins
    that the settings alone lead to, with the findings merged in, and an up-to-date view
    of them. -/
theorem schedules_run_new (toggles : Toggles) (phrase : String) (before : List Act)
    (plugin : String) {engine : Engine} {settings first second : List Act}
    (hfixed : ∀ asked asked', Outcome.ofAnswer plugin (engine asked (.conflictsOf plugin)) =
      Outcome.ofAnswer plugin (engine asked' (.conflictsOf plugin)))
    (hfirst : Schedule engine settings first) (hsecond : Schedule engine settings second) :
    let s := (new toggles phrase).run before
    s.isBusy = false →
      let start := s.showConflicts (some plugin)
      let a := (start.run first).waitForConflicts engine
      let b := (start.run second).waitForConflicts engine
      a.isBusy = false ∧ b.isBusy = false ∧ Agree a b ∧
        a.criteria = (start.run settings).criteria ∧
        ((start.run settings).isBusy = true →
          Answered (Outcome.ofAnswer plugin (engine [] (.conflictsOf plugin)))
            (start.run settings) a) := by
  intro s hbusy start a b
  have hreached : s.Reached := reached_run_new toggles phrase before
  generalize ho : Outcome.ofAnswer plugin (engine [] (.conflictsOf plugin)) = o
  have hengine : AlwaysLeadsTo engine plugin o := fun asked => (hfixed asked []).trans ho
  have hstart : Follows plugin o start start :=
    follows_showConflicts hreached (isBusy_eq_false_iff.mp hbusy) plugin o
  have hwaited : ∀ {acts : List Act}, Schedule engine settings acts →
      Follows plugin o (start.run settings) ((start.run acts).waitForConflicts engine) ∧
        ((start.run acts).waitForConflicts engine).isBusy = false := by
    intro acts hacts
    have hrun := hstart.run hacts hengine
    have hsound := hrun.reached.sound
    refine ⟨?_, isBusy_waitForConflicts hsound engine⟩
    rw [waitForConflicts_eq hsound]
    exact hrun.pollConflicts hengine (arrivesFrom_always engine)
  obtain ⟨ha, haidle⟩ := hwaited hfirst
  obtain ⟨hb, hbidle⟩ := hwaited hsecond
  have haactive := isBusy_eq_false_iff.mp haidle
  refine ⟨haidle, hbidle, ha.agree hb haactive (isBusy_eq_false_iff.mp hbidle), ha.criteria,
    fun hout => ?_⟩
  rcases ha.data with hunasked | ⟨-, hanswered⟩
  · rw [isBusy_eq_false_iff.mpr hunasked.reference] at hout
    cases hout
  · exact hanswered haactive

/-- A switch is turned and a filter is set, at once or with a look at the engine and a
    wait in between.  The findings are merged in twice or three times, as often as the
    plugin was asked about. -/
theorem schedules_showConflicts_warning :
    let before : List Act :=
      [.load none [Plugin.ofData "A.esp" {}, Plugin.ofData "B.esp" {}]]
    let settings : List Act := [.setToggle .hideInactive true, .setContentFilter "a"]
    let second : List Act :=
      [.poll .never, .setToggle .hideInactive true, .wait Engine.warning, .setContentFilter "a"]
    let start := ((new {} defaultPhrase).run before).showConflicts (some "A.esp")
    let a := (start.run settings).waitForConflicts Engine.warning
    let b := (start.run second).waitForConflicts Engine.warning
    Agree a b ∧ a.courier.asked.length = 2 ∧ b.courier.asked.length = 3 ∧
      a.totals.warnings = 1 ∧ a.conflicts = ["A.esp", "B.esp"] := by
  intro before settings second start a b
  have hnever : ArrivesFrom Engine.warning .never := fun _ _ _ h => by cases h
  have hfirst : Schedule Engine.warning settings settings := .setting rfl (.setting rfl .done)
  have hsecond : Schedule Engine.warning settings second :=
    .poll hnever (.setting rfl (.wait (.setting rfl .done)))
  obtain ⟨-, -, hagree, -, -⟩ :=
    schedules_run_new {} defaultPhrase before "A.esp" (fun _ _ => rfl) hfirst hsecond rfl
  have hmerged : a.courier.asked.length = 2 ∧ a.totals.warnings = 1 ∧
      a.conflicts = ["A.esp", "B.esp"] := by
    unfold a start settings before
    decide +kernel
  have hmerged' : b.courier.asked.length = 3 := by
    unfold b start second before
    decide +kernel
  exact ⟨hagree, hmerged.1, hmerged', hmerged.2⟩

end Session

end LoadOrder
