/-
  LoadOrder/Proofs/Command/Listing.lean
  =====================================
  **The commands print what a list should have in it.**

  The session of a command is the end of a chain: a load order is loaded and refreshed,
  the switches are applied, a content filter is set, an answer is waited for, a text is
  searched for.  Each stage writes marks on the plugins, and most of them filter again
  what an earlier one has filtered.  What they have in common is an invariant
  (`Session.Shows`): the plugins are those that were loaded but for their marks, and the
  view and all the marks are what the criteria ask for.  So what an earlier stage has
  left behind cannot be seen in the end (`shows_buildSession`).

  A session with that invariant prints the list that needs no session
  (`Session.Shows.map_toJson`) and its numbers (`Session.Shows.counts_eq`).
-/
import LoadOrder.Command.Program
import LoadOrder.Proofs.Command.Listed
import LoadOrder.Proofs.Json.Equality
import LoadOrder.Proofs.Plugin.Reported
import LoadOrder.Proofs.Session.Count
import LoadOrder.Proofs.Session.Criteria
import LoadOrder.Proofs.Session.Marks

namespace LoadOrder

namespace Session

variable {s : Session} {c : Criteria} {needle : String} {l : List Plugin}

/-! ### Stages -/

/-- A load order stands in a session under some criteria, with its cards written, with
    no question to the engine and at rest. -/
structure Ready (c : Criteria) (needle : String) (l : List Plugin) (s : Session) : Prop where
  criteria : s.criteria = c
  needle : s.needle = needle
  plugins : s.plugins.map Plugin.bare = l.map Plugin.bare
  courier : s.courier = {}
  resting : s.Resting
  balanced : s.Balanced
  carded : s.Carded

/-- The view and the marks of a session are what its criteria and its needle ask for. -/
structure Shows (c : Criteria) (needle : String) (l : List Plugin) (s : Session) : Prop
    extends Ready c needle l s where
  upToDate : s.UpToDate
  conflicts : s.conflicts = []
  marks : s.MarksCurrent

theorem Ready.search (h : Ready c needle l s) (other : String) :
    Ready c other l (s.search other) where
  criteria := h.criteria
  needle := rfl
  plugins := (Plugin.map_bare_of_map_unmarked (s.search_unmarked other)).trans h.plugins
  courier := h.courier
  resting := ⟨h.resting.held, h.resting.progress⟩
  balanced := h.balanced.search other
  carded := h.carded.congr (Plugin.map_switches_of_map_unmarked (s.search_unmarked other)) rfl

theorem Ready.finishRefresh (h : Ready c needle l s) (names : Names) :
    Ready c needle l (s.finishRefresh names) where
  criteria := h.criteria
  needle := h.needle
  plugins := (s.finishRefresh_bare names).trans h.plugins
  courier := h.courier
  resting := ⟨h.resting.held, h.resting.progress⟩
  balanced := h.balanced.finishRefresh names
  carded :=
    h.carded.congr (Plugin.map_switches_of_map_unmarked (s.finishRefresh_unmarked names)) rfl

/-- **A refresh writes the view and all the marks anew,** whatever they were. -/
theorem Ready.refresh (h : Ready c needle l s) (hconf : c.conflictPlugin = none) :
    Shows c needle l s.refresh := by
  have hidle : s.courier.active = none := by rw [h.courier]
  have hnone : s.criteria.conflictPlugin = none := by rw [h.criteria, hconf]
  rw [refresh_of_none hidle hnone]
  exact
    { h.finishRefresh [] with
      upToDate := upToDate_finishRefresh h.balanced []
      conflicts := rfl
      marks := marksCurrent_finishRefresh s [] }

/-- New cards on which the switches stand already are the same cards. -/
theorem showCards_of_carded (h : s.Carded) : s.showCards = s := by
  have hsame : ∀ p ∈ s.plugins,
      { p with
        card :=
          { p.card with
            versionHidden := s.criteria.toggles.hideVersions
            crcHidden := s.criteria.toggles.hideCrcs
            tagsHidden := s.criteria.toggles.hideBashTags } } = p := by
    intro p hp
    obtain ⟨-, hversion, hcrc, htags⟩ := Card.mk.inj (h p hp)
    rw [← hversion, ← hcrc, ← htags]
  have hplugins : s.showCards.plugins = s.plugins :=
    (List.map_congr_left hsame).trans (List.map_id _)
  exact congrArg (fun plugins => { s with plugins }) hplugins

theorem Shows.applyToggles (h : Shows c needle l s) (hconf : c.conflictPlugin = none) :
    Shows c needle l s.applyToggles := by
  -- the cards show what they should already, so writing them after the pass changes no mark
  have hagain := h.toReady.refresh hconf
  rcases applyToggles_eq s with heq | heq <;> rw [heq]
  · rwa [showCards_of_carded hagain.carded]
  · rwa [showCards_of_carded h.carded]

/-- A new content filter leaves everything but the criteria and what is told. -/
theorem filteredBy_rest (s : Session) (value : String) :
    (s.filteredBy value).criteria = { s.criteria with needle := Text.trim value } ∧
      (s.filteredBy value).needle = s.needle ∧ (s.filteredBy value).plugins = s.plugins ∧
      (s.filteredBy value).totals = s.totals ∧
      (s.filteredBy value).refreshHeld = s.refreshHeld ∧
      (s.filteredBy value).progress = s.progress := by
  -- with the fields of the session at hand, no two sessions are compared as a whole
  cases s
  exact ⟨rfl, rfl, rfl, rfl, rfl, rfl⟩

theorem Ready.filteredBy (h : Ready c needle l s) (value : String) :
    Ready { c with needle := Text.trim value } needle l (s.filteredBy value) := by
  obtain ⟨hcriteria, hneedle, hplugins, htotals, hheld, hprogress⟩ := s.filteredBy_rest value
  constructor
  · rw [hcriteria, h.criteria]
  · rw [hneedle, h.needle]
  · rw [hplugins, h.plugins]
  · rw [filteredBy_courier, h.courier]
  · constructor
    · rw [filteredBy_courier, hheld]
      exact h.resting.held
    · rw [filteredBy_courier, hprogress]
      exact h.resting.progress
  · exact
      { counts := by
          rw [hplugins, htotals]
          exact h.balanced.counts
        shown := by
          rw [htotals]
          exact h.balanced.shown
        trace := trace_cons rfl h.balanced.trace }
  · apply h.carded.congr
    · rw [hplugins]
    · rw [hcriteria]

theorem Shows.setContentFilter (h : Shows c needle l s) (hconf : c.conflictPlugin = none)
    (value : String) :
    Shows { c with needle := Text.trim value } needle l (s.setContentFilter value) := by
  rw [setContentFilter_eq]
  split
  · rename_i hsame
    have hcriteria : { c with needle := Text.trim value } = c := by
      rw [hsame, h.criteria]
    rwa [hcriteria]
  · exact (h.filteredBy value).refresh hconf

/-- There is nothing to wait for. -/
theorem Shows.waitForConflicts (h : Shows c needle l s) (engine : Engine) :
    s.waitForConflicts engine = s := by
  have hsound : s.courier.Sound := by
    rw [h.courier]
    exact .free []
  have hidle : s.courier.active = none := by rw [h.courier]
  rw [waitForConflicts_eq hsound]
  exact pollConflicts_of_none (poll_of_idle hsound hidle _)

theorem Shows.search (h : Shows c needle l s) (other : String) :
    Shows c other l (s.search other) :=
  { h.toReady.search other with
    upToDate := h.upToDate.congr rfl rfl rfl rfl (s.search_uncarded other)
    conflicts := h.conflicts
    marks := marksCurrent_search s other }

theorem Shows.waitAndSearch (h : Shows c "" l s) (engine : Engine) (wanted : Option String) :
    Shows c (wanted.getD "") l
      (match wanted with
        | some other => (s.waitForConflicts engine).search other
        | none => s.waitForConflicts engine) := by
  rw [h.waitForConflicts engine]
  cases wanted with
  | none => exact h
  | some other => exact h.search other

end Session

/-! ### The session of a command -/

variable {c : Config} {o : Options} {l : List Plugin}

/-- The criteria of a session that has been loaded, before a content filter is set. -/
def startCriteria (c : Config) (o : Options) : Criteria where
  toggles := o.toggles c.toggles
  phrase := c.phrase

theorem shows_load (c : Config) (o : Options) (e : Event) (he : e.isMiscount = false)
    (title : Option String) (l : List Plugin) :
    Session.Shows (startCriteria c o) "" l (((startSession c o).tell e).load title l) := by
  have hstart : ((startSession c o).tell e).Balanced :=
    ⟨⟨rfl, rfl, rfl, rfl⟩, Nat.le_refl _, Session.trace_cons he fun _ h => by cases h⟩
  have hloaded : Session.Ready (startCriteria c o) "" l
      (((startSession c o).tell e).loaded title l) :=
    { criteria := rfl
      needle := rfl
      plugins := Session.showCards_bare { (startSession c o).tell e with plugins := l, criteria := _ }
      courier := rfl
      resting := ⟨fun _ => rfl, rfl⟩
      balanced := hstart.loaded title l
      carded := Session.carded_showCards _ }
  exact hloaded.refresh rfl

/-- **What the stages have left behind cannot be seen.** -/
theorem shows_prepareSession {s : Session} (h : Session.Shows (startCriteria c o) "" l s)
    (engine : Engine) :
    Session.Shows (Wanted.criteria ⟨c, o⟩) (Wanted.searchText ⟨c, o⟩) l
      (prepareSession engine o s) := by
  have happlied := h.applyToggles rfl
  have hfiltered : Session.Shows (Wanted.criteria ⟨c, o⟩) "" l
      (match o.contentFilter with
        | some value => s.applyToggles.setContentFilter value
        | none => s.applyToggles) := by
    unfold Wanted.criteria Wanted.filterText
    cases o.contentFilter with
    | none => exact happlied
    | some value => exact happlied.setContentFilter rfl value
  exact hfiltered.waitAndSearch engine o.search

theorem shows_buildSession {w : Surroundings} {path raw : String} {snapshot : Snapshot}
    (hpath : (o.snapshot.orElse fun _ => c.lastSnapshot) = some path)
    (hread : w.store.readText path = .ok raw) (hparse : Snapshot.parse raw = .ok snapshot) :
    ∃ s, buildSession w c o true = .ok s ∧
      Session.Shows (Wanted.criteria ⟨c, o⟩) (Wanted.searchText ⟨c, o⟩) snapshot.plugins s := by
  have hload : Snapshot.load w.store path = .ok snapshot := by
    simp only [Snapshot.load, hread, hparse]
  have hloaded := shows_load c o (snapshot.loadedEvent path) rfl snapshot.title snapshot.plugins
  have hprepared := shows_prepareSession hloaded (w.engineFor c o)
  refine ⟨_, ?_, hprepared⟩
  simp only [buildSession, loadSession, hpath, hload, Except.map]

/-! ### What is printed of a plugin -/

/-- A plugin carries the marks that are wanted, that of the search apart. -/
structure Wanted.Marked (w : Wanted) (q : Plugin) : Prop where
  card : q.card.switches = w.criteria.toggles.card
  messages : ∀ m ∈ q.messages, m.hidden = !w.criteria.showsMessage m

theorem any_unless (hidden : Bool) (texts : List String) (test : String → Bool) :
    (if hidden then [] else texts).any test = (!hidden && texts.any test) := by
  cases hidden <;> rfl

namespace Wanted.Marked

variable {w : Wanted} {q : Plugin}

/-- What the switches have taken from a card is what is not to be printed. -/
theorem hides (h : w.Marked q) :
    q.card.versionHidden = w.hides .hideVersions ∧ q.card.crcHidden = w.hides .hideCrcs ∧
      q.card.tagsHidden = w.hides .hideBashTags := by
  obtain ⟨-, hversion, hcrc, htags⟩ := Card.mk.inj h.card
  exact ⟨hversion.trans (w.get_criteria .hideVersions), hcrc.trans (w.get_criteria .hideCrcs),
    htags.trans (w.get_criteria .hideBashTags)⟩

/-- The messages that a filter pass has left unmarked are those that are wanted. -/
theorem map_shownMessages (h : w.Marked q) :
    q.shownMessages.map Message.unmarked = w.messages q.bare := by
  have hkept : q.shownMessages = q.messages.filter fun m => w.keeps m.unmarked := by
    apply List.filter_congr
    intro m hm
    rw [h.messages m hm, Bool.not_not, w.showsMessage_criteria]
    rfl
  rw [hkept, Wanted.messages, Plugin.bare, List.filter_map]
  rfl

/-- The search bar looks at the texts that are listed. -/
theorem isVisible_eq (h : w.Marked q) (needle : String) :
    q.isVisible needle = holds (w.shownTexts q.bare) needle := by
  obtain ⟨hversion, hcrc, htags⟩ := h.hides
  have hmessages : ∀ test : String → Bool,
      ((w.messages q.bare).map Message.content).any test =
        q.messages.any fun m => !m.hidden && test m.content := by
    intro test
    rw [← h.map_shownMessages, List.map_map, List.any_map, Plugin.shownMessages, List.any_filter]
    rfl
  simp only [Wanted.shownTexts, List.cons_append, List.nil_append]
  rw [← empty_or_holds]
  simp only [Plugin.isVisible, Plugin.foldedContains, holds, List.any_cons, List.any_append,
    List.any_nil, any_unless, hmessages, hversion, hcrc, htags, Bool.or_false, Bool.or_assoc]
  rfl

/-- The two lists of tags are there together or not at all. -/
theorem append_memberUnless (before : Json.Members) (hidden : Bool)
    (key value key' value' : String) :
    before ++ Plugin.memberUnless hidden key value ++ Plugin.memberUnless hidden key' value' =
      before ++ if hidden then [] else [(key, .text value), (key', .text value')] := by
  rw [List.append_assoc]
  cases hidden <;> rfl

theorem messageJson_eq (m : Message) : Plugin.messageJson m = messageItem m.unmarked := by
  obtain ⟨severity, content, condition, hidden⟩ := m
  cases severity <;> rfl

theorem toJson_eq (h : w.Marked q) (hfound : q.card.found = w.finds q.bare) :
    q.toJson = w.item q.bare := by
  obtain ⟨hversion, hcrc, htags⟩ := h.hides
  have hmessages : q.shownMessages.map Plugin.messageJson =
      (w.messages q.bare).map messageItem := by
    rw [← h.map_shownMessages, List.map_map]
    exact List.map_congr_left fun m _ => messageJson_eq m
  rw [Plugin.toJson, item, hversion, hcrc, htags, hfound, hmessages, append_memberUnless]
  rfl

end Wanted.Marked

/-! ### What is printed of a session -/

namespace Session

variable {s : Session} {w : Wanted} {needle : String}

theorem Shows.view_eq (h : Shows w.criteria needle l s) : s.view = View.of w.criteria [] l := by
  rw [h.upToDate.view, h.criteria, h.conflicts, View.of_congr w.criteria [] h.plugins]

/-- What a session shows is what is wanted of a load order, within a conflict set. -/
structure Displays (w : Wanted) (names : Names) (l : List Plugin) (s : Session) : Prop where
  criteria : { s.criteria with conflictPlugin := none } = w.criteria
  needle : s.needle = w.searchText
  plugins : s.plugins.map Plugin.bare = l.map Plugin.bare
  carded : s.Carded
  upToDate : s.UpToDate
  conflicts : s.conflicts = names
  marks : s.MarksCurrent

theorem Shows.displays (h : Shows w.criteria w.searchText l s) : Displays w [] l s where
  criteria := by
    rw [h.criteria]
    rfl
  needle := h.needle
  plugins := h.plugins
  carded := h.carded
  upToDate := h.upToDate
  conflicts := h.conflicts
  marks := h.marks

namespace Displays

variable {names : Names}

theorem marked (h : Displays w names l s) {q : Plugin} (hq : q ∈ s.shownPlugins) :
    w.Marked q := by
  obtain ⟨i, -, hat⟩ := mem_shownPlugins.mp hq
  have hcard := h.carded q (List.mem_of_getElem? hat)
  have hmessages := h.upToDate.marks q hq
  constructor
  · rw [← h.criteria]
    exact hcard
  · rw [← h.criteria]
    exact hmessages

theorem found_eq (h : Displays w names l s) {q : Plugin} (hq : q ∈ s.shownPlugins) :
    q.card.found = w.finds q.bare := by
  obtain ⟨i, hi, hat⟩ := mem_shownPlugins.mp hq
  have hfound := h.marks i q hat
  rw [h.needle, (h.marked hq).isVisible_eq] at hfound
  rw [Bool.eq_iff_iff, hfound, Wanted.finds, Bool.and_eq_true, bne_iff_ne]
  exact and_congr_right fun _ => and_iff_right hi

theorem shows_eq (h : Displays w names l s) (p : Plugin) :
    s.criteria.shows names (Text.lowercase s.criteria.needle) p =
      (p.passesConflicts names && w.lists p.bare) := by
  have hall := w.shows_criteria p.bare
  rw [Criteria.shows_bare, ← h.criteria] at hall
  rw [← hall, Bool.and_comm]
  simp only [Criteria.shows, Bool.and_assoc, Bool.and_comm (p.passesConflicts names)]
  rfl

/-- **The session's list is the one that needs no session.** -/
theorem map_toJson (h : Displays w names l s) (hl : l.map Plugin.bare = l) :
    s.shownPlugins.map Plugin.toJson =
      (l.filter fun p => p.passesConflicts names && w.lists p).map w.item := by
  have hplugins : l = s.plugins.map Plugin.bare := (h.plugins.trans hl).symm
  have hshown : s.shownPlugins =
      s.plugins.filter ((fun p => p.passesConflicts names && w.lists p) ∘ Plugin.bare) := by
    rw [shownPlugins, h.upToDate.view, h.conflicts, View.plugins_of]
    exact List.filter_congr fun p _ => h.shows_eq p
  have hitem : ∀ q ∈ s.shownPlugins, q.toJson = w.item q.bare := fun q hq =>
    (h.marked hq).toJson_eq (h.found_eq hq)
  calc s.shownPlugins.map Plugin.toJson
      = (s.shownPlugins.map Plugin.bare).map w.item := by
        rw [List.map_map]
        exact List.map_congr_left hitem
    _ = _ := by rw [hplugins, List.filter_map, hshown]

end Displays

theorem Shows.map_toJson (h : Shows w.criteria w.searchText l s) (hl : l.map Plugin.bare = l) :
    s.shownPlugins.map Plugin.toJson = w.items l := h.displays.map_toJson hl

/-- The numbers of a session that are printed. -/
def numbers (s : Session) : Numbers where
  shownMessages := s.totals.shownMessages
  messages := s.totals.messages
  warnings := s.totals.warnings
  errors := s.totals.errors
  dirtyPlugins := s.totals.dirtyPlugins
  plugins := s.plugins.length
  shownPlugins := s.view.shown.length
  hiddenPlugins := s.view.hiddenPlugins
  hiddenMessages := s.view.hiddenMessages

theorem counts_json (s : Session) : s.counts .json = line (Json.wide s.numbers.toJson) := rfl

/-- **The session's numbers are those that need no session.** -/
theorem Shows.numbers_eq (h : Shows w.criteria needle l s) : s.numbers = w.numbers l := by
  obtain ⟨hmessages, hwarnings, herrors, hdirty⟩ := h.balanced.counts.congr h.plugins.symm
  have hshows : w.criteria.shows [] (Text.lowercase w.criteria.needle) = w.lists :=
    funext w.shows_criteria
  have hlength : s.plugins.length = l.length := by
    have hsame := congrArg List.length h.plugins
    rwa [List.length_map, List.length_map] at hsame
  have hplugins : s.view.shown.length = (w.numbers l).shownPlugins := by
    rw [h.view_eq, View.of, View.length_indicesFrom, hshows, List.countP_eq_length_filter]
    rfl
  have hothers : s.view.hiddenPlugins = (w.numbers l).hiddenPlugins := by
    rw [h.view_eq, View.of, hshows]
    rfl
  have hhidden : s.view.hiddenMessages = (w.numbers l).hiddenMessages := by
    rw [h.view_eq]
    apply Plugin.sumOf_congr
    intro p _
    rw [Criteria.hiddenMessages_eq_countP, funext w.showsMessage_criteria]
  -- the session takes the hidden messages away from all of them, and the list counts the others
  have hshown : s.totals.shownMessages = (w.numbers l).shownMessages := by
    have hsplit := w.shownMessages_add_hiddenMessages l
    have hall : s.totals.messages = (w.numbers l).messages := hmessages
    rw [h.upToDate.shownMessages, hhidden, hall]
    omega
  rw [numbers, hshown, hmessages, hwarnings, herrors, hdirty, hlength, hplugins, hothers, hhidden]
  rfl

end Session

/-! ### Runs of the program -/

theorem map_bare_of_parse {raw : String} {snapshot : Snapshot}
    (h : Snapshot.parse raw = .ok snapshot) :
    snapshot.plugins.map Plugin.bare = snapshot.plugins := by
  have hbare : ∀ p ∈ snapshot.plugins, p.bare = p := by
    intro p hp
    obtain ⟨name, data, rfl⟩ := Plugin.isReported_of_parse h p hp
    rw [Plugin.bare, Plugin.ofData, List.map_map]
    rfl
  exact (List.map_congr_left hbare).trans (List.map_id _)

/-- **A list has in it what it should, and the counts are those of the list.**  Two command
    lines ask for the list and for the counts with the same options, in a folder with some
    configuration, and the snapshot that these name can be read.  Then the list has one
    item for each plugin that the predicates let pass, in load order; and the counts say
    how many items there are, how many plugins there are besides, and how many messages
    the message filters let pass and how many they do not.  Whoever reads what was printed
    gets these items and, if they have 64 bits, these numbers. -/
theorem listing_runProgram {w : Surroundings} {store : Store} {c : Config} {o : Options}
    {listArgs countsArgs : List String} {path raw : String} {snapshot : Snapshot}
    (hlist : Action.parse listArgs = .ok (.command .list o))
    (hcounts : Action.parse countsArgs = .ok (.command .counts o))
    (hformat : o.format = some .json)
    (hconfig : Config.loadOrCreate w.store w.folder = (store, .ok c))
    (hpath : (o.snapshot.orElse fun _ => c.lastSnapshot) = some path)
    (hread : store.readText path = .ok raw) (hparse : Snapshot.parse raw = .ok snapshot)
    (quiet : Bool) :
    let wanted : Wanted := ⟨c, o⟩
    let items := wanted.items snapshot.plugins
    let n := wanted.numbers snapshot.plugins
    let listed := runProgram w listArgs quiet
    let counted := runProgram w countsArgs quiet
    listed.code = 0 ∧ listed.stdout = line (Json.wide (.list items)) ∧
    Json.readText listed.stdout = .ok (.list items) ∧
    counted.code = 0 ∧ counted.stdout = line (Json.wide n.toJson) ∧
    (n.plugins < 2 ^ 64 → n.messages < 2 ^ 64 → Json.readText counted.stdout = .ok n.toJson) ∧
    n.shownPlugins = items.length ∧ n.plugins = snapshot.plugins.length ∧
    n.shownPlugins + n.hiddenPlugins = n.plugins ∧
    n.shownMessages + n.hiddenMessages = n.messages := by
  intro wanted items n listed counted
  have hjson : o.effectiveFormat = .json := by rw [Options.effectiveFormat, hformat]; rfl
  obtain ⟨s, hbuild, hshows⟩ :=
    shows_buildSession (w := { w with store := store }) hpath hread hparse
  have hitems : s.listing .json = line (Json.wide (.list items)) := by
    rw [Session.listing, hshows.map_toJson (map_bare_of_parse hparse)]
  have hnumbers : s.counts .json = line (Json.wide n.toJson) := by
    rw [Session.counts_json, hshows.numbers_eq]
  have hlisted : listed.code = 0 ∧ listed.stdout = line (Json.wide (.list items)) := by
    simp only [listed, runProgram, hlist, runConfigured, hconfig, runCommand, withSession, hbuild,
      hjson, hitems]
    exact ⟨rfl, rfl⟩
  have hcounted : counted.code = 0 ∧ counted.stdout = line (Json.wide n.toJson) := by
    simp only [counted, runProgram, hcounts, runConfigured, hconfig, runCommand, withSession,
      hbuild, hjson, hnumbers]
    exact ⟨rfl, rfl⟩
  refine ⟨hlisted.1, hlisted.2, ?_, hcounted.1, hcounted.2, fun hplugins hmessages => ?_,
    (List.length_map _).symm, rfl, wanted.shownPlugins_add_hiddenPlugins _,
    wanted.shownMessages_add_hiddenMessages _⟩
  · rw [hlisted.2]
    exact wanted.readText_items _
  · rw [hcounted.2]
    exact wanted.readText_numbers hplugins hmessages

/-- A configuration that hides notes and remembers a snapshot. -/
def deckConfig : String :=
  "\x7b\"filters\":\x7b\"hideNotes\":true\x7d,\"last_snapshot\":\"order.json\"\x7d"

deriving instance DecidableEq for Plugin, Snapshot

/-- An active plugin with a note and a warning, and one that is not active, with an error. -/
def deckOrder : String :=
  "[\x7b\"__type\":\"Plugin\",\"name\":\"A.esp\",\"isActive\":true,\"isDirty\":true,"
    ++ "\"version\":\"2.0\",\"crc\":4660,\"modPriority\":-5,"
    ++ "\"tags\":[\x7b\"name\":\"Delev\"\x7d,\x7b\"name\":\"-Relev\"\x7d],\"messages\":["
    ++ "\x7b\"type\":\"say\"\x7d,"
    ++ "\x7b\"type\":\"warn\",\"content\":[\x7b\"str\":\"Old\"\x7d]\x7d]\x7d,"
    ++ "\x7b\"__type\":\"Plugin\",\"name\":\"B.esp\",\"messages\":[\x7b\"type\":\"error\"\x7d]\x7d]"

def deckPlugins : List Plugin :=
  [Plugin.ofData "A.esp"
    { name := some "A.esp", version := "2.0", active := true, dirty := true, crc := 4660
      priority := -5, tags := [{ name := "Delev" }, { name := "-Relev" }]
      messages := [{ severity := .note }, { severity := .warn, texts := [{ text := "Old" }] }] },
   Plugin.ofData "B.esp" { name := some "B.esp", messages := [{ severity := .error }] }]

/-- A folder with that configuration, and that snapshot beside it. -/
def deck : Surroundings where
  store := ⟨[(["deck", "config.json"], .text deckConfig), (["order.json"], .text deckOrder)]⟩
  folder := ["deck"]
  folderName := "deck"

theorem loadOrCreate_deck : Config.loadOrCreate deck.store deck.folder =
    (deck.store, .ok { toggles := { hideNotes := true }, lastSnapshot := some "order.json" }) := by
  decide +kernel

theorem parse_deckOrder : Snapshot.parse deckOrder = .ok { plugins := deckPlugins } := by
  decide +kernel

/-- The inactive plugin and the note are not listed, the first by an option and the other
    by what was saved; and the active plugin passes the filter by a tag that it adds, and is
    found by its version. -/
theorem listing_runProgram_deck :
    let asked :=
      ["--format", "json", "--hide-inactive", "--filter", " DELEV ", "--search", "2.0"]
    let listed := runProgram deck ("list" :: asked) false
    let counted := runProgram deck ("counts" :: asked) false
    let items : List Json :=
      [.object
        [("name", .text "A.esp"), ("version", .text "2.0"), ("crc", .text "00001234"),
         ("priority", .text "-5"), ("isActive", .bool true), ("isDirty", .bool true),
         ("tagsAdded", .text "Delev"), ("tagsRemoved", .text "Relev"),
         ("searchResult", .bool true),
         ("messages", .list [.object [("type", .text "warn"), ("content", .text "Old")]])]]
    let numbers : Json := .object
      [("filteredTotalMessages", .int 2), ("totalMessages", .int 3), ("totalWarnings", .int 1),
       ("totalErrors", .int 1), ("dirtyPluginCount", .int 1), ("totalPlugins", .int 2),
       ("shownPlugins", .int 1), ("hiddenPluginNo", .int 1), ("hiddenMessageNo", .int 1)]
    listed.code = 0 ∧ listed.stdout = line (Json.wide (.list items)) ∧
    Json.readText listed.stdout = .ok (.list items) ∧
    counted.code = 0 ∧ counted.stdout = line (Json.wide numbers) ∧
    Json.readText counted.stdout = .ok numbers := by
  intro asked listed counted items numbers
  let options : Options :=
    { format := some .json, hide := [.hideInactive], contentFilter := some " DELEV "
      search := some "2.0" }
  let wanted : Wanted :=
    ⟨{ toggles := { hideNotes := true }, lastSnapshot := some "order.json" }, options⟩
  have hlist : Action.parse ("list" :: asked) = .ok (.command .list options) := by decide +kernel
  have hcounts : Action.parse ("counts" :: asked) = .ok (.command .counts options) := by
    decide +kernel
  have hread : deck.store.readText "order.json" = .ok deckOrder := by rfl
  have hitems : wanted.items deckPlugins = items := by decide +kernel
  have hnumbers : (wanted.numbers deckPlugins).toJson = numbers := by decide +kernel
  obtain ⟨hcode, hlisted, hback, hcode', hcounted, hback', -⟩ :=
    listing_runProgram hlist hcounts rfl loadOrCreate_deck rfl hread parse_deckOrder false
  rw [hitems] at hlisted hback
  rw [hnumbers] at hcounted hback'
  exact ⟨hcode, hlisted, hback, hcode', hcounted, hback' (by decide) (by decide)⟩

end LoadOrder
