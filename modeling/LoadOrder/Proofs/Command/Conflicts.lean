/-
  LoadOrder/Proofs/Command/Conflicts.lean
  =======================================
  **The command for conflicts, whatever the engine says.**

  The command has a session whose list is right (`Session.Shows`), restricts it to the
  conflicts of a plugin and waits for the engine.  What it prints in the end is again
  what a list should have in it, of another load order: the one with the report laid
  over it (`Report.overlay`), and of the plugins that the report involves.  A check that
  failed is one with an empty report, so that the plugin that was asked about is left,
  as the snapshot has it.  The two cases differ in the status alone, and from the status
  the command tells whether there is something to be said on the side
  (`Outcome.remark_eq`).

  With a file of answers there are three ways in which a check can fail
  (`Engine.FileFails`).
-/
import LoadOrder.Proofs.Command.Listing
import LoadOrder.Proofs.Conflict.Overlay
import LoadOrder.Proofs.Conflict.Silent
import LoadOrder.Proofs.Session.Again

namespace LoadOrder

/-! ### Files of answers -/

/-- The ways in which a file of answers fails a question about a plugin: it cannot be
    read, it is no map of answers, or the answer about the plugin is no report. -/
inductive Engine.FileFails (store : Store) (path plugin : String) : Prop where
  | unreadable {e : SystemError} (hread : store.readText path = .error e)
  | malformed {raw : String} {fault : Json.Fault} (hread : store.readText path = .ok raw)
      (hanswers : readAnswers raw = .error fault)
  | badEntry {raw : String} {answers : Json.Members} (hread : store.readText path = .ok raw)
      (hanswers : readAnswers raw = .ok answers)
      (hentry : (Answer.reply ((Json.lookup plugin answers).getD .null).compact).Fails)

theorem Engine.fails_ofFile_iff (store : Store) (path plugin : String) (asked : List String) :
    (ofFile store path asked (.conflictsOf plugin)).Fails ↔ FileFails store path plugin := by
  simp only [ofFile, Request.conflictsOf, ne_eq, not_true_eq_false, if_false]
  cases hread : store.readText path with
  | error e => exact ⟨fun _ => .unreadable hread, fun _ => .refused _⟩
  | ok raw =>
    simp only
    rw [answerIn]
    cases hanswers : readAnswers raw with
    | error fault => exact ⟨fun _ => .malformed hread hanswers, fun _ => .refused _⟩
    | ok answers =>
      constructor
      · exact .badEntry hread hanswers
      · intro h
        cases h with
        | unreadable hother => cases hread.symm.trans hother
        | malformed hother hfault =>
          cases hread.symm.trans hother
          cases hanswers.symm.trans hfault
        | badEntry hother hfound hentry =>
          cases hread.symm.trans hother
          cases hanswers.symm.trans hfound
          exact hentry

/-! ### Outcomes -/

namespace Outcome

/-- The findings of an outcome name no plugin twice. -/
theorem names_ofAnswer (plugin : String) (a : Answer) :
    ((ofAnswer plugin a).findings.map Prod.fst).Pairwise (· ≠ ·) := by
  cases a with
  | breakdown text => exact .nil
  | failure f => exact .nil
  | reply raw =>
    rw [ofAnswer]
    cases hparse : Report.parse plugin raw with
    | error cause => exact .nil
    | ok report => exact Report.names_of_parse hparse

end Outcome

theorem Session.passesConflicts_mergeOf (s : Session) (o : Outcome) (p : Plugin) :
    p.passesConflicts (s.mergeOf o).names = o.findings.involves o.plugin p := by
  cases o <;> exact Merge.passesConflicts_run _ _ _ _ _

theorem tellsFailure_showing (shown all : Nat) :
    tellsFailure (Session.showing shown all) = false := by
  have hshowing : Session.showing shown all =
      "Showing " ++ (toString shown ++ (" of " ++ (toString all ++ " plugin(s)"))) := by
    simp only [Session.showing, String.append_assoc]
  rw [hshowing]
  -- from here on the numbers do not matter
  generalize toString shown ++ (" of " ++ (toString all ++ " plugin(s)")) = rest
  simp only [tellsFailure, String.toList_append, String.reduceToList]
  rfl

theorem tellsFailure_failed (text : String) :
    tellsFailure ("Conflict check failed: " ++ text) = true := by
  simp only [tellsFailure, String.toList_append, String.reduceToList]
  rfl

/-- What the command says of an outcome on the side. -/
def Outcome.remark : Outcome → String
  | .completed _ _ => ""
  | .failed _ text => line ("Conflict check failed: " ++ text)

/-- The status after a check tells whether it failed. -/
theorem Outcome.remark_eq (o : Outcome) (shown all : Nat) :
    (if tellsFailure (Session.statusOf o shown all) then line (Session.statusOf o shown all)
      else "") = o.remark := by
  cases o with
  | completed plugin report =>
    exact if_neg (Bool.eq_false_iff.mp (tellsFailure_showing shown all))
  | failed plugin text => exact if_pos (tellsFailure_failed text)

/-! ### What is listed of a conflict -/

/-- What is printed of the conflicts of a plugin in a document for programs, when the
    engine has reported something. -/
def Wanted.conflictItems (w : Wanted) (plugin : String) (report : Report) (l : List Plugin) :
    List Json :=
  ((report.overlay l).filter fun p => report.involves plugin p && w.lists p).map w.item

/-- Without a report the plugin that was asked about is left, as it was. -/
theorem Wanted.conflictItems_nil (w : Wanted) (plugin : String) (l : List Plugin) :
    w.conflictItems plugin [] l =
      (l.filter fun p => p.name == plugin && w.lists p).map w.item := by
  rw [conflictItems, Report.overlay_nil]
  simp only [Report.involves, List.any_nil, Bool.or_false]

/-! ### The session of the command -/

namespace Session

variable {s : Session} {c : Criteria} {needle : String} {w : Wanted} {l : List Plugin}

/-- The session that is to show the conflicts of a plugin, before it is refreshed. -/
def restricted (s : Session) (plugin : String) : Session :=
  { s with criteria := { s.criteria with conflictPlugin := some plugin } }

theorem showConflicts_wait (hconf : s.criteria.conflictPlugin = none) (plugin : String)
    (engine : Engine) :
    (s.showConflicts (some plugin)).waitForConflicts engine =
      (s.restricted plugin).refreshAndWait engine := by
  have hnew : some plugin ≠ s.criteria.conflictPlugin := by
    rw [hconf]
    exact Option.some_ne_none plugin
  rw [showConflicts_eq, if_neg hnew]
  rfl

theorem Shows.reached_restricted (h : Shows c needle l s) (plugin : String) :
    (s.restricted plugin).Reached where
  sound := by
    have hcourier : (s.restricted plugin).courier = {} := h.courier
    rw [hcourier]
    exact .free []
  balanced := ⟨h.balanced.counts, h.balanced.shown, h.balanced.trace⟩
  resting := ⟨h.resting.held, h.resting.progress⟩

theorem marksCurrent_refreshAndWait (h : s.Reached) (hidle : s.courier.active = none)
    (engine : Engine) : (s.refreshAndWait engine).MarksCurrent := by
  cases hconf : s.criteria.conflictPlugin with
  | none =>
    rw [refreshAndWait_of_none h hidle hconf]
    exact marksCurrent_finishRefresh s []
  | some plugin =>
    rw [refreshAndWait_of_some h hidle hconf]
    exact (marksCurrent_finishRefresh _ _).blame _

theorem Carded.refreshAndWait (h : s.Carded) (engine : Engine) :
    (s.refreshAndWait engine).Carded := by
  have hlasting : Lasting (fun _ => True) Carded := lasting_carded
  exact hlasting.waitForConflicts (hlasting.refresh h) engine

/-- **A session that has been restricted shows what is wanted of the load order that was
    reported,** and its status is that of the outcome. -/
theorem Shows.displays_refreshAndWait (h : Shows w.criteria w.searchText l s) (plugin : String)
    (engine : Engine) {o : Outcome}
    (ho : Outcome.ofAnswer plugin (engine [] (.conflictsOf plugin)) = o) :
    let t := (s.restricted plugin).refreshAndWait engine
    Displays w (s.mergeOf o).names (Merge.editAll o.findings l) t ∧
      t.status = statusOf o t.view.shown.length t.plugins.length := by
  intro t
  have hreached := h.reached_restricted plugin
  have hcourier : (s.restricted plugin).courier = {} := h.courier
  have hidle : (s.restricted plugin).courier.active = none := by rw [hcourier]
  have hanswer : Outcome.ofAnswer plugin
      (engine (s.restricted plugin).courier.asked (.conflictsOf plugin)) = o := by
    rw [hcourier]
    exact ho
  have hrenewed := renewed_refreshAndWait_of_some hreached hidle rfl hanswer
  refine ⟨?_, hrenewed.status⟩
  constructor
  · rw [hrenewed.criteria]
    exact h.displays.criteria
  · rw [hrenewed.needle]
    exact h.needle
  · -- neither the pass nor the marks that the plugins had can be seen in the bare ones
    rw [hrenewed.plugins, Plugin.map_bare_of_map_unmarked (Criteria.pass_unmarked _ _ _ _),
      Merge.editAll_map Plugin.apart_bare, Merge.editAll_map Plugin.apart_bare]
    exact congrArg (Merge.editAll o.findings) h.plugins
  · exact Carded.refreshAndWait (s := s.restricted plugin) h.carded engine
  · exact upToDate_refreshAndWait hreached hidle engine
  · rw [hrenewed.conflicts]
    exact mergeOf_names_congr _ _ o
  · exact marksCurrent_refreshAndWait hreached hidle engine

theorem Shows.names_eq (h : Shows c needle l s) :
    s.plugins.map Plugin.name = l.map Plugin.name := by
  have hbare : ∀ k : List Plugin, k.map Plugin.name = (k.map Plugin.bare).map Plugin.name := by
    intro k
    rw [List.map_map]
    rfl
  rw [hbare, h.plugins, ← hbare]

theorem Shows.named?_eq_none_iff (h : Shows c needle l s) (plugin : String) :
    s.named? plugin = none ↔ ∀ p ∈ l, p.name ≠ plugin := by
  have hnames : (∀ p ∈ l, p.name ≠ plugin) ↔ ∀ p ∈ s.plugins, p.name ≠ plugin := by
    rw [← List.forall_mem_map (P := (· ≠ plugin)), ← h.names_eq, List.forall_mem_map]
  rw [hnames, named?, Merge.named?, List.find?_eq_none]
  simp only [beq_iff_eq, ne_eq]

theorem Displays.map_toJson_conflicts {o : Outcome} {t : Session}
    (h : Displays w (s.mergeOf o).names (Merge.editAll o.findings l) t)
    (hl : l.map Plugin.bare = l) (hnames : (o.findings.map Prod.fst).Pairwise (· ≠ ·)) :
    t.shownPlugins.map Plugin.toJson = w.conflictItems o.plugin o.findings l := by
  have hbare : (Merge.editAll o.findings l).map Plugin.bare = Merge.editAll o.findings l := by
    rw [Merge.editAll_map Plugin.apart_bare, hl]
  rw [h.map_toJson hbare, Merge.editAll_eq_overlay hnames]
  simp only [passesConflicts_mergeOf]
  rfl

/-- **What the command prints of a session that shows what is wanted.** -/
theorem Shows.conflictsOf (h : Shows w.criteria w.searchText l s) (hl : l.map Plugin.bare = l)
    {plugin : String} (hnamed : ∃ p ∈ l, p.name = plugin) (engine : Engine) :
    let o := Outcome.ofAnswer plugin (engine [] (.conflictsOf plugin))
    let printed := conflictsOf engine plugin .json s
    printed.failure = none ∧
      printed.stdout = line (Json.wide (.list (w.conflictItems plugin o.findings l))) ∧
      printed.stderr = o.remark := by
  intro o printed
  have hconf : s.criteria.conflictPlugin = none := by
    rw [h.criteria]
    rfl
  obtain ⟨p, hp⟩ : ∃ p, s.named? plugin = some p := by
    rw [← Option.ne_none_iff_exists', ne_eq, h.named?_eq_none_iff]
    push Not
    exact hnamed
  obtain ⟨hdisplays, hstatus⟩ := h.displays_refreshAndWait plugin engine (o := o) rfl
  have hitems := hdisplays.map_toJson_conflicts hl (Outcome.names_ofAnswer plugin _)
  rw [Outcome.plugin_ofAnswer] at hitems
  simp only [printed, LoadOrder.conflictsOf, hp, showConflicts_wait hconf, hstatus,
    Outcome.remark_eq, listing, hitems, true_and]

end Session

/-! ### Runs of the program -/

/-- A text is what a run has logged on the side: complaints about what is wanted of the
    log, and the wanted lines of what the run has told. -/
def IsLog (wanted : LogFilter) (text : String) : Prop :=
  ∃ trace, text = lines wanted.complaints ++ traceText wanted false trace

/-- With all logging off nothing is logged. -/
theorem IsLog.eq_empty {c : Config} {text : String} (h : IsLog (logFilter true c) text) :
    text = "" := by
  obtain ⟨trace, rfl⟩ := h
  have hsilent : logFilter true c = .silent := rfl
  rw [hsilent, traceText, LogFilter.lines_silent]
  rfl

/-- **The command for conflicts, whatever the engine says.**  A command line asks for the
    conflicts of a plugin in a document for programs, in a folder with some configuration,
    and the snapshot that these name can be read.  If no plugin of the snapshot has that
    name, the command fails and prints no list.  Otherwise it succeeds.  If the engine has
    answered, the list has the plugins that the report involves and that the other
    predicates let pass, in load order, all of it judged and printed with the report laid
    over the load order, and on the side there is the log only.  If the check has failed,
    the list has the plugins of that name that the other predicates let pass, as the
    snapshot has them, and the failure is told once, behind the log.  Either way, whoever
    reads what was printed gets this list.  With a file of answers a check fails if the
    file cannot be read, if it is no map of answers, or if the answer about the plugin is
    no report, and in no other case. -/
theorem conflicts_runProgram {w : Surroundings} {store : Store} {c : Config} {o : Options}
    {args : List String} {plugin path raw : String} {snapshot : Snapshot}
    (hargs : Action.parse args = .ok (.command (.conflicts plugin) o))
    (hformat : o.format = some .json)
    (hconfig : Config.loadOrCreate w.store w.folder = (store, .ok c))
    (hpath : (o.snapshot.orElse fun _ => c.lastSnapshot) = some path)
    (hread : store.readText path = .ok raw) (hparse : Snapshot.parse raw = .ok snapshot)
    (quiet : Bool) :
    let wanted : Wanted := ⟨c, o⟩
    let l := snapshot.plugins
    let engine := ({ w with store := store } : Surroundings).engineFor c o
    let outcome := Outcome.ofAnswer plugin (engine [] (.conflictsOf plugin))
    let ran := runProgram w args quiet
    ((∀ p ∈ l, p.name ≠ plugin) → ran.code = 1 ∧ ran.stdout = "") ∧
    ((∃ p ∈ l, p.name = plugin) →
      ran.code = 0 ∧ ∃ log, IsLog (logFilter quiet c) log ∧ (quiet = true → log = "") ∧
      match outcome with
      | .completed _ report =>
        let items := wanted.conflictItems plugin (report.getD []) l
        ran.stdout = line (Json.wide (.list items)) ∧
        Json.readText ran.stdout = .ok (.list items) ∧
        ran.stderr = log
      | .failed _ text =>
        let items := (l.filter fun p => p.name == plugin && wanted.lists p).map wanted.item
        ran.stdout = line (Json.wide (.list items)) ∧
        Json.readText ran.stdout = .ok (.list items) ∧
        ran.stderr = log ++ line ("Conflict check failed: " ++ text)) ∧
    ∀ file, o.engine.getD c.engine = .file file →
      ((∃ text, outcome = .failed plugin text) ↔ Engine.FileFails store file plugin) := by
  intro wanted l engine outcome ran
  have hjson : o.effectiveFormat = .json := by rw [Options.effectiveFormat, hformat]; rfl
  obtain ⟨s, hbuild, hshows⟩ :=
    shows_buildSession (w := { w with store := store }) hpath hread hparse
  obtain ⟨log, hlog, hran⟩ : ∃ log, IsLog (logFilter quiet c) log ∧
      ran = finish store (conflictsOf engine plugin .json s) log := by
    refine ⟨_, ⟨(conflictsOf engine plugin .json s).trace, rfl⟩, ?_⟩
    simp only [ran, runProgram, hargs, runConfigured, hconfig, runCommand, withSession, hbuild,
      hjson]
    rfl
  refine ⟨fun hnone => ?_, fun hnamed => ?_, fun file hfile => ?_⟩
  · have hmissing := (hshows.named?_eq_none_iff plugin).mpr hnone
    rw [hran, conflictsOf, hmissing]
    exact ⟨rfl, rfl⟩
  · obtain ⟨hsucceeds, hstdout, hstderr⟩ :=
      hshows.conflictsOf (map_bare_of_parse hparse) hnamed engine
    have hcode : ran.code = 0 := by
      rw [hran, finish, hsucceeds]
      rfl
    refine ⟨hcode, log, hlog, ?_, ?_⟩
    · rintro rfl
      exact hlog.eq_empty
    · have hlisted : ran.stdout =
          line (Json.wide (.list (wanted.conflictItems plugin outcome.findings l))) := by
        rw [hran, finish, hstdout]
      have htold : ran.stderr = log ++ outcome.remark := by
        rw [hran, finish, hstderr, hsucceeds]
        exact String.append_empty
      clear_value outcome
      have hback : Json.readText ran.stdout =
          .ok (.list (wanted.conflictItems plugin outcome.findings l)) := by
        rw [hlisted]
        exact wanted.readText_items _
      cases outcome with
      | completed other report => exact ⟨hlisted, hback, htold.trans String.append_empty⟩
      | failed other text =>
        rw [Outcome.findings, Wanted.conflictItems_nil] at hlisted hback
        exact ⟨hlisted, hback, htold⟩
  · have hengine : engine = Engine.ofFile store file := by
      simp only [engine, Surroundings.engineFor, hfile]
      rfl
    rw [Outcome.ofAnswer_failed_iff, hengine]
    exact Engine.fails_ofFile_iff store file plugin []

/-- A report in answer to one plugin, and a number in answer to another. -/
def deckAnswers : String :=
  "\x7b\"A.esp\":\x7b\"A.esp\":\x7b\x7d,\"B.esp\":\x7b\"conflicts\":true,\"crc\":255,"
    ++ "\"isDirty\":true,\"tags\":[\x7b\"name\":\"Delev\"\x7d],"
    ++ "\"messages\":[\x7b\"type\":\"warn\",\"content\":[\x7b\"str\":\"Old\"\x7d]\x7d]\x7d\x7d,"
    ++ "\"B.esp\":5\x7d"

/-- The deck with a file of answers. -/
def answeringDeck : Surroundings :=
  { deck with store := deck.store.put ["answers.json"] (.text deckAnswers) }

theorem loadOrCreate_answeringDeck :
    Config.loadOrCreate answeringDeck.store answeringDeck.folder =
      (answeringDeck.store,
        .ok { toggles := { hideNotes := true }, lastSnapshot := some "order.json" }) := by
  decide +kernel

/-- A command line about the conflicts of a plugin, with that file. -/
def deckQuestion (plugin : String) : List String :=
  ["conflicts", plugin, "--format", "json", "--engine-file", "answers.json"]

/-- Plugins without messages are not to be listed.  By the report the plugin that was asked
    about has none any more, and the other one has another one than before.  About that one
    there is no report, so it is listed as the snapshot has it; and a third one is not in
    the snapshot. -/
theorem conflicts_runProgram_deck :
    let answered := runProgram answeringDeck (deckQuestion "A.esp" ++ ["--hide-messageless"]) true
    let failed := runProgram answeringDeck (deckQuestion "B.esp") true
    let unknown := runProgram answeringDeck (deckQuestion "C.esp") true
    let merged : List Json :=
      [.object
        [("name", .text "B.esp"), ("version", .text ""), ("crc", .text "000000FF"),
         ("priority", .text ""), ("isActive", .bool false), ("isDirty", .bool true),
         ("tagsAdded", .text "Delev"), ("tagsRemoved", .text ""), ("searchResult", .bool false),
         ("messages", .list [.object [("type", .text "warn"), ("content", .text "Old")]])]]
    let unchanged : List Json :=
      [.object
        [("name", .text "B.esp"), ("version", .text ""), ("crc", .text ""),
         ("priority", .text ""), ("isActive", .bool false), ("isDirty", .bool false),
         ("tagsAdded", .text ""), ("tagsRemoved", .text ""), ("searchResult", .bool false),
         ("messages", .list [.object [("type", .text "error"), ("content", .text "")]])]]
    let problem := "invalid type: integer `5`, expected a map"
    let text := "conflict data for B.esp is malformed: " ++ problem ++ ": " ++ problem
    answered.code = 0 ∧ answered.stdout = line (Json.wide (.list merged)) ∧
    Json.readText answered.stdout = .ok (.list merged) ∧ answered.stderr = "" ∧
    failed.code = 0 ∧ failed.stdout = line (Json.wide (.list unchanged)) ∧
    Json.readText failed.stdout = .ok (.list unchanged) ∧
    failed.stderr = line ("Conflict check failed: " ++ text) ∧
    Engine.FileFails answeringDeck.store "answers.json" "B.esp" ∧
    unknown.code = 1 ∧ unknown.stdout = "" := by
  intro answered failed unknown merged unchanged problem text
  let config : Config := { toggles := { hideNotes := true }, lastSnapshot := some "order.json" }
  let options : Options := { format := some .json, engine := some (.file "answers.json") }
  let narrowed : Options := { options with hide := [.hideMessageless] }
  let report : Report :=
    [("A.esp", {}),
     ("B.esp",
      { crc := 255, dirty := true, tags := [{ name := "Delev" }], conflicts := true
        messages := [{ severity := .warn, texts := [{ text := "Old" }] }] })]
  have hread : answeringDeck.store.readText "order.json" = .ok deckOrder := by rfl
  have hanswered : Action.parse (deckQuestion "A.esp" ++ ["--hide-messageless"]) =
      .ok (.command (.conflicts "A.esp") narrowed) := by
    decide +kernel
  have hothers : ∀ plugin ∈ ["B.esp", "C.esp"],
      Action.parse (deckQuestion plugin) = .ok (.command (.conflicts plugin) options) := by
    decide +kernel
  -- both at once, so that the file of answers is evaluated once
  have hanswers : Outcome.ofAnswer "A.esp"
      (Engine.ofFile answeringDeck.store "answers.json" [] (.conflictsOf "A.esp")) =
        .completed "A.esp" (some report) ∧
      Outcome.ofAnswer "B.esp"
        (Engine.ofFile answeringDeck.store "answers.json" [] (.conflictsOf "B.esp")) =
          .failed "B.esp" text := by
    decide +kernel
  obtain ⟨hreport, hfailure⟩ := hanswers
  have hmerged : (Wanted.mk config narrowed).conflictItems "A.esp" report deckPlugins = merged := by
    decide +kernel
  have hunchanged : (deckPlugins.filter fun p =>
      p.name == "B.esp" && (Wanted.mk config options).lists p).map
        (Wanted.mk config options).item = unchanged := by
    decide +kernel
  obtain ⟨-, hfirst, -⟩ :=
    conflicts_runProgram hanswered rfl loadOrCreate_answeringDeck rfl hread parse_deckOrder true
  obtain ⟨-, hsecond, hfile⟩ :=
    conflicts_runProgram (hothers "B.esp" (by decide)) rfl loadOrCreate_answeringDeck rfl hread
      parse_deckOrder true
  obtain ⟨hthird, -⟩ :=
    conflicts_runProgram (hothers "C.esp" (by decide)) rfl loadOrCreate_answeringDeck rfl hread
      parse_deckOrder true
  have hanswer := hfirst ⟨_, List.mem_cons_self, rfl⟩
  have hfailed := hsecond ⟨_, List.mem_cons_of_mem _ List.mem_cons_self, rfl⟩
  have hunknown := hthird (List.forall_mem_cons.mpr
    ⟨by decide, List.forall_mem_cons.mpr ⟨by decide, List.forall_mem_nil _⟩⟩)
  simp only [Surroundings.engineFor, Surroundings.engine, narrowed, options, Option.getD_some,
    hreport, hfailure] at hanswer hfailed hfile
  obtain ⟨hcode, log, -, hquiet, hlisted, hback, htold⟩ := hanswer
  obtain ⟨hcode', log', -, hquiet', hlisted', hback', htold'⟩ := hfailed
  rw [hquiet trivial] at htold
  rw [hquiet' trivial, String.empty_append] at htold'
  rw [← hmerged, ← hunchanged]
  exact ⟨hcode, hlisted, hback, htold, hcode', hlisted', hback', htold',
    (hfile _ rfl).mp ⟨text, rfl⟩, hunknown⟩

end LoadOrder
