/-
  LoadOrder/Proofs/Command/Files.lean
  ===================================
  **What a run does to the files.**

  A run reads files in many places and can fail in most of them, but it writes in two
  only.  A missing configuration is made before anything else happens
  (`Config.loadOrCreate_of_usable`), and the terminal interface adds to its log
  (`Logged`).  The session of a run, and with it everything that the options of the
  command line say, comes behind the first and is never written.

  What stands in a configuration that was made is spelled out, as settings
  (`Config.initial`) and as a document (`Config.initialDocument`), and its text is known
  by what it reads back as.
-/
import LoadOrder.Command.Program
import LoadOrder.Proofs.Config.RoundTrip

namespace LoadOrder

open Store

/-! ### The log -/

theorem config_ne_log (folder : List String) : folder ++ [configFile] ≠ folder ++ [logFile] := by
  intro heq
  have hlast := List.append_cancel_left heq
  simp [configFile, logFile] at hlast

/-- What becomes of something to which a text is added: only a text gets longer. -/
def Node.extended (more : String) : Node → Node
  | .text before => .text (before ++ more)
  | other => other

/-- The files differ in the log at most, and what stood there has been added to. -/
structure Logged (folder : List String) (s t : Store) : Prop where
  others : ∀ place, place ≠ folder ++ [logFile] → t.node? place = s.node? place
  log : ∀ node, s.node? (folder ++ [logFile]) = some node →
    ∃ more, t.node? (folder ++ [logFile]) = some (node.extended more)

section

variable {s t u : Store} {folder : List String}

theorem Node.extended_extended (node : Node) (first second : String) :
    (node.extended first).extended second = node.extended (first ++ second) := by
  cases node with
  | text before => rw [extended, extended, extended, String.append_assoc]
  | folder => rfl
  | binary => rfl

theorem Logged.refl (folder : List String) (s : Store) : Logged folder s s where
  others := fun _ _ => rfl
  log := by
    intro node hnode
    refine ⟨"", hnode.trans ?_⟩
    cases node with
    | text before => rw [Node.extended, String.append_empty]
    | folder => rfl
    | binary => rfl

theorem Logged.trans (hst : Logged folder s t) (htu : Logged folder t u) :
    Logged folder s u where
  others := fun place hplace => (htu.others place hplace).trans (hst.others place hplace)
  log := by
    intro node hnode
    obtain ⟨first, hfirst⟩ := hst.log node hnode
    obtain ⟨second, hsecond⟩ := htu.log _ hfirst
    exact ⟨first ++ second, by rw [hsecond, Node.extended_extended]⟩

theorem Logged.hasFolders (h : Logged folder s t) (hfolders : s.HasFolders folder) :
    t.HasFolders folder := by
  intro place hne hway
  rw [h.others place fun heq => not_prefix_of_file logFile (heq ▸ hway)]
  exact hfolders place hne hway

theorem logged_appendLog (h : s.HasFolders folder) (text : String) :
    Logged folder s (appendLog s folder text) where
  others := by
    intro place hplace
    simp only [appendLog]
    split
    · exact h.node?_put hplace _
    · rfl
    · exact h.node?_put hplace _
  log := by
    intro node hnode
    refine ⟨text, ?_⟩
    simp only [appendLog, hnode]
    cases node with
    | text before => exact node?_put_self _ _ _
    | folder => exact hnode
    | binary => exact hnode

end

/-! ### The first configuration -/

/-- The settings where nothing was saved. -/
def Config.initial : Config where
  toggles :=
    { hideMessageless := false, hideInactive := false, hideNotes := false
      hideDoNotClean := false, hideAllMessages := false, hideVersions := false
      hideCrcs := false, hideBashTags := false }
  phrase := "Do not clean"
  engine := .absent
  logLevel := "info"
  lastSnapshot := none

/-- The document that stands for them. -/
def Config.initialDocument : Json :=
  .object
    [("filters", .object
      [("hideMessagelessPlugins", .bool false), ("hideInactivePlugins", .bool false),
       ("hideNotes", .bool false), ("hideDoNotCleanMessages", .bool false),
       ("hideAllPluginMessages", .bool false), ("hideVersionNumbers", .bool false),
       ("hideCRCs", .bool false), ("hideBashTags", .bool false)]),
     ("do_not_clean_phrase", .text "Do not clean"),
     ("engine", .object [("kind", .text "none")]),
     ("log_level", .text "info"),
     ("last_snapshot", .null)]

/-- The text of a new configuration reads back as the settings where nothing was saved. -/
theorem Config.readText_initial :
    Json.readText ({} : Config).text = .ok initialDocument ∧
      ofText ({} : Config).text = .ok initial :=
  ⟨readText_text trivial, ofText_text trivial⟩

/-! ### Runs -/

/-- Whether a run begins with loading the configuration: its command line could be read,
    and asks for more than to be told about the program. -/
def needsConfig : Except UsageError Action → Bool
  | .error _ => false
  | .ok (.interface _) => true
  | .ok (.command .help _) => false
  | .ok (.command .version _) => false
  | .ok (.command _ _) => true

namespace Surroundings

variable (w : Surroundings)

/-- The files after the configuration has been loaded. -/
def loaded : Store := (Config.loadOrCreate w.store w.folder).1

theorem loaded_of_not_usable (h : ¬ w.store.Usable w.folder) : w.loaded = w.store := by
  obtain ⟨f, hf⟩ := Config.loadOrCreate_of_not_usable h
  rw [loaded, hf]

theorem store_runConfigured (command : Command) (o : Options) (quiet : Bool) :
    (runConfigured w command o quiet).store = w.loaded := by
  unfold runConfigured loaded
  split <;> rename_i hload <;> rw [hload] <;> rfl

/-- The terminal interface writes its log behind everything else. -/
theorem logged_runTerminal (o : Options) (quiet : Bool) :
    Logged w.folder w.loaded (runTerminal w o quiet).store := by
  by_cases husable : w.store.Usable w.folder
  · obtain ⟨-, hfolders, -⟩ := Config.loadOrCreate_of_usable husable
    unfold runTerminal loaded at *
    split
    · rename_i hload
      rw [hload]
      exact Logged.refl _ _
    · rename_i hload
      rw [hload] at hfolders ⊢
      have hopened := logged_appendLog hfolders ""
      exact hopened.trans (logged_appendLog (hopened.hasFolders hfolders) _)
  · obtain ⟨f, hf⟩ := Config.loadOrCreate_of_not_usable husable
    rw [runTerminal, loaded, hf]
    exact Logged.refl _ _

/-- What a run leaves behind, by what its command line asks for. -/
inductive Leaves (w : Surroundings) : Except UsageError Action → Store → Prop where
  | idle {parsed : Except UsageError Action} (h : needsConfig parsed = false) :
      Leaves w parsed w.store
  | configured {parsed : Except UsageError Action} (h : needsConfig parsed = true) :
      Leaves w parsed w.loaded
  | logged {o : Options} {t : Store} (h : Logged w.folder w.loaded t) :
      Leaves w (.ok (.interface o)) t

theorem leaves_runProgram (args : List String) (quiet : Bool) :
    w.Leaves (Action.parse args) (runProgram w args quiet).store := by
  unfold runProgram
  cases Action.parse args with
  | error e => exact .idle rfl
  | ok a =>
    cases a with
    | interface o => exact .logged (w.logged_runTerminal o quiet)
    | command command o =>
      cases command with
      | help => exact .idle rfl
      | version => exact .idle rfl
      | list | counts | conflicts plugin | settings =>
        simp only [store_runConfigured]
        exact .configured rfl

/-- Loading the configuration fills free places only. -/
theorem grows_loaded : Grows (Config.IsOwn w.folder) w.store w.loaded := by
  by_cases h : w.store.Usable w.folder
  · exact (Config.loadOrCreate_of_usable h).1
  · rw [w.loaded_of_not_usable h]
    exact Grows.refl w.store

variable {w} {parsed : Except UsageError Action} {after : Store} {place : List String}
  {node : Node}

/-- What has become of a place after a run, the place of the log apart. -/
theorem Leaves.node?_eq (h : w.Leaves parsed after) (hplace : place ≠ w.folder ++ [logFile]) :
    after.node? place =
      if needsConfig parsed then w.loaded.node? place else w.store.node? place := by
  cases h with
  | idle h => rw [h, if_neg Bool.false_ne_true]
  | configured h => rw [if_pos h]
  | logged h => exact h.others place hplace

theorem Leaves.cases_place (h : w.Leaves parsed after) (hplace : place ≠ w.folder ++ [logFile]) :
    after.node? place = w.store.node? place ∨
      w.store.node? place = none ∧
        ∃ node, after.node? place = some node ∧ Config.IsOwn w.folder place node := by
  rw [h.node?_eq hplace]
  cases needsConfig parsed with
  | false => exact .inl rfl
  | true => exact w.grows_loaded place

/-- The log comes about, or gets longer, with the terminal interface only. -/
theorem Leaves.cases_log (h : w.Leaves parsed after) :
    after.node? (w.folder ++ [logFile]) = w.store.node? (w.folder ++ [logFile]) ∨
      (∃ o, parsed = .ok (.interface o)) ∧
        ∀ node, w.store.node? (w.folder ++ [logFile]) = some node →
          ∃ more, after.node? (w.folder ++ [logFile]) = some (node.extended more) := by
  cases h with
  | idle h => exact .inl rfl
  | configured h =>
    refine .inl (w.grows_loaded.node?_eq fun node hown => ?_)
    rcases hown with ⟨hway, -⟩ | ⟨hconfig, -⟩
    · exact not_prefix_of_file logFile hway
    · exact config_ne_log w.folder hconfig.symm
  | @logged o _ h =>
    exact .inr ⟨⟨o, rfl⟩, fun node hnode => h.log node (w.grows_loaded.node?_of_some hnode)⟩

end Surroundings

/-- Whether a run makes a configuration where there is none: its command line asks for
    something that needs one, and no file is in the way of the folder. -/
def Surroundings.MakesConfig (w : Surroundings) (args : List String) : Prop :=
  needsConfig (Action.parse args) = true ∧ w.store.Usable w.folder

/-- **A run leaves every file as it was, the log of the terminal interface apart,** which
    gets longer.  This holds for all files, all command lines and however the run ends; in
    particular a configuration that is there stays, whatever it holds and whatever the
    options say.  What the run makes is its folder, the log, and the configuration; and
    that one it makes with the default settings if it needs one, and not otherwise.  Its
    text is read again as these settings, none of which the options have changed. -/
theorem files_runProgram (w : Surroundings) (args : List String) (quiet : Bool) :
    let after := (runProgram w args quiet).store
    let config := w.folder ++ [configFile]
    let log := w.folder ++ [logFile]
    let interface := ∃ o, Action.parse args = .ok (.interface o)
    (∀ place node, w.store.node? place = some node →
      after.node? place = some node ∨
        place = log ∧ interface ∧ ∃ more, after.node? place = some (node.extended more)) ∧
    (∀ place, w.store.node? place = none →
      after.node? place = none ∨ place <+: w.folder ∧ after.node? place = some .folder ∨
        place = config ∨ place = log ∧ interface) ∧
    (∀ node, w.store.node? config = some node → after.node? config = some node) ∧
    (w.store.node? config = none →
      (w.MakesConfig args → ∃ text, after.node? config = some (.text text) ∧
        text = ({} : Config).text ∧ Json.readText text = .ok Config.initialDocument ∧
        Config.ofText text = .ok Config.initial) ∧
      (¬ w.MakesConfig args → after.node? config = none)) := by
  intro after config log interface
  have hleaves : w.Leaves (Action.parse args) after := w.leaves_runProgram args quiet
  have hconfig : config ≠ log := config_ne_log w.folder
  have hkept : ∀ place node, place ≠ log → w.store.node? place = some node →
      after.node? place = some node := by
    intro place node hplace hnode
    rcases hleaves.cases_place hplace with hsame | ⟨hfree, -⟩
    · exact hsame.trans hnode
    · rw [hnode] at hfree
      cases hfree
  refine ⟨fun place node hnode => ?_, fun place hfree => ?_, fun node => hkept config node hconfig,
    fun hfree => ⟨fun hmakes => ?_, fun hmakes => ?_⟩⟩
  · by_cases hlog : place = log
    · subst hlog
      rcases hleaves.cases_log with hsame | ⟨hasked, hlonger⟩
      · exact .inl (hsame.trans hnode)
      · exact .inr ⟨rfl, hasked, hlonger node hnode⟩
    · exact .inl (hkept place node hlog hnode)
  · by_cases hlog : place = log
    · subst hlog
      rcases hleaves.cases_log with hsame | ⟨hasked, -⟩
      · exact .inl (hsame.trans hfree)
      · exact .inr (.inr (.inr ⟨rfl, hasked⟩))
    · rcases hleaves.cases_place hlog with hsame | ⟨-, node, hnode, hown⟩
      · exact .inl (hsame.trans hfree)
      · rcases hown with ⟨hway, rfl⟩ | ⟨heq, -⟩
        · exact .inr (.inl ⟨hway, hnode⟩)
        · exact .inr (.inr (.inl heq))
  · obtain ⟨hneeds, husable⟩ := hmakes
    obtain ⟨-, -, hloaded⟩ := Config.loadOrCreate_of_usable husable
    refine ⟨_, ?_, rfl, Config.readText_initial⟩
    rw [hleaves.node?_eq hconfig, if_pos hneeds]
    rw [hfree] at hloaded
    exact hloaded
  · rw [hleaves.node?_eq hconfig]
    split
    · rename_i hneeds
      rw [w.loaded_of_not_usable fun husable => hmakes ⟨hneeds, husable⟩, hfree]
    · exact hfree

/-- A run without any files makes the default configuration, whatever its options say. -/
theorem files_runProgram_fresh :
    let w : Surroundings := { folder := ["home", "plugindeck"], folderName := "home/plugindeck" }
    let after := (runProgram w ["settings", "--hide-notes", "--engine-file", "x"] false).store
    w.store.node? ["home", "plugindeck", "config.json"] = none ∧
      w.MakesConfig ["settings", "--hide-notes", "--engine-file", "x"] ∧
      ∃ text, after.node? ["home", "plugindeck", "config.json"] = some (.text text) ∧
        text = ({} : Config).text ∧
        Json.readText text = .ok (.object
          [("filters", .object
            [("hideMessagelessPlugins", .bool false), ("hideInactivePlugins", .bool false),
             ("hideNotes", .bool false), ("hideDoNotCleanMessages", .bool false),
             ("hideAllPluginMessages", .bool false), ("hideVersionNumbers", .bool false),
             ("hideCRCs", .bool false), ("hideBashTags", .bool false)]),
           ("do_not_clean_phrase", .text "Do not clean"),
           ("engine", .object [("kind", .text "none")]),
           ("log_level", .text "info"),
           ("last_snapshot", .null)]) ∧
        Config.ofText text = .ok
          { toggles := ⟨false, false, false, false, false, false, false, false⟩
            phrase := "Do not clean", engine := .absent, logLevel := "info"
            lastSnapshot := none } := by
  intro w after
  have hmakes : w.MakesConfig ["settings", "--hide-notes", "--engine-file", "x"] :=
    ⟨by decide +kernel, usable_empty w.folder⟩
  obtain ⟨-, -, -, hmissing⟩ :=
    files_runProgram w ["settings", "--hide-notes", "--engine-file", "x"] false
  exact ⟨rfl, hmakes, (hmissing rfl).1 hmakes⟩

end LoadOrder
