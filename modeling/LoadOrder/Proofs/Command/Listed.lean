/-
  LoadOrder/Proofs/Command/Listed.lean
  ====================================
  **What a list should have in it, said in one pass.**

  A run lays the options of its command line over the saved settings (`Wanted`).  What
  it should then print of a load order needs no session: which plugins and which of
  their messages are listed, what is printed of each, and how many there are.  All of
  it is read off the plugins as they were reported, and no mark is written anywhere.

  What is printed is a document, and it is spelled out here to its leaves.  The document
  is what counts, not how it is laid out: whoever reads what was printed gets it back
  (`readText_items`, `readText_numbers`).

  The session comes to the same by way of its criteria (`Wanted.criteria`): a switch is
  on if it was saved or if an option names it (`Wanted.get_criteria`), and the predicates
  of a filter pass are those of the list (`Wanted.showsMessage_criteria`,
  `Wanted.shows_criteria`).
-/
import LoadOrder.Command.Output
import LoadOrder.Proofs.Filter.Count
import LoadOrder.Proofs.Json.Printed

namespace LoadOrder

/-! ### Texts that hold a needle -/

/-- Whether one of some texts holds a needle, in whatever case the two are. -/
def holds (texts : List String) (needle : String) : Bool :=
  texts.any fun text => Text.contains (Text.lowercase text) (Text.lowercase needle)

/-- The empty needle is held by any text. -/
theorem empty_or_holds (text : String) (texts : List String) (needle : String) :
    (Text.lowercase needle == "" || holds (text :: texts) needle) = holds (text :: texts) needle := by
  cases hempty : Text.lowercase needle == "" with
  | true =>
    have hheld : Text.contains (Text.lowercase text) "" = true :=
      (Text.occurs_iff _ _).mpr List.nil_infix
    rw [holds, eq_of_beq hempty, List.any_cons, hheld]
    rfl
  | false => rfl

/-! ### What is wanted -/

/-- The saved settings, and the options of a command line that are laid over them. -/
structure Wanted where
  config : Config
  options : Options

/-- The numbers of a load order that are printed. -/
structure Numbers where
  shownMessages : Nat
  messages : Nat
  warnings : Nat
  errors : Nat
  dirtyPlugins : Nat
  plugins : Nat
  shownPlugins : Nat
  hiddenPlugins : Nat
  hiddenMessages : Nat

def Numbers.toJson (n : Numbers) : Json :=
  .object
    [("filteredTotalMessages", .int n.shownMessages),
     ("totalMessages", .int n.messages),
     ("totalWarnings", .int n.warnings),
     ("totalErrors", .int n.errors),
     ("dirtyPluginCount", .int n.dirtyPlugins),
     ("totalPlugins", .int n.plugins),
     ("shownPlugins", .int n.shownPlugins),
     ("hiddenPluginNo", .int n.hiddenPlugins),
     ("hiddenMessageNo", .int n.hiddenMessages)]

namespace Wanted

variable (w : Wanted)

/-- Whether something is hidden: its switch was saved as on, or an option switches it
    on. -/
def hides (toggle : Toggle) : Bool := w.config.toggles.get toggle || w.options.hide.contains toggle

/-- Whether a message is listed with its plugin. -/
def keeps (m : Message) : Bool :=
  !(w.hides .hideAllMessages
    || (w.hides .hideNotes && m.severity == .note)
    || (w.hides .hideDoNotClean && w.config.phrase != ""
      && Text.contains m.content w.config.phrase))

/-- The messages of a plugin that are listed with it. -/
def messages (p : Plugin) : List Message := p.messages.filter w.keeps

/-- The text of the content filter, without the blanks around it. -/
def filterText : String := Text.trim (w.options.contentFilter.getD "")

def searchText : String := w.options.search.getD ""

/-- Whether a plugin is listed: by what its messages leave over, by its activity, and by
    all its texts. -/
def lists (p : Plugin) : Bool :=
  (!w.hides .hideMessageless || !(w.messages p).isEmpty)
    && (!w.hides .hideInactive || p.active)
    && holds
      ([p.name, p.crcText, p.version, p.tagTexts.added, p.tagTexts.removed]
        ++ p.messages.map Message.content)
      w.filterText

/-- The texts of a plugin that are listed. -/
def shownTexts (p : Plugin) : List String :=
  [p.name]
    ++ (if w.hides .hideVersions then [] else [p.version])
    ++ (if w.hides .hideCrcs then [] else [p.crcText])
    ++ (if w.hides .hideBashTags then [] else [p.tagTexts.added, p.tagTexts.removed])
    ++ (w.messages p).map Message.content

/-- Whether a plugin is found by the search. -/
def finds (p : Plugin) : Bool := w.searchText != "" && holds (w.shownTexts p) w.searchText

/-- What is printed of a message in a document for programs. -/
def messageItem (m : Message) : Json :=
  .object
    [("type",
      match m.severity with
      | .note => .text "note"
      | .warn => .text "warn"
      | .error => .text "error"),
     ("content", .text m.content)]

/-- What is printed of a plugin in a document for programs. -/
def item (p : Plugin) : Json :=
  .object
    ([("name", .text p.name)]
      ++ (if w.hides .hideVersions then [] else [("version", .text p.version)])
      ++ (if w.hides .hideCrcs then [] else [("crc", .text p.crcText)])
      ++ [("priority", .text p.priorityText), ("isActive", .bool p.active),
          ("isDirty", .bool p.dirty)]
      ++ (if w.hides .hideBashTags then []
          else [("tagsAdded", .text p.tagTexts.added),
                ("tagsRemoved", .text p.tagTexts.removed)])
      ++ [("searchResult", .bool (w.finds p)),
          ("messages", .list ((w.messages p).map messageItem))])

/-- What is printed of a load order in a document for programs. -/
def items (plugins : List Plugin) : List Json := (plugins.filter w.lists).map w.item

/-- The numbers of a load order. -/
def numbers (plugins : List Plugin) : Numbers where
  shownMessages := Plugin.sumOf (fun p => (w.messages p).length) plugins
  messages := Plugin.sumOf (fun p => p.messages.length) plugins
  warnings := Plugin.sumOf (fun p => p.messages.countP fun m => decide (m.severity = .warn)) plugins
  errors := Plugin.sumOf (fun p => p.messages.countP fun m => decide (m.severity = .error)) plugins
  dirtyPlugins := plugins.countP Plugin.dirty
  plugins := plugins.length
  shownPlugins := (plugins.filter w.lists).length
  hiddenPlugins := plugins.countP fun p => !w.lists p
  hiddenMessages := Plugin.sumOf (fun p => p.messages.countP fun m => !w.keeps m) plugins

theorem length_filter_add_countP {α : Type} (test : α → Bool) (l : List α) :
    (l.filter test).length + (l.countP fun a => !test a) = l.length := by
  rw [← List.countP_eq_length_filter, List.length_eq_countP_add_countP test]
  simp only [Bool.not_eq_true, Bool.decide_eq_false]

/-- Every plugin is listed or not, -/
theorem shownPlugins_add_hiddenPlugins (plugins : List Plugin) :
    (w.numbers plugins).shownPlugins + (w.numbers plugins).hiddenPlugins =
      (w.numbers plugins).plugins :=
  length_filter_add_countP w.lists plugins

/-- and every message is kept or not. -/
theorem shownMessages_add_hiddenMessages (plugins : List Plugin) :
    (w.numbers plugins).shownMessages + (w.numbers plugins).hiddenMessages =
      (w.numbers plugins).messages := by
  show Plugin.sumOf _ plugins + Plugin.sumOf _ plugins = _
  rw [← Plugin.sumOf_add]
  exact Plugin.sumOf_congr fun p _ => length_filter_add_countP w.keeps p.messages

/-! ### What is read again -/

theorem plain_messageItem (m : Message) (depth : Nat) : (messageItem m).Plain (depth + 1) := by
  intro member hmember
  rcases List.mem_pair.mp hmember with rfl | rfl
  · refine Json.plain_of_leaf ?_ ?_ <;> cases m.severity <;> trivial
  · exact Json.plain_of_leaf rfl trivial

theorem plain_item (p : Plugin) (depth : Nat) : (w.item p).Plain (depth + 3) := by
  have htext (text : String) : (Json.text text).Plain (depth + 2) := Json.plain_of_leaf rfl trivial
  have hbool (b : Bool) : (Json.bool b).Plain (depth + 2) := Json.plain_of_leaf rfl trivial
  have hmessages : (Json.list ((w.messages p).map messageItem)).Plain (depth + 2) :=
    List.forall_mem_map.mpr fun m _ => plain_messageItem m depth
  show ∀ m ∈ (_ : Json.Members), m.2.Plain (depth + 2)
  -- what is hidden leaves its members out, and the others are what they were
  split_ifs <;> simp only [List.forall_mem_append, List.forall_mem_cons, htext, hbool, hmessages,
    List.not_mem_nil, false_imp_iff, implies_true, and_self]

/-- **A list that was printed reads back.** -/
theorem readText_items (l : List Plugin) :
    Json.readText (line (Json.wide (.list (l.map w.item)))) = .ok (.list (l.map w.item)) :=
  Json.readText_wide_lineBreak (List.forall_mem_map.mpr fun p _ => w.plain_item p 123)

/-- Nothing is counted more often than it is there. -/
theorem numbers_le (l : List Plugin) :
    let n := w.numbers l
    n.shownMessages ≤ n.messages ∧ n.hiddenMessages ≤ n.messages ∧ n.warnings ≤ n.messages ∧
      n.errors ≤ n.messages ∧ n.dirtyPlugins ≤ n.plugins ∧ n.shownPlugins ≤ n.plugins ∧
      n.hiddenPlugins ≤ n.plugins :=
  ⟨Plugin.sumOf_le fun _ _ => List.length_filter_le _ _,
    Plugin.sumOf_le fun _ _ => List.countP_le_length,
    Plugin.sumOf_le fun _ _ => List.countP_le_length,
    Plugin.sumOf_le fun _ _ => List.countP_le_length, List.countP_le_length,
    List.length_filter_le _ _, List.countP_le_length⟩

/-- **The numbers read back,** as long as they have 64 bits. -/
theorem readText_numbers {l : List Plugin} (hplugins : (w.numbers l).plugins < 2 ^ 64)
    (hmessages : (w.numbers l).messages < 2 ^ 64) :
    Json.readText (line (Json.wide (w.numbers l).toJson)) = .ok (w.numbers l).toJson := by
  have hnat {n bound : Nat} (hle : n ≤ bound) (hbound : bound < 2 ^ 64) :
      (Json.int n).Plain 126 := by
    have hmax : Json.Cursor.maxWhole = 18446744073709551615 := rfl
    refine Json.plain_of_leaf rfl ⟨?_, ?_⟩ <;> omega
  obtain ⟨hshown, hhidden, hwarnings, herrors, hdirty, hlisted, hothers⟩ := w.numbers_le l
  refine Json.readText_wide_lineBreak (show ∀ m ∈ (_ : Json.Members), m.2.Plain 126 from ?_)
  simp only [List.forall_mem_cons, List.not_mem_nil, false_imp_iff, implies_true, and_true]
  exact ⟨hnat hshown hmessages, hnat le_rfl hmessages, hnat hwarnings hmessages,
    hnat herrors hmessages, hnat hdirty hplugins, hnat le_rfl hplugins, hnat hlisted hplugins,
    hnat hothers hplugins, hnat hhidden hmessages⟩

/-! ### The criteria of a session -/

/-- What decides the view of a session that is to show what is wanted. -/
def criteria : Criteria where
  toggles := w.options.toggles w.config.toggles
  needle := w.filterText
  phrase := w.config.phrase

end Wanted

theorem Toggles.get_set (t : Toggles) (toggle other : Toggle) :
    (t.set toggle true).get other = (t.get other || other == toggle) := by
  cases heq : other == toggle with
  | true =>
    rw [eq_of_beq heq, get_set_self, Bool.or_true]
  | false =>
    rw [get_set_of_ne t (ne_of_beq_false heq).symm, Bool.or_false]

theorem Toggles.get_setAll (t : Toggles) (toggles : List Toggle) (other : Toggle) :
    (t.setAll toggles).get other = (t.get other || toggles.contains other) := by
  induction toggles generalizing t with
  | nil => exact (Bool.or_false _).symm
  | cons toggle rest ih =>
    have hrest := ih (t.set toggle true)
    rw [get_set, Bool.or_assoc] at hrest
    exact hrest

namespace Wanted

variable (w : Wanted)

/-- **An option switches something on,** and what was saved as on stays on. -/
theorem get_criteria (toggle : Toggle) : w.criteria.toggles.get toggle = w.hides toggle :=
  Toggles.get_setAll _ _ _

theorem showsMessage_criteria (m : Message) : w.criteria.showsMessage m = w.keeps m := by
  have hall : w.criteria.toggles.hideAllMessages = w.hides .hideAllMessages :=
    w.get_criteria .hideAllMessages
  have hnotes : w.criteria.toggles.hideNotes = w.hides .hideNotes :=
    w.get_criteria .hideNotes
  have hclean : w.criteria.toggles.hideDoNotClean = w.hides .hideDoNotClean :=
    w.get_criteria .hideDoNotClean
  have hphrase : w.criteria.phrase = w.config.phrase := rfl
  unfold Criteria.showsMessage Criteria.passesMessages Criteria.passesNotes Criteria.passesPhrase
    keeps
  rw [hall, hnotes, hclean, hphrase]
  simp only [Bool.not_or, Bool.not_and, bne, Bool.not_not, Bool.and_assoc, Bool.or_assoc]

theorem passesMessageless_criteria (p : Plugin) :
    w.criteria.passesMessageless p = (!w.hides .hideMessageless || !(w.messages p).isEmpty) := by
  have hless : w.criteria.toggles.hideMessageless = w.hides .hideMessageless :=
    w.get_criteria .hideMessageless
  have hkept : p.messages.countP w.criteria.showsMessage = (w.messages p).length := by
    rw [funext w.showsMessage_criteria, List.countP_eq_length_filter, messages]
  have hsplit := w.criteria.hiddenMessages_add_countP p
  rw [hkept] at hsplit
  have hleft : decide (w.criteria.hiddenMessages p < p.messages.length) =
      !(w.messages p).isEmpty := by
    rw [Bool.eq_iff_iff, decide_eq_true_iff, Bool.not_eq_true', List.isEmpty_eq_false_iff,
      ← List.length_pos_iff]
    omega
  rw [Criteria.passesMessageless, hless, hleft]

theorem matchesContent_eq_holds (p : Plugin) (text : String) :
    p.matchesContent (Text.lowercase text) =
      holds
        ([p.name, p.crcText, p.version, p.tagTexts.added, p.tagTexts.removed]
          ++ p.messages.map Message.content)
        text := by
  rw [List.cons_append, ← empty_or_holds]
  simp only [Plugin.matchesContent, Plugin.foldedContains, holds, List.any_cons, List.any_append,
    List.any_nil, List.any_map, Bool.or_false, Bool.or_assoc]
  rfl

/-- **The predicates of a filter pass are those of the list.** -/
theorem shows_criteria (p : Plugin) :
    w.criteria.shows [] (Text.lowercase w.criteria.needle) p = w.lists p := by
  have hactive : w.criteria.passesActive p = (!w.hides .hideInactive || p.active) := by
    rw [← w.get_criteria .hideInactive]
    rfl
  have hconflicts : p.passesConflicts [] = true := rfl
  have hneedle : w.criteria.needle = w.filterText := rfl
  rw [Criteria.shows, lists, passesMessageless_criteria, hactive, hconflicts, hneedle,
    matchesContent_eq_holds, Bool.true_and, Bool.and_assoc]

end Wanted

end LoadOrder
