/-
  LoadOrder/Proofs/Conflict/Stored.lean
  =====================================
  **A conflict file answers with the values it holds.**

  The engine that looks its answers up in a file does not hand over the value that it
  finds: it prints the value in one line, and the reply is cut, read and decoded like
  that of any other engine.  None of this shows in the outcome (`transparent_ofFile`).
  A value without doubles comes back from its text as it was, the text has no blanks at
  its ends that could be cut, and what is said of a value that does not decode names no
  place in the text.

  The value must have whole numbers only.  A double is read from its digits with two
  roundings, so it need not come back from the digits that are printed for it.
-/
import LoadOrder.Proofs.Conflict.Failure
import LoadOrder.Proofs.Json.Equality
import LoadOrder.Proofs.Json.Reprinted

namespace LoadOrder

open Json

/-! ### Outcomes of values -/

/-- The report of a value that nothing had to be read for. -/
def Report.ofValue (plugin : String) (v : Json) : Except Cause (Option Report) :=
  (ofJson v).mapError fun problem => .malformedReport plugin ⟨problem, none⟩

/-- The outcome of a value. -/
def Outcome.ofValue (plugin : String) (v : Json) : Outcome :=
  match Report.ofValue plugin v with
  | .ok report => completed plugin report
  | .error cause => failed plugin (Failure.fullMessage { cause })

theorem Report.parse_eq_ofValue {plugin raw : String} {v : Json}
    (h : Json.parse (Text.trim raw) = .ok v) : parse plugin raw = ofValue plugin v := by
  rw [parse_of_json h, ofValue]
  cases ofJson v <;> rfl

theorem Outcome.ofAnswer_reply {plugin raw : String} {v : Json}
    (h : Json.parse (Text.trim raw) = .ok v) :
    ofAnswer plugin (.reply raw) = ofValue plugin v := by
  rw [ofAnswer, Report.parse_eq_ofValue h]
  rfl

theorem Outcome.ofValue_eq_completed_iff {plugin : String} {v : Json} {report : Option Report} :
    ofValue plugin v = .completed plugin report ↔ Report.ofValue plugin v = .ok report := by
  rw [ofValue]
  cases Report.ofValue plugin v <;> simp

/-! ### Files -/

/-- What the members of a conflict file hold for a plugin; without a member it is null. -/
def stored (plugin : String) (answers : Members) : Json := (lookup plugin answers).getD .null

namespace Engine

variable {store : Store} {path raw plugin : String} {answers : Members}

/-- A file that is an object is taken apart into its members. -/
theorem readAnswers_of_parse (h : Json.parse raw = .ok (.object answers)) :
    readAnswers raw = .ok answers := by
  obtain ⟨ms, hread, rfl⟩ := parse_eq_object h
  obtain ⟨c, hvalue, hending⟩ := readText_eq_ok hread
  have hbrace : (Cursor.ofText raw).skipBlanks.rest.head? = some '\x7b' := by
    rcases Cursor.valueWith_eq_done hvalue with ⟨hleaf, -⟩ | ⟨item, -, vs, hlist, -⟩ |
      ⟨item, -, ns, -, hbrace, -⟩
    · cases hleaf
    · cases hlist
    · exact hbrace
  unfold readAnswers
  split
  · rename_i heq
    rw [heq] at hbrace
    cases hbrace
  · simp only [hvalue, hending]

/-- The reply is the text of what is stored. -/
theorem ofFile_conflictsOf (hread : store.readText path = .ok raw)
    (h : Json.parse raw = .ok (.object answers)) (asked : List String) (plugin : String) :
    ofFile store path asked (.conflictsOf plugin) = .reply (stored plugin answers).compact := by
  simp only [ofFile, Request.conflictsOf, ne_eq, not_true, if_false, hread, answerIn,
    readAnswers_of_parse h, stored]

end Engine

theorem plain_stored {raw plugin : String} {answers : Members}
    (h : Json.parse raw = .ok (.object answers)) (hwhole : (stored plugin answers).Whole) :
    (stored plugin answers).Plain maxDepth := by
  unfold stored at hwhole ⊢
  cases hv : lookup plugin answers with
  | none => exact plain_of_leaf rfl trivial
  | some v =>
    rw [hv] at hwhole
    exact plain_of_lookup h hv hwhole

theorem canonical_stored {raw : String} {answers : Members}
    (h : Json.parse raw = .ok (.object answers)) (plugin : String) :
    (stored plugin answers).Canonical := by
  unfold stored
  cases hv : lookup plugin answers with
  | none => exact everyObject_leaf rfl
  | some v => exact (canonical_of_parse h).child (s := .member plugin) hv

section

variable {raw plugin : String} {answers : Members}
variable (h : Json.parse raw = .ok (.object answers)) (hwhole : (stored plugin answers).Whole)
include h hwhole

/-- **What is stored comes back from its text.** -/
theorem parse_compact_stored :
    Json.parse (stored plugin answers).compact = .ok (stored plugin answers) :=
  parse_compact (plain_stored h hwhole) (canonical_stored h plugin)

theorem parse_trim_stored :
    Json.parse (Text.trim (stored plugin answers).compact) = .ok (stored plugin answers) := by
  rw [(trimmed_compact (plain_stored h hwhole)).trim_eq]
  exact parse_compact_stored h hwhole

theorem outcome_ofFile {store : Store} {path : String} (hread : store.readText path = .ok raw)
    (asked : List String) :
    Outcome.ofAnswer plugin (Engine.ofFile store path asked (.conflictsOf plugin)) =
      Outcome.ofValue plugin (stored plugin answers) := by
  rw [Engine.ofFile_conflictsOf hread h]
  exact Outcome.ofAnswer_reply (parse_trim_stored h hwhole)

end

/-- **A conflict file answers with the values it holds.**  Whatever was asked before, the
    outcome of a question about a plugin is that of the value that is stored for it, or of
    null; so it is the same with any other file that stores the same for this plugin.  Of
    the numbers in the file only those of this value must be whole. -/
theorem transparent_ofFile {store : Store} {path raw plugin : String} {answers : Members}
    (hread : store.readText path = .ok raw) (hraw : Json.parse raw = .ok (.object answers))
    (hwhole : (stored plugin answers).Whole) :
    Json.parse (stored plugin answers).compact = .ok (stored plugin answers) ∧
    Report.parse plugin (stored plugin answers).compact =
      Report.ofValue plugin (stored plugin answers) ∧
    (∀ asked, Outcome.ofAnswer plugin (Engine.ofFile store path asked (.conflictsOf plugin)) =
      Outcome.ofValue plugin (stored plugin answers)) ∧
    ∀ {other : Store} {path' raw' : String} {answers' : Members},
      other.readText path' = .ok raw' → Json.parse raw' = .ok (.object answers') →
      stored plugin answers' = stored plugin answers → ∀ asked asked',
        Outcome.ofAnswer plugin (Engine.ofFile other path' asked' (.conflictsOf plugin)) =
          Outcome.ofAnswer plugin (Engine.ofFile store path asked (.conflictsOf plugin)) := by
  refine ⟨parse_compact_stored hraw hwhole, ?_, outcome_ofFile hraw hwhole hread, ?_⟩
  · exact Report.parse_eq_ofValue (parse_trim_stored hraw hwhole)
  · intro other path' raw' answers' hread' hraw' hsame asked asked'
    rw [outcome_ofFile hraw hwhole hread, outcome_ofFile hraw' (hsame ▸ hwhole) hread', hsame]

/-- A value with an escaped character and with a number. -/
def storedReply : Json :=
  .object [("B\x01.esp", .object [("crc", .int 7), ("isDirty", .bool true)])]

def fullFile : String :=
  "\x7b\"Z.esp\":[1],\"A.esp\":\x7b\"B\\u0001.esp\":\x7b\"isDirty\":true,\"crc\":7\x7d\x7d\x7d"

def bareFile : String :=
  "\x7b\"A.esp\":\x7b\"B\\u0001.esp\":\x7b\"crc\":7,\"isDirty\":true\x7d\x7d\x7d"

def twoFiles : Store := ⟨[(["full.json"], .text fullFile), (["bare.json"], .text bareFile)]⟩

/-- One of two files has more in it, and the members in another order. -/
theorem transparent_twoFiles :
    Json.parse storedReply.compact = .ok storedReply ∧
    Report.parse "A.esp" storedReply.compact = Report.ofValue "A.esp" storedReply ∧
    Outcome.ofAnswer "A.esp" (Engine.ofFile twoFiles "full.json" [] (.conflictsOf "A.esp")) =
      Outcome.ofValue "A.esp" storedReply ∧
    Outcome.ofAnswer "A.esp" (Engine.ofFile twoFiles "bare.json" [] (.conflictsOf "A.esp")) =
      Outcome.ofAnswer "A.esp" (Engine.ofFile twoFiles "full.json" [] (.conflictsOf "A.esp")) := by
  have hfull : twoFiles.readText "full.json" = .ok fullFile := by decide +kernel
  have hbare : twoFiles.readText "bare.json" = .ok bareFile := by decide +kernel
  have hparse : Json.parse fullFile =
      .ok (.object [("A.esp", storedReply), ("Z.esp", .list [.int 1])]) := by decide +kernel
  have hparse' : Json.parse bareFile = .ok (.object [("A.esp", storedReply)]) := by decide +kernel
  have hstored : stored "A.esp" [("A.esp", storedReply), ("Z.esp", .list [.int 1])] =
      storedReply := rfl
  have hwhole : storedReply.Whole := by
    refine whole_of_members (List.forall_mem_singleton.mpr (whole_of_members ?_))
    refine List.forall_mem_cons.mpr ⟨whole_leaf rfl rfl, List.forall_mem_singleton.mpr ?_⟩
    exact whole_leaf rfl rfl
  rw [← hstored] at hwhole
  obtain ⟨hback, hreport, houtcome, hother⟩ := transparent_ofFile hfull hparse hwhole
  exact ⟨hback, hreport, houtcome [], hother hbare hparse' rfl [] []⟩

end LoadOrder
