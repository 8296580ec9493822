/-
  LoadOrder/Proofs/Terminal/Editing.lean
  ======================================
  **What becomes of a line that is edited.**

  While a line is edited, characters are written at its end and Backspace takes the last
  one away (`Key.typed`); no other key means anything, but for Enter and Esc, which end
  the line.  A key that means nothing leaves the line as it is, with one exception: at a
  character that is pressed together with Control or Alt (`Key.isChord`) the keyboard goes
  back to the normal mode.

  So a line is edited as it should be exactly as long as no such key is pressed, and the
  first one loses the line without a word (`Desk.edited_pressAll`).
-/
import LoadOrder.Terminal.Clipboard

namespace LoadOrder.Terminal

/-! ### Keys -/

namespace Key

/-- A character that is pressed together with Control or Alt. -/
def isChord (k : Key) : Bool :=
  match k.code with
  | .char _ => k.control || k.alt
  | _ => false

/-- The keys that end a line: Enter applies it, Esc gives it up. -/
def endsLine (k : Key) : Bool := k.code == .enter || k.code == .esc

/-- The line that a key is to make of a line. -/
def typed (line : String) (k : Key) : String :=
  match k.code with
  | .char c => if k.isChord then line else line.push c
  | .backspace => String.ofList line.toList.dropLast
  | _ => line

end Key

/-! ### A line -/

namespace Desk

/-- A key press and what the clipboard would answer at that time. -/
abbrev Press := Key × Clipboard

/-- A desk after several key presses. -/
def pressAll (d : Desk) (presses : List Press) : Desk :=
  presses.foldl (fun d press => d.pressWith press.2 press.1) d

/-- The line that several key presses are to make of a line. -/
def typedAll (line : String) (presses : List Press) : String :=
  presses.foldl (fun line press => press.1.typed line) line

variable (d : Desk) (prompt line : String) (purpose : Purpose)

theorem pressAll_append (presses more : List Press) :
    d.pressAll (presses ++ more) = (d.pressAll presses).pressAll more := List.foldl_append

theorem enter_enter (mode mode' : Mode) : (d.enter mode).enter mode' = d.enter mode' := rfl

theorem pressWith_eq_editKey (clipboard : Clipboard) (k : Key) :
    (d.enter (.editing prompt line purpose)).pressWith clipboard k =
      (d.enter (.editing prompt line purpose)).editKey k prompt line purpose := rfl

/-- **A key that is no chord does to a line what it should,** and nothing else. -/
theorem pressWith_editing {k : Key} (hend : k.endsLine = false) (hchord : k.isChord = false)
    (clipboard : Clipboard) :
    (d.enter (.editing prompt line purpose)).pressWith clipboard k =
      d.enter (.editing prompt (k.typed line) purpose) := by
  obtain ⟨code, control, alt, shift⟩ := k
  cases code with
  | esc => cases hend
  | enter => cases hend
  | char c =>
    obtain ⟨rfl, rfl⟩ : control = false ∧ alt = false := Bool.or_eq_false_iff.mp hchord
    rfl
  | _ => rfl

/-- **A chord loses the line.** -/
theorem pressWith_chord {k : Key} (hchord : k.isChord = true) (clipboard : Clipboard) :
    (d.enter (.editing prompt line purpose)).pressWith clipboard k = d.enter .normal := by
  obtain ⟨code, control, alt, shift⟩ := k
  cases code with
  | char c =>
    have hheld : control = true ∨ alt = true := Bool.or_eq_true_iff.mp hchord
    rw [pressWith_eq_editKey]
    simp only [editKey, if_pos hheld, enter_enter]
  | _ => cases hchord

theorem pressAll_editing {presses : List Press} (hend : ∀ press ∈ presses, press.1.endsLine = false)
    (hchord : ∀ press ∈ presses, press.1.isChord = false) :
    (d.enter (.editing prompt line purpose)).pressAll presses =
      d.enter (.editing prompt (typedAll line presses) purpose) := by
  induction presses generalizing line with
  | nil => rfl
  | cons press rest ih =>
    have hpress := pressWith_editing d prompt line purpose (hend press List.mem_cons_self)
      (hchord press List.mem_cons_self) press.2
    rw [pressAll, List.foldl_cons, hpress]
    exact ih (press.1.typed line) (fun p hp => hend p (List.mem_cons_of_mem _ hp))
      (fun p hp => hchord p (List.mem_cons_of_mem _ hp))

theorem pressAll_chord {before after : List Press} {press : Press}
    (hend : ∀ p ∈ before, p.1.endsLine = false) (hbefore : ∀ p ∈ before, p.1.isChord = false)
    (hchord : press.1.isChord = true) :
    (d.enter (.editing prompt line purpose)).pressAll (before ++ press :: after) =
      (d.enter .normal).pressAll after := by
  rw [pressAll_append, pressAll_editing d prompt line purpose hend hbefore, pressAll,
    List.foldl_cons, pressWith_chord d prompt _ purpose hchord]
  rfl

theorem exists_first_chord {presses : List Press}
    (h : ∃ press ∈ presses, press.1.isChord = true) :
    ∃ before first after, presses = before ++ first :: after ∧
      (∀ p ∈ before, p.1.isChord = false) ∧ first.1.isChord = true := by
  obtain ⟨first, hfirst⟩ := Option.isSome_iff_exists.mp (List.find?_isSome.mpr h)
  obtain ⟨hchord, before, after, hsplit, hbefore⟩ := List.find?_eq_some_iff_append.mp hfirst
  exact ⟨before, first, after, hsplit, fun p hp => (Bool.not_eq_true' _).mp (hbefore p hp), hchord⟩

/-- **A line is edited as it should be until a chord is pressed.**  Let a line be edited
    for whatever purpose, and keys be pressed that do not end it.  After every one of them
    the line is what the keys so far were to make of it, in the same mode and with nothing
    else changed, if and only if none of the keys is a chord.  The first chord leaves the
    session alone but goes back to the normal mode, so that the line is lost and the keys
    behind it are pressed there. -/
theorem edited_pressAll (presses : List Press)
    (hend : ∀ press ∈ presses, press.1.endsLine = false) :
    let start := d.enter (.editing prompt line purpose)
    ((∀ sofar, sofar <+: presses →
        start.pressAll sofar = d.enter (.editing prompt (typedAll line sofar) purpose)) ↔
      ∀ press ∈ presses, press.1.isChord = false) ∧
    ∀ before press after, presses = before ++ press :: after →
      (∀ p ∈ before, p.1.isChord = false) → press.1.isChord = true →
        start.pressAll (before ++ [press]) = d.enter .normal ∧
        start.pressAll presses = (d.enter .normal).pressAll after := by
  intro start
  have hlost : ∀ before press after, presses = before ++ press :: after →
      (∀ p ∈ before, p.1.isChord = false) → press.1.isChord = true →
      ∀ rest, start.pressAll (before ++ press :: rest) = (d.enter .normal).pressAll rest := by
    intro before press after hsplit hbefore hchord rest
    refine pressAll_chord d prompt line purpose (fun p hp => hend p ?_) hbefore hchord
    rw [hsplit]
    exact List.mem_append_left _ hp
  refine ⟨⟨fun hedited press hpress => ?_, fun hchord sofar hsofar => ?_⟩, ?_⟩
  · -- behind the first chord the mode is another one
    rw [Bool.eq_false_iff]
    intro hchord
    obtain ⟨before, first, after, hsplit, hbefore, hfirst⟩ :=
      exists_first_chord ⟨press, hpress, hchord⟩
    have hfront : before ++ [first] <+: presses := ⟨after, by simp [hsplit]⟩
    have hnormal := (hlost before first after hsplit hbefore hfirst []).symm.trans
      (hedited _ hfront)
    cases congrArg (fun e : Desk => e.keyboard.mode) hnormal
  · exact pressAll_editing d prompt line purpose (fun p hp => hend p (hsofar.mem hp))
      fun p hp => hchord p (hsofar.mem hp)
  · rintro before press after rfl hbefore hchord
    exact ⟨hlost before press after rfl hbefore hchord [],
      hlost before press after rfl hbefore hchord after⟩

/-- Letters, a key without a meaning and Backspace, and then Control and a letter. -/
theorem edited_pressAll_pasting :
    let d : Desk := { session := Session.new {} defaultPhrase }
    let quiet : Clipboard := fun _ => .taken
    let plain : List Press :=
      [({ code := .char 'ß' }, quiet), ({ code := .home, control := true }, quiet),
       ({ code := .char 'X', shift := true }, quiet), ({ code := .backspace }, quiet)]
    let paste : Press := ({ code := .char 'v', control := true }, quiet)
    let start := d.enter (.editing "Search" "gro" .search)
    (∀ press ∈ plain ++ [paste], press.1.endsLine = false) ∧
      (∀ press ∈ plain, press.1.isChord = false) ∧ paste.1.isChord = true ∧
      start.pressAll plain = d.enter (.editing "Search" "groß" .search) ∧
      start.pressAll (plain ++ [paste]) = d.enter .normal := by
  intro d quiet plain paste start
  have hend : ∀ press ∈ plain ++ [paste], press.1.endsLine = false := by
    simp [plain, paste, Key.endsLine]
  have hplain : ∀ press ∈ plain, press.1.isChord = false := by simp [plain, Key.isChord]
  have hendPlain : ∀ press ∈ plain, press.1.endsLine = false :=
    fun press hpress => hend press (List.mem_append_left _ hpress)
  obtain ⟨hedited, -⟩ := edited_pressAll d "Search" "gro" .search plain hendPlain
  obtain ⟨-, hlost⟩ := edited_pressAll d "Search" "gro" .search (plain ++ [paste]) hend
  have hline : typedAll "gro" plain = "groß" := by decide
  exact ⟨hend, hplain, rfl, hline ▸ hedited.mpr hplain plain List.prefix_rfl,
    (hlost plain paste [] rfl hplain rfl).1⟩

/-- **A line can be lost.**  Control and a letter are pressed, as to paste, and the line
    that was typed is gone. -/
theorem not_edited_chord :
    let d : Desk := { session := Session.new {} defaultPhrase }
    let paste : Key := { code := .char 'v', control := true }
    let start := d.enter (.editing "Search" "gro" .search)
    paste.endsLine = false ∧ paste.typed "gro" = "gro" ∧
      (start.pressWith (fun _ => .taken) paste).keyboard.mode = .normal ∧
      start.pressWith (fun _ => .taken) paste ≠ d.enter (.editing "Search" "gro" .search) := by
  intro d paste start
  refine ⟨rfl, rfl, rfl, fun hsame => ?_⟩
  cases congrArg (fun e : Desk => e.keyboard.mode) hsame

end Desk

end LoadOrder.Terminal
