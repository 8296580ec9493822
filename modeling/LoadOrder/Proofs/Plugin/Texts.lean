/-
  LoadOrder/Proofs/Plugin/Texts.lean
  ==================================
  **The texts of a plugin say what its fields say.**

  That a text is computed from its field would be worth little if it did not say
  which value it stands for.  It does: a checksum is eight digits that read back as
  it (`ofHex?_upperHex`), a priority is written in decimal digits with its sign
  (`priorityText_eq_repr`), and only zero has the empty text.

  That the decimal digits of an integer read back (`Int.toInt?_repr`) comes with Mathlib
  as a whole and with no part of it, so it is imported whole here.
-/
import LoadOrder.Proofs.Plugin.Reported
import LoadOrder.Text.Quoted
import Mathlib

namespace LoadOrder

/-! ### Checksums -/

/-- Whether a character is an upper-case hexadecimal digit. -/
def isUpperHexDigit (c : Char) : Bool := c.isDigit || (decide ('A' ≤ c) && decide (c ≤ 'F'))

/-- The number that hexadecimal digits stand for, the first digit the weightiest. -/
def ofHex? (digits : List Char) : Option Nat :=
  digits.foldlM (fun n c => (Text.hexDigit? c).map fun d => 16 * n + d) 0

theorem isUpperHexDigit_upperHexDigit : ∀ n < 16, isUpperHexDigit (upperHexDigit n) = true := by
  decide

theorem hexDigit?_upperHexDigit : ∀ n < 16, Text.hexDigit? (upperHexDigit n) = some n := by
  decide

theorem length_upperHex (width n : Nat) : (upperHex width n).length = width := by
  induction width generalizing n with
  | zero => rfl
  | succ width ih => rw [upperHex, List.length_append, ih, List.length_singleton]

theorem isUpperHexDigit_of_mem_upperHex {width n : Nat} {c : Char} (h : c ∈ upperHex width n) :
    isUpperHexDigit c = true := by
  induction width generalizing n with
  | zero => cases h
  | succ width ih =>
    rcases List.mem_append.mp h with hc | hc
    · exact ih hc
    · rw [List.mem_singleton.mp hc]
      exact isUpperHexDigit_upperHexDigit _ (Nat.mod_lt n (by decide))

/-- **Digits read back as the number,** as far as there are digits. -/
theorem ofHex?_upperHex (width n : Nat) : ofHex? (upperHex width n) = some (n % 16 ^ width) := by
  induction width generalizing n with
  | zero =>
    rw [pow_zero, Nat.mod_one]
    rfl
  | succ width ih =>
    have hfront : (upperHex width (n / 16)).foldlM
        (fun n c => (Text.hexDigit? c).map fun d => 16 * n + d) 0 = some (n / 16 % 16 ^ width) :=
      ih (n / 16)
    have hlast : Text.hexDigit? (upperHexDigit (n % 16)) = some (n % 16) :=
      hexDigit?_upperHexDigit _ (Nat.mod_lt n (by decide))
    rw [ofHex?, upperHex, List.foldlM_append, hfront, Option.bind_eq_bind, Option.bind_some,
      List.foldlM_cons, hlast, Option.map_some, pow_succ', Nat.mod_mul, Nat.add_comm (n % 16)]
    rfl

theorem toList_crcText {crc : UInt32} (h : crc ≠ 0) :
    (crcText crc).toList = upperHex 8 crc.toNat := by
  rw [crcText, if_neg h, String.toList_ofList]

theorem crcText_eq_empty_iff (crc : UInt32) : crcText crc = "" ↔ crc = 0 := by
  constructor
  · intro hempty
    by_contra h
    have hlength := length_upperHex 8 crc.toNat
    rw [← toList_crcText h, hempty] at hlength
    cases hlength
  · intro h
    rw [crcText, if_pos h]

theorem ofHex?_crcText {crc : UInt32} (h : crc ≠ 0) :
    ofHex? (crcText crc).toList = some crc.toNat := by
  have hlt : crc.toNat < 16 ^ 8 := crc.toNat_lt
  rw [toList_crcText h, ofHex?_upperHex, Nat.mod_eq_of_lt hlt]

/-! ### Priorities -/

theorem ofList_intChars (n : Int) : String.ofList (Json.intChars n) = n.repr := by
  cases n with
  | ofNat n => rfl
  | negSucc n =>
    rw [Json.intChars, if_pos (Int.negSucc_lt_zero n), ← List.singleton_append,
      String.ofList_append]
    rfl

theorem priorityText_eq_repr {priority : Int} (h : priority ≠ 0) :
    priorityText priority = priority.repr := by
  rw [priorityText, if_neg h, ofList_intChars]

theorem intChars_ne_nil (n : Int) : Json.intChars n ≠ [] := by
  rw [Json.intChars]
  split
  · exact List.cons_ne_nil _ _
  · exact Nat.toDigits_ne_nil

theorem priorityText_eq_empty_iff (priority : Int) : priorityText priority = "" ↔ priority = 0 := by
  constructor
  · intro hempty
    by_contra h
    rw [priorityText, if_neg h, String.ofList_eq_empty_iff] at hempty
    exact intChars_ne_nil priority hempty
  · intro h
    rw [priorityText, if_pos h]

/-! ### Plugins -/

namespace Plugin

/-- The texts of a plugin say what its fields say. -/
structure Telling (p : Plugin) : Prop where
  /-- The identifier is the name without its blanks. -/
  id : p.id.toList = p.name.toList.filter fun c => !Text.isBlank c
  crcEmpty : p.crcText = "" ↔ p.crc = 0
  /-- A checksum that is known is shown with eight digits, which read back as it. -/
  crcDigits : p.crc ≠ 0 → p.crcText.toList.length = 8 ∧
    (∀ c ∈ p.crcText.toList, isUpperHexDigit c = true) ∧
    ofHex? p.crcText.toList = some p.crc.toNat
  priorityEmpty : p.priorityText = "" ↔ p.priority = 0
  /-- A priority is shown in decimal digits, which read back as it, with its sign. -/
  priorityReads : p.priority ≠ 0 →
    p.priorityText = p.priority.repr ∧ p.priorityText.toInt? = some p.priority
  tags : p.tagTexts = LoadOrder.tagTexts p.tags

theorem Derived.telling {p : Plugin} (h : p.Derived) : p.Telling where
  id := by rw [h.id, pluginId, Text.squeeze, String.toList_ofList]
  crcEmpty := by rw [h.crcText, crcText_eq_empty_iff]
  crcDigits := by
    intro hcrc
    rw [h.crcText]
    refine ⟨?_, ?_, ofHex?_crcText hcrc⟩
    · rw [toList_crcText hcrc, length_upperHex]
    · rw [toList_crcText hcrc]
      exact fun c hc => isUpperHexDigit_of_mem_upperHex hc
  priorityEmpty := by rw [h.priorityText, priorityText_eq_empty_iff]
  priorityReads := by
    intro hpriority
    rw [h.priorityText, priorityText_eq_repr hpriority]
    exact ⟨rfl, Int.toInt?_repr p.priority⟩
  tags := h.tagTexts

end Plugin

end LoadOrder
