/-
  LoadOrder/Proofs/Json/Printed.lean
  ==================================
  **What is printed reads back.**

  Both printers put the same marks between the same leaves, and only differ in the
  blanks: that is what `Layout` says of a printer.  A reader gets a value from a text
  if it takes exactly that text, whatever blanks come before it and whatever follows,
  unless a number could go on with it (`Reads`).  There is one lemma for each kind of
  leaf and one each for lists and objects; the theorem about values (`Layout.reads_value`)
  is by induction on the depth.

  Doubles are left out: a whole number of 64 bits is printed with all its digits, a
  double with as few as will do.  Only the negative zero is among them, because it is
  what a text means by `-0`.
-/
import LoadOrder.Json.Printer
import LoadOrder.Proofs.Json.Path
import LoadOrder.Proofs.Json.Reading
import Mathlib.Data.Nat.Digits.Defs

namespace LoadOrder.Json

open Numeric

/-! ### Values without doubles -/

/-- The double that a text gives for a whole number: `-0` has no other form. -/
def negativeZero : Binary64 := ofWhole true 0

/-- What a leaf must be to read back: no double but the negative zero, and no whole number
    that is too great. -/
def PlainLeaf : Json → Prop
  | .int n => -Cursor.maxNegative ≤ n ∧ n ≤ Cursor.maxWhole
  | .real x => x = negativeZero
  | _ => True

/-- Values with at most so many lists and objects inside each other, and with whole numbers
    of 64 bits only. -/
def Plain : Nat → Json → Prop
  | 0, .list _ => False
  | 0, .object _ => False
  | depth + 1, .list items => ∀ v ∈ items, Plain depth v
  | depth + 1, .object members => ∀ m ∈ members, Plain depth m.2
  | _, leaf => PlainLeaf leaf

theorem Plain.leaf {depth : Nat} {v : Json} (h : v.Plain depth) (hleaf : v.isLeaf = true) :
    v.PlainLeaf := by
  cases depth <;> cases v <;> first | exact h | cases hleaf

theorem plain_of_leaf {depth : Nat} {v : Json} (hleaf : v.isLeaf = true) (h : v.PlainLeaf) :
    v.Plain depth := by
  cases depth <;> cases v <;> first | exact h | cases hleaf

/-! ### What may follow -/

/-- Whether a number can go on with a character. -/
def continuesNumber (ch : Char) : Bool := ch.isDigit || ch == '.' || ch == 'e' || ch == 'E'

/-- No number can go on with this text. -/
def Follows (rest : List Char) : Prop := ∀ ch ∈ rest.head?, continuesNumber ch = false

/-- A run of blanks. -/
def Blanks (bs : List Char) : Prop := ∀ ch ∈ bs, isJsonBlank ch = true

section

variable {bs rest : List Char} {ch : Char}

theorem follows_nil : Follows [] := nofun

theorem follows_cons (h : continuesNumber ch = false) : Follows (ch :: rest) := by
  rintro _ ⟨⟩
  exact h

theorem continuesNumber_of_blank (h : isJsonBlank ch = true) : continuesNumber ch = false := by
  simp only [isJsonBlank, Bool.or_eq_true, beq_iff_eq] at h
  rcases h with ((rfl | rfl) | rfl) | rfl <;> rfl

theorem Follows.blanks (hbs : Blanks bs) (hrest : Follows rest) : Follows (bs ++ rest) := by
  cases bs with
  | nil => exact hrest
  | cons b bs => exact follows_cons (continuesNumber_of_blank (hbs b List.mem_cons_self))

theorem blanks_nil : Blanks [] := nofun

end

namespace Cursor

/-- A reader gets a value from a text and stops behind it. -/
def Reads {α : Type} (read : Cursor → Read α) (text : List Char) (v : α) : Prop :=
  ∀ bs rest p, Blanks bs → Follows rest → ∃ q, read ⟨bs ++ text ++ rest, p⟩ = .done v ⟨rest, q⟩

variable {bs rest : List Char} {ch : Char} {p : Position}

theorem skipBlanks_of_blanks {c : Char} (hbs : Blanks bs) (hc : isJsonBlank c = false)
    (rest : List Char) (p : Position) :
    ∃ q, skipBlanks ⟨bs ++ c :: rest, p⟩ = ⟨c :: rest, q⟩ := by
  induction bs generalizing p with
  | nil => exact ⟨p, by rw [List.nil_append, skipBlanks, blanksFrom, hc]; rfl⟩
  | cons b bs ih =>
    obtain ⟨q, hq⟩ := ih (fun x hx => hbs x (List.mem_cons_of_mem b hx)) (p.after b)
    refine ⟨q, ?_⟩
    rw [List.cons_append, skipBlanks, blanksFrom, if_pos (hbs b List.mem_cons_self)]
    exact hq

theorem ending_of_blanks (hbs : Blanks bs) (p : Position) : ending ⟨bs, p⟩ = .ok () := by
  have hrest (p : Position) : (skipBlanks ⟨bs, p⟩).rest = [] := by
    induction bs generalizing p with
    | nil => rfl
    | cons b bs ih =>
      rw [skipBlanks, blanksFrom, if_pos (hbs b List.mem_cons_self)]
      exact ih (fun x hx => hbs x (List.mem_cons_of_mem b hx)) (p.after b)
  rw [ending, hrest]

theorem skipBlanks_of_not_blank (hch : isJsonBlank ch = false) :
    skipBlanks ⟨ch :: rest, p⟩ = ⟨ch :: rest, p⟩ := by
  rw [skipBlanks, blanksFrom, hch]
  rfl

/-! ### Digits -/

theorem digitsOf_of_lt {n : Nat} (h : n < 10) : digitsOf n = [Nat.digitChar n] :=
  Nat.toDigits_of_lt_base h

theorem digitsOf_of_le {n : Nat} (h : 10 ≤ n) :
    digitsOf n = digitsOf (n / 10) ++ [Nat.digitChar (n % 10)] :=
  Nat.toDigits_of_base_le (by decide) h

theorem ne_of_isDigit {x : Char} (hch : ch.isDigit = true) (hx : x.isDigit = false) : ch ≠ x := by
  rintro rfl
  rw [hch] at hx
  cases hx

theorem isJsonBlank_of_isDigit (hch : ch.isDigit = true) : isJsonBlank ch = false := by
  simp only [isJsonBlank, Bool.or_eq_false_iff, beq_eq_false_iff_ne]
  exact ⟨⟨⟨ne_of_isDigit hch rfl, ne_of_isDigit hch rfl⟩, ne_of_isDigit hch rfl⟩,
    ne_of_isDigit hch rfl⟩

/-- The first digit, which is a zero for the number zero only. -/
theorem exists_cons_digitsOf (n : Nat) :
    ∃ ch rest, digitsOf n = ch :: rest ∧ ch.isDigit = true ∧ (ch = '0' → n = 0) := by
  induction n using Nat.strongRecOn with
  | ind n ih =>
    by_cases hlt : n < 10
    · have hzero : ∀ n < 10, Nat.digitChar n = '0' → n = 0 := by decide
      exact ⟨_, [], digitsOf_of_lt hlt, by simpa using hlt, hzero n hlt⟩
    · obtain ⟨ch, rest, heq, hdigit, hzero⟩ := ih (n / 10) (by omega)
      refine ⟨ch, rest ++ [Nat.digitChar (n % 10)], ?_, hdigit, fun h => ?_⟩
      · rw [digitsOf_of_le (by omega), heq, List.cons_append]
      · have := hzero h
        omega

theorem digit?_digitChar {d : Nat} (h : d < 10) : digit? (Nat.digitChar d) = some d := by
  have hall : ∀ d < 10, digit? (Nat.digitChar d) = some d := by decide
  exact hall d h

/-- The digits of a number are taken one by one, and behind them it goes on. -/
theorem takeDigits_digitsOf {limit n : Nat} (h : n ≤ limit) (rest : List Char) (p : Position)
    (taken : Nat) : ∃ q k,
      takeDigits limit (digitsOf n ++ rest) p 0 taken = takeDigits limit rest q n k := by
  induction n using Nat.strongRecOn generalizing rest p taken with
  | ind n ih =>
    have hlast {d m : Nat} (hd : d < 10) (hm : m * 10 + d ≤ limit) (p : Position) (k : Nat) :
        takeDigits limit (Nat.digitChar d :: rest) p m k =
          takeDigits limit rest (p.after (Nat.digitChar d)) (m * 10 + d) (k + 1) := by
      rw [takeDigits, digit?_digitChar hd]
      exact if_pos hm
    by_cases hlt : n < 10
    · refine ⟨p.after (Nat.digitChar n), taken + 1, ?_⟩
      rw [digitsOf_of_lt hlt, List.singleton_append, hlast hlt (by omega), Nat.zero_mul,
        Nat.zero_add]
    · obtain ⟨q, k, hq⟩ :=
        ih (n / 10) (by omega) (by omega) (Nat.digitChar (n % 10) :: rest) p taken
      refine ⟨q.after (Nat.digitChar (n % 10)), k + 1, ?_⟩
      rw [digitsOf_of_le (by omega), List.append_assoc, List.singleton_append, hq,
        hlast (Nat.mod_lt n (by decide)) (by omega), Nat.div_add_mod']

section

variable (hrest : Follows rest)
include hrest

theorem digit?_of_follows (hch : ch ∈ rest.head?) : digit? ch = none := by
  have hnot := hrest ch hch
  simp only [continuesNumber, Bool.or_eq_false_iff] at hnot
  rw [digit?, hnot.1.1.1]
  rfl

theorem takeDigits_of_follows (limit : Nat) (p : Position) (value taken : Nat) :
    takeDigits limit rest p value taken = (value, taken, ⟨rest, p⟩) := by
  cases rest with
  | nil => rfl
  | cons ch rest => rw [takeDigits, digit?_of_follows hrest rfl]

theorem skipDigits_of_follows (p : Position) (n : Nat) :
    skipDigits rest p n = (n, ⟨rest, p⟩) := by
  cases rest with
  | nil => rfl
  | cons ch rest =>
    have hnot := hrest ch rfl
    simp only [continuesNumber, Bool.or_eq_false_iff] at hnot
    rw [skipDigits, hnot.1.1.1]
    rfl

theorem atDigit_of_follows (p : Position) : atDigit ⟨rest, p⟩ = false := by
  cases rest with
  | nil => rfl
  | cons ch rest =>
    have hnot := hrest ch rfl
    simp only [continuesNumber, Bool.or_eq_false_iff] at hnot
    exact hnot.1.1.1

theorem atExponent_of_follows (p : Position) : atExponent ⟨rest, p⟩ = false := by
  cases rest with
  | nil => rfl
  | cons ch rest =>
    have hnot := hrest ch rfl
    simp only [continuesNumber, Bool.or_eq_false_iff] at hnot
    exact Bool.or_eq_false_iff.mpr ⟨hnot.1.2, hnot.2⟩

theorem ne_point_of_follows (tail : List Char) : rest ≠ '.' :: tail := by
  rintro rfl
  exact absurd (hrest '.' rfl) (by decide)

/-- **The digits of a number read back,** behind its sign. -/
theorem number_digitsOf (negative : Bool) {n : Nat} (h : n ≤ maxWhole) (p : Position) :
    ∃ q, number negative ⟨digitsOf n ++ rest, p⟩ = .done (whole negative n) ⟨rest, q⟩ := by
  obtain ⟨q, k, hq⟩ := takeDigits_digitsOf h rest p 0
  obtain ⟨ch, digits, hcons, hdigit, hzero⟩ := exists_cons_digitsOf n
  have hleading : ¬(ch = '0' ∧ (step ⟨ch :: (digits ++ rest), p⟩).atDigit = true) := by
    rintro ⟨rfl, hat⟩
    obtain rfl := hzero rfl
    obtain ⟨-, rfl⟩ := List.cons.inj hcons
    rw [step, List.nil_append, atDigit_of_follows hrest] at hat
    cases hat
  rw [hcons, List.cons_append, takeDigits_of_follows hrest] at hq
  refine ⟨q, ?_⟩
  rw [hcons, List.cons_append, number]
  simp only [hdigit, Bool.true_eq_false, if_false, if_neg hleading, hq,
    skipDigits_of_follows hrest, atDigit_of_follows hrest, atExponent_of_follows hrest,
    Bool.false_eq_true]
  split
  · exact absurd rfl (ne_point_of_follows hrest _)
  · rfl

end

/-! ### Texts -/

theorem hexFour?_of_lt {n : Nat} (h : n < 0x20) :
    hexFour? ['0', '0', hexDigitOf (n / 16), hexDigitOf (n % 16)] = some n ∧
      Text.byteCount ['0', '0', hexDigitOf (n / 16), hexDigitOf (n % 16)] = 4 := by
  have hall : ∀ n < 0x20,
      hexFour? ['0', '0', hexDigitOf (n / 16), hexDigitOf (n % 16)] = some n ∧
        Text.byteCount ['0', '0', hexDigitOf (n / 16), hexDigitOf (n % 16)] = 4 := by decide
  exact hall n h

/-- A control character reads back from its code. -/
theorem codedChar_of_lt (h : ch.toNat < 0x20) (rest : List Char) (p : Position) : ∃ q,
    codedChar ⟨'0' :: '0' :: hexDigitOf (ch.toNat / 16) :: hexDigitOf (ch.toNat % 16) :: rest, p⟩ =
      .done ch ⟨rest, q⟩ := by
  obtain ⟨hfour, hbytes⟩ := hexFour?_of_lt h
  have hlow : ¬(0xDC00 ≤ ch.toNat ∧ ch.toNat ≤ 0xDFFF) := by omega
  have hhigh : ¬(0xD800 ≤ ch.toNat ∧ ch.toNat ≤ 0xDBFF) := by omega
  refine ⟨Position.afterBytes 4
    ('0' :: '0' :: hexDigitOf (ch.toNat / 16) :: hexDigitOf (ch.toNat % 16) :: rest) p, ?_⟩
  simp only [codedChar, codeUnit, List.take_succ_cons, List.take_zero, hbytes, hfour,
    Nat.lt_irrefl, if_false, Read.andThen, if_neg hlow, if_neg hhigh, Char.ofNat_toNat,
    List.drop_succ_cons, List.drop_zero]

theorem textRounds_shortEscape {kind plain : Char} (h : shortEscape? kind = some plain)
    (mark : Char) (rounds seen rest : List Char) (p : Position) : ∃ q,
      textRounds (mark :: rounds) seen ⟨'\\' :: kind :: rest, p⟩ =
        textRounds rounds (plain :: seen) ⟨rest, q⟩ := by
  have hescaped : escaped ⟨kind :: rest, p.after '\\'⟩ =
      .done plain ⟨rest, (p.after '\\').after kind⟩ := by
    simp only [escaped, h, step]
  refine ⟨(p.after '\\').after kind, ?_⟩
  simp only [textRounds, step, hescaped]
  rfl

/-- One round reads one character, however it is written. -/
theorem textRounds_escapedChar (ch mark : Char) (rounds seen rest : List Char) (p : Position) :
    ∃ q, textRounds (mark :: rounds) seen ⟨escapedChar ch ++ rest, p⟩ =
      textRounds rounds (ch :: seen) ⟨rest, q⟩ := by
  unfold escapedChar
  split_ifs with hquote hbackslash hb hf hn hr ht hcontrol
  · exact textRounds_shortEscape (by rw [hquote]; rfl) mark rounds seen rest p
  · exact textRounds_shortEscape (by rw [hbackslash]; rfl) mark rounds seen rest p
  · exact textRounds_shortEscape (by rw [hb]; rfl) mark rounds seen rest p
  · exact textRounds_shortEscape (by rw [hf]; rfl) mark rounds seen rest p
  · exact textRounds_shortEscape (by rw [hn]; rfl) mark rounds seen rest p
  · exact textRounds_shortEscape (by rw [hr]; rfl) mark rounds seen rest p
  · exact textRounds_shortEscape (by rw [ht]; rfl) mark rounds seen rest p
  · obtain ⟨q, hq⟩ := codedChar_of_lt hcontrol rest ((p.after '\\').after 'u')
    have hescaped : escaped ⟨'u' :: '0' :: '0' :: hexDigitOf (ch.toNat / 16) ::
        hexDigitOf (ch.toNat % 16) :: rest, p.after '\\'⟩ = .done ch ⟨rest, q⟩ := hq
    refine ⟨q, ?_⟩
    simp only [List.cons_append, List.nil_append, textRounds, step, hescaped]
    rfl
  · refine ⟨p.after ch, ?_⟩
    rw [List.singleton_append, textRounds]
    simp only [if_neg hquote, if_neg hbackslash, if_neg hcontrol, step]

theorem length_le_escaped (cs : List Char) : cs.length ≤ (cs.flatMap escapedChar).length := by
  have hone (ch : Char) : 1 ≤ (escapedChar ch).length := by
    unfold escapedChar
    split_ifs <;> exact Nat.le_add_left 1 _
  induction cs with
  | nil => exact Nat.le_refl 0
  | cons ch cs ih =>
    rw [List.flatMap_cons, List.length_append, List.length_cons]
    have := hone ch
    omega

theorem textRounds_escaped (cs rest : List Char) (rounds seen : List Char) (p : Position)
    (hrounds : cs.length < rounds.length) : ∃ q,
      textRounds rounds seen ⟨cs.flatMap escapedChar ++ '"' :: rest, p⟩ =
        .done (String.ofList (seen.reverse ++ cs)) ⟨rest, q⟩ := by
  induction cs generalizing rounds seen p with
  | nil =>
    cases rounds with
    | nil => cases hrounds
    | cons mark rounds => exact ⟨_, by rw [List.append_nil]; rfl⟩
  | cons ch cs ih =>
    cases rounds with
    | nil => cases hrounds
    | cons mark rounds =>
      obtain ⟨q, hq⟩ := textRounds_escapedChar ch mark rounds seen
        (cs.flatMap escapedChar ++ '"' :: rest) p
      obtain ⟨q', hq'⟩ := ih rounds (ch :: seen) q (Nat.lt_of_succ_lt_succ hrounds)
      refine ⟨q', ?_⟩
      rw [List.flatMap_cons, List.append_assoc, hq, hq', List.reverse_cons, List.append_assoc,
        List.singleton_append]

/-- **A text reads back,** behind the quote that opens it. -/
theorem text_escaped (s : String) (rest : List Char) (p : Position) : ∃ q,
    text ⟨s.toList.flatMap escapedChar ++ '"' :: rest, p⟩ = .done s ⟨rest, q⟩ := by
  have hlength := length_le_escaped s.toList
  obtain ⟨q, hq⟩ := textRounds_escaped s.toList rest
    ('"' :: (s.toList.flatMap escapedChar ++ '"' :: rest)) [] p (by
      rw [List.length_cons, List.length_append]
      omega)
  exact ⟨q, by rw [text, hq, List.reverse_nil, List.nil_append, String.ofList_toList]⟩

/-! ### Leaves -/

section

variable (inner : Option (Cursor → Read Json))

theorem valueWith_of_blanks {c : Char} (hbs : Blanks bs) (hc : isJsonBlank c = false)
    (rest : List Char) (p : Position) :
    ∃ q, valueWith inner ⟨bs ++ c :: rest, p⟩ = valueWith inner ⟨c :: rest, q⟩ := by
  obtain ⟨q, hq⟩ := skipBlanks_of_blanks hbs hc rest p
  refine ⟨q, ?_⟩
  unfold valueWith
  rw [hq, skipBlanks_of_not_blank hc]

theorem reads_int {n : Int} (hlow : -maxNegative ≤ n) (hhigh : n ≤ maxWhole) :
    Reads (valueWith inner) (intChars n) (.int n) := by
  intro bs rest p hbs hrest
  rw [List.append_assoc]
  unfold intChars
  split
  · rename_i hneg
    obtain ⟨q, hq⟩ := valueWith_of_blanks inner hbs (c := '-') rfl (digitsOf n.natAbs ++ rest) p
    have hmax : n.natAbs ≤ maxWhole := by simp only [maxNegative, maxWhole] at *; omega
    have hwhole : whole true n.natAbs = .int n := by
      rw [whole, if_neg (by decide), if_pos (by omega)]
      congr 1
      omega
    obtain ⟨q', hq'⟩ := number_digitsOf hrest true hmax (q.after '-')
    rw [hwhole] at hq'
    exact ⟨q', hq.trans hq'⟩
  · rename_i hneg
    obtain ⟨ch, digits, hcons, hdigit, -⟩ := exists_cons_digitsOf n.natAbs
    have hne {x : Char} (hx : x.isDigit = false) : ch ≠ x := ne_of_isDigit hdigit hx
    have hblank : isJsonBlank ch = false := isJsonBlank_of_isDigit hdigit
    rw [hcons, List.cons_append]
    obtain ⟨q, hq⟩ := valueWith_of_blanks inner hbs hblank (digits ++ rest) p
    have hmax : n.natAbs ≤ maxWhole := by omega
    have hwhole : whole false n.natAbs = .int n := by
      rw [whole, if_pos rfl]
      congr 1
      omega
    obtain ⟨q', hq'⟩ := number_digitsOf hrest false hmax q
    rw [hwhole, hcons, List.cons_append] at hq'
    refine ⟨q', hq.trans ?_⟩
    unfold valueWith
    rw [skipBlanks_of_not_blank hblank]
    simp only [if_neg (hne (x := 'n') rfl), if_neg (hne (x := 't') rfl),
      if_neg (hne (x := 'f') rfl), if_neg (hne (x := '-') rfl), if_pos hdigit, hq']

/-- The negative zero is printed as a double, and read as one. -/
theorem reads_negativeZero :
    Reads (valueWith inner) negativeZero.text.toList (.real negativeZero) := by
  intro bs rest p hbs hrest
  have htext : negativeZero.text.toList = ['-', '0', '.', '0'] := rfl
  obtain ⟨q, hq⟩ := valueWith_of_blanks inner hbs (c := '-') rfl ('0' :: '.' :: '0' :: rest) p
  have hfraction (p : Position) : fraction true 0 0 ⟨'.' :: '0' :: rest, p⟩ =
      .done (.real negativeZero) ⟨rest, (p.after '.').after '0'⟩ := by
    have htake : takeDigits maxWhole ('0' :: rest) (p.after '.') 0 0 =
        (0, 1, ⟨rest, (p.after '.').after '0'⟩) := by
      rw [takeDigits]
      exact takeDigits_of_follows hrest maxWhole _ 0 1
    have hreal (c : Cursor) : realAt true 0 (0 - 1) c = .done (.real negativeZero) c := by
      rw [realAt, ofDecimal, shiftDown]
      rfl
    simp only [fraction, step, htake, skipDigits_of_follows hrest, atDigit_of_follows hrest,
      atExponent_of_follows hrest]
    exact hreal _
  refine ⟨(((q.after '-').after '0').after '.').after '0', ?_⟩
  rw [htext, List.append_assoc]
  exact hq.trans (hfraction ((q.after '-').after '0'))

theorem reads_leaf {v : Json} (hleaf : v.isLeaf = true) (hv : v.PlainLeaf) :
    Reads (valueWith inner) (leafChars v) v := by
  match v with
  | .null =>
    intro bs rest p hbs hrest
    obtain ⟨q, hq⟩ := valueWith_of_blanks inner hbs (c := 'n') rfl (['u', 'l', 'l'] ++ rest) p
    exact ⟨_, by rw [List.append_assoc]; exact hq.trans rfl⟩
  | .bool true =>
    intro bs rest p hbs hrest
    obtain ⟨q, hq⟩ := valueWith_of_blanks inner hbs (c := 't') rfl (['r', 'u', 'e'] ++ rest) p
    exact ⟨_, by rw [List.append_assoc]; exact hq.trans rfl⟩
  | .bool false =>
    intro bs rest p hbs hrest
    obtain ⟨q, hq⟩ :=
      valueWith_of_blanks inner hbs (c := 'f') rfl (['a', 'l', 's', 'e'] ++ rest) p
    exact ⟨_, by rw [List.append_assoc]; exact hq.trans rfl⟩
  | .int n => exact reads_int inner hv.1 hv.2
  | .real x =>
    obtain rfl : x = negativeZero := hv
    exact reads_negativeZero inner
  | .text s =>
    intro bs rest p hbs hrest
    obtain ⟨q, hq⟩ := valueWith_of_blanks inner hbs (c := '"') rfl
      (s.toList.flatMap escapedChar ++ '"' :: rest) p
    obtain ⟨q', hq'⟩ := text_escaped s rest (q.after '"')
    have hvalue : valueWith inner ⟨'"' :: (s.toList.flatMap escapedChar ++ '"' :: rest), q⟩ =
        (text ⟨s.toList.flatMap escapedChar ++ '"' :: rest, q.after '"'⟩).map .text := rfl
    rw [hq'] at hvalue
    refine ⟨q', ?_⟩
    rw [leafChars, textChars, List.append_assoc, List.append_assoc]
    exact hq.trans hvalue

end

/-! ### Lists and objects -/

/-- A text that a value, or a key, can begin with inside a list or an object. -/
def Starts (text : List Char) : Prop :=
  ∃ ch rest, text = ch :: rest ∧ isJsonBlank ch = false ∧ ch ≠ ']'

end Cursor

/-- Pieces behind the first one, each behind a comma and `front`, and what closes them. -/
def behind (front back : List Char) (closing : Char) : List (List Char) → List Char
  | [] => back ++ [closing]
  | piece :: more => ',' :: (front ++ (piece ++ behind front back closing more))

/-- Pieces behind an opening bracket, each behind `front`, and what closes them. -/
def inside (front back : List Char) (closing : Char) : List (List Char) → List Char
  | [] => [closing]
  | piece :: more => front ++ (piece ++ behind front back closing more)

/-- A member of an object behind the quote that opens its key. -/
def behindQuote (afterColon : List Char) (print : Json → List Char) (m : String × Json) :
    List Char :=
  m.1.toList.flatMap escapedChar ++ '"' :: ':' :: (afterColon ++ print m.2)

/-- A member of an object. -/
def memberChars (afterColon : List Char) (print : Json → List Char) (m : String × Json) :
    List Char :=
  '"' :: behindQuote afterColon print m

namespace Cursor

variable {bs rest : List Char} {ch : Char} {p : Position}
variable {front back afterColon : List Char} {item : Cursor → Read Json} {print : Json → List Char}

theorem follows_behind (front : List Char) (closing : Char) (hback : Blanks back)
    (hclosing : continuesNumber closing = false) (pieces : List (List Char)) (rest : List Char) :
    Follows (behind front back closing pieces ++ rest) := by
  cases pieces with
  | nil =>
    rw [behind, List.append_assoc]
    exact (follows_cons hclosing).blanks hback
  | cons piece more => exact follows_cons rfl

theorem length_lt_behind (front back : List Char) (closing : Char) (pieces : List (List Char)) :
    pieces.length < (behind front back closing pieces).length := by
  induction pieces with
  | nil => simp [behind]
  | cons piece more ih =>
    simp only [behind, List.length_cons, List.length_append]
    omega

/-- There are as many rounds as characters, and each piece has at least its comma. -/
theorem length_lt_rounds {closing : Char} {pieces : List (List Char)} {n : Nat}
    (h : pieces.length = n) (rest : List Char) :
    n < (',' :: (behind front back closing pieces ++ rest)).length := by
  have := length_lt_behind front back closing pieces
  rw [List.length_cons, List.length_append]
  omega

section

variable (item : Cursor → Read Json) (hfront : Blanks front) (hback : Blanks back)

include hfront in
theorem moreItems_comma (hblank : isJsonBlank ch = false) (hclose : ch ≠ ']') (mark : Char)
    (rounds rest : List Char) (p : Position) : ∃ q,
      moreItems item (mark :: rounds) ⟨',' :: (front ++ ch :: rest), p⟩ =
        (item ⟨ch :: rest, q⟩).andThen fun v c =>
          (moreItems item rounds c).map fun vs => v :: vs := by
  obtain ⟨q, hq⟩ := skipBlanks_of_blanks hfront hblank rest (p.after ',')
  refine ⟨q, ?_⟩
  rw [moreItems]
  simp only [skipBlanks_of_not_blank (show isJsonBlank ',' = false from rfl), step, hq]
  split
  · rename_i heq
    cases heq
  · rename_i heq
    exact absurd (List.cons.inj heq).1 hclose
  · rfl

include hback in
theorem moreItems_close (mark : Char) (rounds rest : List Char) (p : Position) : ∃ q,
    moreItems item (mark :: rounds) ⟨back ++ ']' :: rest, p⟩ = .done [] ⟨rest, q⟩ := by
  obtain ⟨q, hq⟩ := skipBlanks_of_blanks (c := ']') hback rfl rest p
  refine ⟨q.after ']', ?_⟩
  rw [moreItems]
  simp only [hq]
  rfl

include hfront in
theorem items_open (hblank : isJsonBlank ch = false) (hclose : ch ≠ ']') (rest : List Char)
    (p : Position) : ∃ q,
      items item ⟨front ++ ch :: rest, p⟩ =
        (item ⟨ch :: rest, q⟩).andThen fun v c =>
          (moreItems item (',' :: c.rest) c).map fun vs => v :: vs := by
  obtain ⟨q, hq⟩ := skipBlanks_of_blanks hfront hblank rest p
  refine ⟨q, ?_⟩
  rw [items]
  simp only [hq]
  split
  · rename_i heq
    cases heq
  · rename_i heq
    exact absurd (List.cons.inj heq).1 hclose
  · rfl

variable {item}

include hfront hback in
theorem moreItems_of_reads {vs : List Json}
    (hvs : ∀ v ∈ vs, Reads item (print v) v ∧ Starts (print v)) {rounds : List Char}
    (hrounds : vs.length < rounds.length) (rest : List Char) (p : Position) : ∃ q,
      moreItems item rounds ⟨behind front back ']' (vs.map print) ++ rest, p⟩ =
        .done vs ⟨rest, q⟩ := by
  -- each item takes one round, and is followed by a comma or by what closes the list
  induction vs generalizing rounds p with
  | nil =>
    cases rounds with
    | nil => cases hrounds
    | cons mark rounds =>
      rw [List.map_nil, behind, List.append_assoc]
      exact moreItems_close item hback mark rounds rest p
  | cons v vs ih =>
    cases rounds with
    | nil => cases hrounds
    | cons mark rounds =>
      obtain ⟨hv, ch, cs, hcs, hblank, hclose⟩ := hvs v List.mem_cons_self
      have hfollows := follows_behind front ']' hback rfl
        (vs.map print) rest
      obtain ⟨q, hq⟩ := moreItems_comma item hfront hblank hclose mark rounds
        (cs ++ (behind front back ']' (vs.map print) ++ rest)) p
      obtain ⟨q', hq'⟩ := hv [] _ q blanks_nil hfollows
      obtain ⟨q'', hq''⟩ := ih (fun w hw => hvs w (List.mem_cons_of_mem v hw))
        (Nat.lt_of_succ_lt_succ hrounds) q'
      rw [List.nil_append, hcs, List.cons_append] at hq'
      rw [hq', Read.andThen, hq''] at hq
      refine ⟨q'', ?_⟩
      rw [List.map_cons, behind, hcs]
      simp only [List.cons_append, List.append_assoc]
      exact hq

include hfront hback in
/-- **A list reads back,** behind its opening bracket. -/
theorem items_of_reads {vs : List Json} (hvs : ∀ v ∈ vs, Reads item (print v) v ∧ Starts (print v))
    (rest : List Char) (p : Position) : ∃ q,
      items item ⟨inside front back ']' (vs.map print) ++ rest, p⟩ = .done vs ⟨rest, q⟩ := by
  cases vs with
  | nil => exact ⟨p.after ']', rfl⟩
  | cons v vs =>
    obtain ⟨hv, ch, cs, hcs, hblank, hclose⟩ := hvs v List.mem_cons_self
    have hfollows := follows_behind front ']' hback rfl (vs.map print) rest
    obtain ⟨q, hq⟩ := items_open item hfront hblank hclose
      (cs ++ (behind front back ']' (vs.map print) ++ rest)) p
    obtain ⟨q', hq'⟩ := hv [] _ q blanks_nil hfollows
    obtain ⟨q'', hq''⟩ := moreItems_of_reads hfront hback
      (fun w hw => hvs w (List.mem_cons_of_mem v hw))
      (length_lt_rounds (List.length_map print) rest) rest q'
    rw [List.nil_append, hcs, List.cons_append] at hq'
    rw [hq', Read.andThen, hq''] at hq
    refine ⟨q'', ?_⟩
    rw [List.map_cons, inside, hcs]
    simp only [List.cons_append, List.append_assoc]
    exact hq

/-! #### Objects -/

variable (item)

theorem member_of_reads {m : String × Json} (hm : Reads item (print m.2) m.2)
    (hcolon : Blanks afterColon) (hrest : Follows rest) (p : Position) : ∃ q,
      member item ⟨behindQuote afterColon print m ++ rest, p⟩ = .done m ⟨rest, q⟩ := by
  obtain ⟨q, hq⟩ := text_escaped m.1 (':' :: (afterColon ++ print m.2 ++ rest)) p
  obtain ⟨q', hq'⟩ := hm afterColon rest (q.after ':') hcolon hrest
  refine ⟨q', ?_⟩
  simp only [behindQuote, List.cons_append, List.append_assoc] at *
  rw [member, hq, Read.andThen, colon, skipBlanks_of_not_blank rfl]
  simp only [Read.andThen, step, hq', Read.map]

include hfront in
theorem moreMembers_comma (mark : Char) (rounds rest : List Char) (p : Position) : ∃ q,
    moreMembers item (mark :: rounds) ⟨',' :: (front ++ '"' :: rest), p⟩ =
      (member item ⟨rest, q⟩).andThen fun m c =>
        (moreMembers item rounds c).map fun ms => m :: ms := by
  obtain ⟨q, hq⟩ := skipBlanks_of_blanks (c := '"') hfront rfl rest (p.after ',')
  refine ⟨q.after '"', ?_⟩
  rw [moreMembers]
  simp only [skipBlanks_of_not_blank (show isJsonBlank ',' = false from rfl), step, hq]

include hback in
theorem moreMembers_close (mark : Char) (rounds rest : List Char) (p : Position) : ∃ q,
    moreMembers item (mark :: rounds) ⟨back ++ '\x7d' :: rest, p⟩ = .done [] ⟨rest, q⟩ := by
  obtain ⟨q, hq⟩ := skipBlanks_of_blanks (c := '\x7d') hback rfl rest p
  refine ⟨q.after '\x7d', ?_⟩
  rw [moreMembers]
  simp only [hq]
  rfl

include hfront in
theorem members_open (rest : List Char) (p : Position) : ∃ q,
    members item ⟨front ++ '"' :: rest, p⟩ =
      (member item ⟨rest, q⟩).andThen fun m c =>
        (moreMembers item (',' :: c.rest) c).map fun ms => m :: ms := by
  obtain ⟨q, hq⟩ := skipBlanks_of_blanks (c := '"') hfront rfl rest p
  refine ⟨q.after '"', ?_⟩
  rw [members]
  simp only [hq, step]

variable {item} (hcolon : Blanks afterColon)
include hfront hback hcolon

theorem moreMembers_of_reads {ms : Members} (hms : ∀ m ∈ ms, Reads item (print m.2) m.2)
    {rounds : List Char} (hrounds : ms.length < rounds.length) (rest : List Char) (p : Position) :
    ∃ q, moreMembers item rounds
        ⟨behind front back '\x7d' (ms.map (memberChars afterColon print)) ++ rest, p⟩ =
      .done ms ⟨rest, q⟩ := by
  induction ms generalizing rounds p with
  | nil =>
    cases rounds with
    | nil => cases hrounds
    | cons mark rounds =>
      rw [List.map_nil, behind, List.append_assoc]
      exact moreMembers_close item hback mark rounds rest p
  | cons m ms ih =>
    cases rounds with
    | nil => cases hrounds
    | cons mark rounds =>
      have hfollows := follows_behind front '\x7d' hback rfl
        (ms.map (memberChars afterColon print)) rest
      obtain ⟨q, hq⟩ := moreMembers_comma item hfront mark rounds
        (behindQuote afterColon print m ++
          (behind front back '\x7d' (ms.map (memberChars afterColon print)) ++ rest)) p
      obtain ⟨q', hq'⟩ := member_of_reads item (hms m List.mem_cons_self) hcolon hfollows q
      obtain ⟨q'', hq''⟩ := ih (fun w hw => hms w (List.mem_cons_of_mem m hw))
        (Nat.lt_of_succ_lt_succ hrounds) q'
      rw [hq', Read.andThen, hq''] at hq
      refine ⟨q'', ?_⟩
      rw [List.map_cons, behind, memberChars]
      simp only [List.cons_append, List.append_assoc]
      exact hq

/-- **An object reads back,** behind its opening brace. -/
theorem members_of_reads {ms : Members} (hms : ∀ m ∈ ms, Reads item (print m.2) m.2)
    (rest : List Char) (p : Position) : ∃ q,
      members item ⟨inside front back '\x7d' (ms.map (memberChars afterColon print)) ++ rest, p⟩ =
        .done ms ⟨rest, q⟩ := by
  cases ms with
  | nil => exact ⟨p.after '\x7d', rfl⟩
  | cons m ms =>
    have hfollows := follows_behind front '\x7d' hback rfl
      (ms.map (memberChars afterColon print)) rest
    obtain ⟨q, hq⟩ := members_open item hfront (behindQuote afterColon print m ++
      (behind front back '\x7d' (ms.map (memberChars afterColon print)) ++ rest)) p
    obtain ⟨q', hq'⟩ := member_of_reads item (hms m List.mem_cons_self) hcolon hfollows q
    obtain ⟨q'', hq''⟩ := moreMembers_of_reads hfront hback hcolon
      (fun w hw => hms w (List.mem_cons_of_mem m hw))
      (length_lt_rounds (List.length_map (memberChars afterColon print)) rest) rest q'
    rw [hq', Read.andThen, hq''] at hq
    refine ⟨q'', ?_⟩
    rw [List.map_cons, inside, memberChars]
    simp only [List.cons_append, List.append_assoc]
    exact hq

end

theorem starts_leaf {v : Json} (hleaf : v.isLeaf = true) (hv : v.PlainLeaf) :
    Starts (leafChars v) := by
  match v with
  | .null => exact ⟨'n', _, rfl, rfl, by decide⟩
  | .bool true => exact ⟨'t', _, rfl, rfl, by decide⟩
  | .bool false => exact ⟨'f', _, rfl, rfl, by decide⟩
  | .text s => exact ⟨'"', _, rfl, rfl, by decide⟩
  | .real x =>
    obtain rfl : x = negativeZero := hv
    exact ⟨'-', _, rfl, rfl, by decide⟩
  | .int n =>
    rw [leafChars, intChars]
    split
    · exact ⟨'-', _, rfl, rfl, by decide⟩
    · obtain ⟨ch, digits, hcons, hdigit, -⟩ := exists_cons_digitsOf n.natAbs
      exact ⟨ch, digits, hcons, isJsonBlank_of_isDigit hdigit, ne_of_isDigit hdigit rfl⟩

end Cursor

/-! ### Printers -/

/-- How a printer lays out values: which blanks stand in front of what is inside a list or an
    object, in front of the bracket that closes it, and behind a colon. -/
structure Layout (print : Nat → Json → List Char) where
  breakAt : Nat → List Char
  afterColon : List Char
  breakAt_blanks : ∀ depth, Blanks (breakAt depth)
  afterColon_blanks : Blanks afterColon
  leaf : ∀ depth v, v.isLeaf = true → print depth v = leafChars v
  list : ∀ depth items, print depth (.list items) =
    '[' :: inside (breakAt (depth + 1)) (breakAt depth) ']' (items.map (print (depth + 1)))
  object : ∀ depth members, print depth (.object members) =
    '\x7b' :: inside (breakAt (depth + 1)) (breakAt depth) '\x7d'
      (members.map (memberChars afterColon (print (depth + 1))))

namespace Layout

variable {print : Nat → Json → List Char} (l : Layout print)
include l

theorem starts {depth : Nat} {v : Json} (hv : v.Plain depth) (indent : Nat) :
    Cursor.Starts (print indent v) := by
  cases hleaf : v.isLeaf with
  | true =>
    rw [l.leaf indent v hleaf]
    exact Cursor.starts_leaf hleaf (hv.leaf hleaf)
  | false =>
    cases v with
    | list items => exact ⟨'[', _, l.list indent items, rfl, by decide⟩
    | object members => exact ⟨'\x7b', _, l.object indent members, rfl, by decide⟩
    | _ => cases hleaf

/-- **What is printed reads back.** -/
theorem reads_value {depth : Nat} {v : Json} (hv : v.Plain depth) (indent : Nat) :
    Cursor.Reads (Cursor.value depth) (print indent v) v := by
  -- on the depth that is left, as the reader counts it down; the indent counts up beside it
  induction depth generalizing v indent with
  | zero =>
    cases hleaf : v.isLeaf with
    | true =>
      rw [l.leaf indent v hleaf]
      exact Cursor.reads_leaf none hleaf (hv.leaf hleaf)
    | false => cases v <;> first | exact hv.elim | cases hleaf
  | succ depth ih =>
    cases hleaf : v.isLeaf with
    | true =>
      rw [l.leaf indent v hleaf]
      exact Cursor.reads_leaf _ hleaf (hv.leaf hleaf)
    | false =>
      cases v with
      | list items =>
        intro bs rest p hbs hrest
        obtain ⟨q, hq⟩ := Cursor.valueWith_of_blanks (some (Cursor.value depth)) hbs (c := '[') rfl
          (inside (l.breakAt (indent + 1)) (l.breakAt indent) ']' (items.map (print (indent + 1)))
            ++ rest) p
        obtain ⟨q', hq'⟩ := Cursor.items_of_reads (l.breakAt_blanks (indent + 1))
          (l.breakAt_blanks indent)
          (fun v hmem => ⟨ih (hv v hmem) (indent + 1), l.starts (hv v hmem) (indent + 1)⟩)
          rest (q.after '[')
        refine ⟨q', ?_⟩
        rw [l.list, List.append_assoc]
        exact hq.trans (congrArg (Read.map Json.list) hq')
      | object members =>
        intro bs rest p hbs hrest
        obtain ⟨q, hq⟩ := Cursor.valueWith_of_blanks (some (Cursor.value depth)) hbs
          (c := '\x7b') rfl
          (inside (l.breakAt (indent + 1)) (l.breakAt indent) '\x7d'
            (members.map (memberChars l.afterColon (print (indent + 1)))) ++ rest) p
        obtain ⟨q', hq'⟩ := Cursor.members_of_reads (l.breakAt_blanks (indent + 1))
          (l.breakAt_blanks indent) l.afterColon_blanks
          (fun m hmem => ih (hv m hmem) (indent + 1)) rest (q.after '\x7b')
        refine ⟨q', ?_⟩
        rw [l.object, List.append_assoc]
        exact hq.trans (congrArg (Read.map Json.object) hq')
      | _ => cases hleaf

/-- A text that is nothing but a printed value, with blanks behind it, is that value. -/
theorem readText_print {v : Json} (hv : v.Plain maxDepth) (indent : Nat) {bs : List Char}
    (hbs : Blanks bs) : readText (String.ofList (print indent v ++ bs)) = .ok v := by
  have hfollows : Follows bs := List.append_nil bs ▸ follows_nil.blanks hbs
  obtain ⟨q, hq⟩ := l.reads_value hv indent [] bs ⟨1, 0⟩ blanks_nil hfollows
  rw [List.nil_append] at hq
  unfold readText
  rw [Cursor.ofText, String.toList_ofList, hq]
  simp only [Cursor.ending_of_blanks hbs]

end Layout

theorem wideMore_append (depth : Nat) (items : List Json) (back : List Char) :
    wideMore depth items ++ (back ++ [']']) =
      behind (lineBreak depth) back ']' (items.map (wideChars depth)) := by
  induction items with
  | nil => rfl
  | cons v rest ih =>
    rw [wideMore, List.map_cons, behind, ← ih]
    simp only [List.cons_append, List.append_assoc]

theorem wideMoreMembers_append (depth : Nat) (members : Members) (back : List Char) :
    wideMoreMembers depth members ++ (back ++ ['\x7d']) =
      behind (lineBreak depth) back '\x7d' (members.map (memberChars [' '] (wideChars depth))) := by
  induction members with
  | nil => rfl
  | cons m rest ih =>
    obtain ⟨key, v⟩ := m
    rw [wideMoreMembers, List.map_cons, behind, ← ih]
    simp only [wideMember, textChars, memberChars, behindQuote, List.cons_append,
      List.append_assoc, List.nil_append]

theorem lineBreak_blanks (depth : Nat) : Blanks (lineBreak depth) := by
  intro ch hch
  rcases List.mem_cons.mp hch with rfl | hch
  · rfl
  · rw [List.eq_of_mem_replicate hch]
    rfl

/-- The wide form: each item on a line of its own, and one blank behind a colon. -/
def wideLayout : Layout wideChars where
  breakAt := lineBreak
  afterColon := [' ']
  breakAt_blanks := lineBreak_blanks
  afterColon_blanks := by
    intro ch hch
    rw [List.mem_singleton.mp hch]
    rfl
  leaf depth v h := by cases v <;> first | rfl | cases h
  list depth items := by
    cases items with
    | nil => rfl
    | cons v rest =>
      rw [wideChars, wideList, List.isEmpty_cons, closing, if_neg (by decide), List.append_assoc,
        List.append_assoc, wideMore_append, List.append_assoc]
      rfl
  object depth members := by
    cases members with
    | nil => rfl
    | cons m rest =>
      obtain ⟨key, v⟩ := m
      rw [wideChars, wideMembers, List.isEmpty_cons, closing, if_neg (by decide),
        List.append_assoc, List.append_assoc, wideMoreMembers_append, List.append_assoc,
        List.map_cons, inside]
      simp only [wideMember, textChars, memberChars, behindQuote, List.cons_append,
        List.append_assoc, List.nil_append]

/-- **A value that is written over several lines reads back.** -/
theorem readText_wide {v : Json} (hv : v.Plain maxDepth) : readText v.wide = .ok v := by
  have hread := wideLayout.readText_print hv 0 blanks_nil
  rwa [List.append_nil] at hread

/-- The line break behind its last line does not matter. -/
theorem readText_wide_lineBreak {v : Json} (hv : v.Plain maxDepth) :
    readText (v.wide ++ "\n") = .ok v := by
  have hread := wideLayout.readText_print hv 0 (lineBreak_blanks 0)
  rwa [String.ofList_append] at hread

end LoadOrder.Json
