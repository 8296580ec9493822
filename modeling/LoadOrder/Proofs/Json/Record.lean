/-
  LoadOrder/Proofs/Json/Record.lean
  =================================
  **A record is read from a text as it would be from the value in that text.**

  Records are read straight from a text, field by field, and no value is built.  Still
  they are what the value says: where the reader of values finds an object, the reader
  of a record goes through the same members, changes the record by each of them, and
  stops at the same place (`agrees_record`).  What that needs of the readers of the
  fields is the same thing one level further in (`Agrees`), so each reader gets one
  lemma.

  A field may not come twice, so the keys of the object must be distinct.
-/
import LoadOrder.Json.Record
import LoadOrder.Proofs.Json.Reading

namespace LoadOrder.Json

namespace Cursor

/-! ### What a value was read from -/

/-- The first character of a value that was read, and the reader of the rest; `c` stands on
    that character. -/
inductive ReadAs (inner : Option (Cursor → Read Json)) (c next : Cursor) : Json → Prop where
  | null {rest : List Char} (hrest : c.rest = 'n' :: rest)
      (h : word ['u', 'l', 'l'] c.step = .done () next) : ReadAs inner c next .null
  | yes {rest : List Char} (hrest : c.rest = 't' :: rest)
      (h : word ['r', 'u', 'e'] c.step = .done () next) : ReadAs inner c next (.bool true)
  | no {rest : List Char} (hrest : c.rest = 'f' :: rest)
      (h : word ['a', 'l', 's', 'e'] c.step = .done () next) : ReadAs inner c next (.bool false)
  | number {v : Json} (h : v.isNumber = true) : ReadAs inner c next v
  | text {rest : List Char} {s : String} (hrest : c.rest = '"' :: rest)
      (h : text c.step = .done s next) : ReadAs inner c next (.text s)
  | list {items : List Json} : ReadAs inner c next (.list items)
  | object {rest : List Char} {item : Cursor → Read Json} {ms : Members}
      (hinner : inner = some item) (hrest : c.rest = '\x7b' :: rest)
      (h : members item c.step = .done ms next) : ReadAs inner c next (.object ms)

variable {inner : Option (Cursor → Read Json)} {c next : Cursor} {v : Json}

theorem readAs_of_valueWith (h : valueWith inner c = .done v next) :
    ReadAs inner c.skipBlanks next v := by
  unfold valueWith at h
  simp only at h
  split at h
  · cases h
  rename_i ch rest hrest
  split_ifs at h with hn ht hf hminus hdigit hquote hbracket hbrace
  · obtain ⟨_, hword, rfl⟩ := map_eq_done h
    exact .null (hn ▸ hrest) hword
  · obtain ⟨_, hword, rfl⟩ := map_eq_done h
    exact .yes (ht ▸ hrest) hword
  · obtain ⟨_, hword, rfl⟩ := map_eq_done h
    exact .no (hf ▸ hrest) hword
  · exact .number (isNumber_number h)
  · exact .number (isNumber_number h)
  · obtain ⟨s, htext, rfl⟩ := map_eq_done h
    exact .text (hquote ▸ hrest) htext
  · split at h
    · obtain ⟨items, -, rfl⟩ := map_eq_done h
      exact .list
    · cases h
  · split at h
    · obtain ⟨ms, hms, rfl⟩ := map_eq_done h
      exact .object rfl (hbrace ▸ hrest) hms
    · cases h
  · cases h

theorem value_succ (depth : Nat) : value (depth + 1) = valueWith (some (value depth)) := rfl

/-! ### Readers that agree -/

/-- Where values are read by `item` and this one comes, `read` gets what stands for it, up to
    the same place. -/
def Agrees {α : Type} (item : Cursor → Read Json) (v : Json) (read : Cursor → Read α) (a : α) :
    Prop :=
  ∀ c next, item c = .done v next → read c = .done a next

section

variable {α β : Type} {item : Cursor → Read Json} {read : Cursor → Read α} {a : α}

theorem Agrees.map (h : Agrees item v read a) (f : α → β) :
    Agrees item v (fun c => (read c).map f) (f a) := by
  intro c next hitem
  exact congrArg (Read.map f) (h c next hitem)

theorem agrees_item (item : Cursor → Read Json) (v : Json) : Agrees item v item v :=
  fun _ _ h => h

theorem agrees_boolValue (b : Bool) : Agrees (valueWith inner) (.bool b) boolValue b := by
  intro c next h
  unfold boolValue
  generalize hv : Json.bool b = v at h
  cases readAs_of_valueWith h with
  | yes hrest hword =>
    cases hv
    simp only [hrest, hword]
    rfl
  | no hrest hword =>
    cases hv
    simp only [hrest, hword]
    rfl
  | number hnumber =>
    cases hv
    cases hnumber
  | _ => cases hv

theorem agrees_textValue (wanted s : String) :
    Agrees (valueWith inner) (.text s) (textValue wanted) s := by
  intro c next h
  unfold textValue
  cases readAs_of_valueWith h with
  | text hrest htext => simp only [hrest, htext]
  | number hnumber => cases hnumber

theorem agrees_textOrNull_null (wanted : String) :
    Agrees (valueWith inner) .null (textOrNull wanted) none := by
  intro c next h
  unfold textOrNull
  cases readAs_of_valueWith h with
  | null hrest hword =>
    simp only [hrest, hword]
    rfl
  | number hnumber => cases hnumber

theorem agrees_textOrNull_text (wanted s : String) :
    Agrees (valueWith inner) (.text s) (textOrNull wanted) (some s) := by
  intro c next h
  unfold textOrNull
  cases readAs_of_valueWith h with
  | text hrest htext =>
    simp only [hrest, textValue, skipBlanks_skipBlanks, htext]
    rfl
  | number hnumber => cases hnumber

end

/-! ### Fields -/

section

variable {σ : Type} {item : Cursor → Read Json} {fields : List (FieldReader σ)}
  {other : String → σ → Cursor → Read σ} {change : String × Json → σ → σ} {ms : Members}

/-- The reader that a member of an object goes to changes the record by what the member
    says. -/
def FieldAgrees (item : Cursor → Read Json) (fields : List (FieldReader σ))
    (other : String → σ → Cursor → Read σ) (m : String × Json) (change : σ → σ) : Prop :=
  ∀ v, match fields.find? fun f => f.name == m.1 with
    | some f => Agrees item m.2 (f.read v) (change v)
    | none => Agrees item m.2 (other m.1 v) (change v)

theorem field_of_member {m : String × Json} {f : σ → σ} {seen : List String}
    (hfield : FieldAgrees item fields other m f) (hseen : m.1 ∉ seen)
    (h : member item c = .done m next) (v : σ) :
    ∃ k : Option String, (∀ key ∈ k, key = m.1) ∧
      field fields other seen v c = .done (k, f v) next := by
  obtain ⟨key, d, hkey, h⟩ := andThen_eq_done h
  obtain ⟨_, e, hcolon, h⟩ := andThen_eq_done h
  obtain ⟨w, hw, rfl⟩ := map_eq_done h
  have hv := hfield v
  split at hv
  · rename_i reader hreader
    refine ⟨some key, fun _ h => (Option.some.inj h).symm, ?_⟩
    rw [field, hkey, Read.andThen]
    simp only [hreader, List.contains_eq_mem, decide_eq_false hseen, Bool.false_eq_true, if_false,
      hcolon, Read.andThen, hv e next hw, Read.map]
  · rename_i hreader
    refine ⟨none, nofun, ?_⟩
    rw [field, hkey, Read.andThen]
    simp only [hreader, hcolon, Read.andThen, hv e next hw, Read.map]

theorem closeObject_of_brace {rest : List Char} (h : c.skipBlanks.rest = '\x7d' :: rest) :
    closeObject c.skipBlanks = .done () c.skipBlanks.step := by
  rw [closeObject]
  simp only [skipBlanks_skipBlanks, h]

section

variable {rest rest' : List Char} (seen : List String) (v : σ)

theorem moreFields_of_brace (hbrace : c.skipBlanks.rest = '\x7d' :: rest) (mark : Char)
    (rounds : List Char) :
    moreFields fields other (mark :: rounds) seen v c = .done v c.skipBlanks := by
  rw [moreFields]
  simp only [hbrace]

theorem moreFields_of_comma (hcomma : c.skipBlanks.rest = ',' :: rest)
    (hquote : c.skipBlanks.step.skipBlanks.rest = '"' :: rest') (mark : Char)
    (rounds : List Char) :
    moreFields fields other (mark :: rounds) seen v c =
      (field fields other seen v c.skipBlanks.step.skipBlanks.step).andThen fun r d =>
        moreFields fields other rounds (r.1.toList ++ seen) r.2 d := by
  rw [moreFields]
  simp only [hcomma, hquote]

theorem objectFields_of_brace (hbrace : c.skipBlanks.rest = '\x7d' :: rest) :
    objectFields fields other v c = .done v c.skipBlanks := by
  rw [objectFields]
  simp only [hbrace]

theorem objectFields_of_quote (hquote : c.skipBlanks.rest = '"' :: rest) :
    objectFields fields other v c =
      (field fields other [] v c.skipBlanks.step).andThen fun r d =>
        moreFields fields other (',' :: d.rest) r.1.toList r.2 d := by
  rw [objectFields]
  simp only [hquote]

end

/-- Behind the first field: the invariant is that no field that is still to come has been
    seen. -/
theorem moreFields_of_moreMembers (hms : ∀ m ∈ ms, FieldAgrees item fields other m (change m))
    (hkeys : (ms.map Prod.fst).Pairwise (· ≠ ·)) {seen : List String}
    (hseen : ∀ m ∈ ms, m.1 ∉ seen) {rounds : List Char}
    (h : moreMembers item rounds c = .done ms next) (v : σ) :
    ∃ close, moreFields fields other rounds seen v c =
        .done (ms.foldl (fun v m => change m v) v) close ∧ closeObject close = .done () next := by
  -- the two readers go round together; no key comes twice, so none has been seen
  induction rounds generalizing c ms seen v with
  | nil => cases h
  | cons mark rounds ih =>
    rw [moreMembers] at h
    simp only at h
    split at h
    · cases h
    · rename_i hbrace
      cases h
      exact ⟨c.skipBlanks, moreFields_of_brace seen v hbrace mark rounds,
        closeObject_of_brace hbrace⟩
    · rename_i hcomma
      split at h
      · cases h
      · rename_i hquote
        obtain ⟨m, d, hm, h⟩ := andThen_eq_done h
        obtain ⟨ms, hmore, rfl⟩ := map_eq_done h
        rw [List.map_cons, List.pairwise_cons] at hkeys
        obtain ⟨k, hk, hfield⟩ := field_of_member (hms m List.mem_cons_self)
          (hseen m List.mem_cons_self) hm v
        have hunseen : ∀ n ∈ ms, n.1 ∉ k.toList ++ seen := by
          intro n hn hmem
          rcases List.mem_append.mp hmem with hmem | hmem
          · exact hkeys.1 n.1 (List.mem_map_of_mem hn) (hk n.1 (Option.mem_toList.mp hmem)).symm
          · exact hseen n (List.mem_cons_of_mem m hn) hmem
        obtain ⟨close, hclose, hnext⟩ := ih (fun n hn => hms n (List.mem_cons_of_mem m hn)) hkeys.2
          hunseen hmore (change m v)
        refine ⟨close, ?_, hnext⟩
        rw [moreFields_of_comma seen v hcomma hquote, hfield, Read.andThen, hclose,
          List.foldl_cons]
      · cases h
      · cases h
    · cases h

/-- **The fields of an object are read as its members are.**  The reader of the fields stops
    before the closing brace. -/
theorem objectFields_of_members (hms : ∀ m ∈ ms, FieldAgrees item fields other m (change m))
    (hkeys : (ms.map Prod.fst).Pairwise (· ≠ ·)) (h : members item c = .done ms next) (v : σ) :
    ∃ close, objectFields fields other v c = .done (ms.foldl (fun v m => change m v) v) close ∧
      closeObject close = .done () next := by
  rw [members] at h
  split at h
  · cases h
  · rename_i hbrace
    cases h
    exact ⟨c.skipBlanks, objectFields_of_brace v hbrace, closeObject_of_brace hbrace⟩
  · rename_i hquote
    obtain ⟨m, d, hm, h⟩ := andThen_eq_done h
    obtain ⟨ms, hmore, rfl⟩ := map_eq_done h
    rw [List.map_cons, List.pairwise_cons] at hkeys
    obtain ⟨k, hk, hfield⟩ := field_of_member (hms m List.mem_cons_self) List.not_mem_nil hm v
    have hunseen : ∀ n ∈ ms, n.1 ∉ k.toList := by
      intro n hn hmem
      exact hkeys.1 n.1 (List.mem_map_of_mem hn) (hk n.1 (Option.mem_toList.mp hmem)).symm
    obtain ⟨close, hclose, hnext⟩ := moreFields_of_moreMembers
      (fun n hn => hms n (List.mem_cons_of_mem m hn)) hkeys.2 hunseen hmore (change m v)
    refine ⟨close, ?_, hnext⟩
    rw [objectFields_of_quote v hquote, hfield, Read.andThen, hclose, List.foldl_cons]
  · cases h

/-- **A record is read where the value is an object.** -/
theorem agrees_record (wanted : String)
    (hms : ∀ m ∈ ms, FieldAgrees item fields ignore m (change m))
    (hkeys : (ms.map Prod.fst).Pairwise (· ≠ ·)) (v : σ) :
    Agrees (valueWith (some item)) (.object ms) (record wanted (some fields) v)
      (ms.foldl (fun v m => change m v) v) := by
  intro c next h
  cases readAs_of_valueWith h with
  | object hinner hrest hms' =>
    cases hinner
    obtain ⟨close, hclose, hnext⟩ := objectFields_of_members hms hkeys hms' v
    unfold record
    simp only [hrest, hclose, closeBehind, hnext, Read.map]
  | number hnumber => cases hnumber

end

/-! ### Whole texts -/

/-- A record that is read where a value is read is the record of the whole text. -/
theorem readRecord_of_agrees {σ : Type} {read : Cursor → Read σ} {r : σ} {raw : String}
    (hread : Agrees (value maxDepth) v read r) (h : readText raw = .ok v) :
    readRecord read raw = .ok r := by
  obtain ⟨c, hvalue, hending⟩ := readText_eq_ok h
  rw [readRecord, hread _ _ hvalue]
  simp only [hending]

end Cursor

end LoadOrder.Json
