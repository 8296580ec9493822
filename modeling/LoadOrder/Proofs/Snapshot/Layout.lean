/-
  LoadOrder/Proofs/Snapshot/Layout.lean
  =====================================
  **Where in a text the plugins of a document begin.**

  A plugin begins where, in the text, an opening brace stands from which its object can
  be read (`Begins`).  A reader goes through a text once, from the front, so the objects
  that are found in a value begin one behind the other, in the order in which they are
  found (`Laid`).  There is one lemma for each reader of lists and objects, and the
  theorem about values is by induction on the depth (`meets_value`); for a whole text
  it says that the places grow (`exists_offsets_of_readText`).
-/
import LoadOrder.Proofs.Json.Reading
import LoadOrder.Proofs.Snapshot.Places

namespace LoadOrder

open Json

/-! ### Where objects begin -/

/-- An object begins with a text; `members` are its members in the order of the text. -/
def Begins (text : List Char) (members : Members) : Prop :=
  text.head? = some '\x7b' ∧
    ∃ depth place next, (Cursor.mk text place).value depth = .done (.object members) next

/-- Objects begin one behind the other in a text, before the `rest` of it. -/
inductive Laid : List Char → List Members → List Char → Prop where
  | done {text rest : List Char} (h : rest <:+ text) : Laid text [] rest
  | next {text start after rest : List Char} {members : Members} {objects : List Members}
      (hstart : start <:+ text) (hbegins : Begins start members) (hafter : after <:+ start.tail)
      (h : Laid after objects rest) : Laid text (members :: objects) rest

namespace Laid

variable {text middle rest : List Char} {objects others : List Members}

theorem suffix (h : Laid text objects rest) : rest <:+ text := by
  induction h with
  | done h => exact h
  | next hstart _ hafter _ ih => exact ((ih.trans hafter).trans (List.tail_suffix _)).trans hstart

theorem of_suffix (h : Laid text objects rest) {longer : List Char} (hlonger : text <:+ longer) :
    Laid longer objects rest := by
  cases h with
  | done h => exact .done (h.trans hlonger)
  | next hstart hbegins hafter h => exact .next (hstart.trans hlonger) hbegins hafter h

theorem append (h : Laid text objects middle) (h' : Laid middle others rest) :
    Laid text (objects ++ others) rest := by
  induction h with
  | done h => exact h'.of_suffix h
  | next hstart hbegins hafter _ ih => exact .next hstart hbegins hafter (ih h')

/-- The places at which objects begin grow from one to the next. -/
theorem exists_offsets (h : Laid text objects rest) {whole : List Char} (hwhole : text <:+ whole) :
    ∃ offsets : List Nat, offsets.Pairwise (· < ·) ∧
      (∀ offset ∈ offsets, whole.length - text.length ≤ offset) ∧
      List.Forall₂ (fun offset members => Begins (whole.drop offset) members) offsets objects := by
  induction h with
  | done h => exact ⟨[], .nil, nofun, .nil⟩
  | @next text start after rest members objects hstart hbegins hafter _ ih =>
    have hstart' := hstart.trans hwhole
    have hafter' := hafter.trans (List.tail_suffix start)
    obtain ⟨offsets, hpairwise, hlow, hforall⟩ := ih (hafter'.trans hstart')
    have hpos : 0 < start.length := by
      cases start with
      | nil => cases hbegins.1
      | cons ch start => exact Nat.succ_pos _
    have hlength := hafter.length_le
    have hlength' := hstart'.length_le
    rw [List.length_tail] at hlength
    refine ⟨(whole.length - start.length) :: offsets, ?_, ?_, .cons ?_ hforall⟩
    · refine List.pairwise_cons.mpr ⟨fun offset hmem => ?_, hpairwise⟩
      have := hlow offset hmem
      omega
    · refine List.forall_mem_cons.mpr ⟨?_, fun offset hmem => ?_⟩
      · have := hstart.length_le
        omega
      · have := hlow offset hmem
        have := hstart.length_le
        omega
    · rwa [← List.suffix_iff_eq_drop.mp hstart']

end Laid

/-! ### Readers that meet objects -/

/-- A reader of values meets the objects that are found in the value, in their order. -/
def Meets (item : Cursor → Read Json) : Prop :=
  ∀ c v next, item c = .done v next → Laid c.rest (taggedIn v) next.rest

namespace Cursor

open Json.Cursor

variable {item : Cursor → Read Json} {c next : Cursor}

theorem laid_moreItems (hitem : Meets item) {rounds : List Char} {vs : List Json}
    (h : moreItems item rounds c = .done vs next) : Laid c.rest (taggedInList vs) next.rest := by
  induction rounds generalizing c vs with
  | nil => cases h
  | cons _ rounds ih =>
    have hblanks := c.skipBlanks_suffix
    have hstep := c.skipBlanks.step_suffix.trans hblanks
    have hcomma := c.skipBlanks.step.skipBlanks_suffix.trans hstep
    rw [moreItems] at h
    simp only at h
    split at h
    · cases h
    · cases h
      exact .done hstep
    · split at h
      · cases h
      · cases h
      · obtain ⟨v, d, hv, h⟩ := andThen_eq_done h
        obtain ⟨vs, hvs, rfl⟩ := map_eq_done h
        exact ((hitem _ _ _ hv).of_suffix hcomma).append (ih hvs)
    · cases h

theorem laid_items (hitem : Meets item) {vs : List Json} (h : items item c = .done vs next) :
    Laid c.rest (taggedInList vs) next.rest := by
  have hblanks := c.skipBlanks_suffix
  rw [items] at h
  split at h
  · cases h
  · cases h
    exact .done (c.skipBlanks.step_suffix.trans hblanks)
  · obtain ⟨v, d, hv, h⟩ := andThen_eq_done h
    obtain ⟨vs, hvs, rfl⟩ := map_eq_done h
    exact ((hitem _ _ _ hv).of_suffix hblanks).append (laid_moreItems hitem hvs)

theorem laid_member (hitem : Meets item) {m : String × Json} (h : member item c = .done m next) :
    Laid c.rest (taggedIn m.2) next.rest := by
  rw [member] at h
  obtain ⟨key, d, hkey, h⟩ := andThen_eq_done h
  obtain ⟨_, e, hcolon, h⟩ := andThen_eq_done h
  obtain ⟨v, hv, rfl⟩ := map_eq_done h
  exact (hitem _ _ _ hv).of_suffix ((within_colon _ _ hcolon).trans (within_text _ _ hkey))

theorem taggedInMembers_cons (m : String × Json) (rest : Members) :
    taggedInMembers (m :: rest) = taggedIn m.2 ++ taggedInMembers rest := by
  obtain ⟨key, v⟩ := m
  rfl

theorem laid_moreMembers (hitem : Meets item) {rounds : List Char} {ms : Members}
    (h : moreMembers item rounds c = .done ms next) :
    Laid c.rest (taggedInMembers ms) next.rest := by
  induction rounds generalizing c ms with
  | nil => cases h
  | cons _ rounds ih =>
    have hblanks := c.skipBlanks_suffix
    have hstep := c.skipBlanks.step_suffix.trans hblanks
    have hcomma := c.skipBlanks.step.skipBlanks_suffix.trans hstep
    rw [moreMembers] at h
    simp only at h
    split at h
    · cases h
    · cases h
      exact .done hstep
    · split at h
      · cases h
      · obtain ⟨m, d, hm, h⟩ := andThen_eq_done h
        obtain ⟨ms, hms, rfl⟩ := map_eq_done h
        have hquote := c.skipBlanks.step.skipBlanks.step_suffix.trans hcomma
        rw [taggedInMembers_cons]
        exact ((laid_member hitem hm).of_suffix hquote).append (ih hms)
      · cases h
      · cases h
    · cases h

theorem laid_members (hitem : Meets item) {ms : Members} (h : members item c = .done ms next) :
    Laid c.rest (taggedInMembers ms) next.rest := by
  have hblanks := c.skipBlanks_suffix
  have hstep := c.skipBlanks.step_suffix.trans hblanks
  rw [members] at h
  split at h
  · cases h
  · cases h
    exact .done hstep
  · obtain ⟨m, d, hm, h⟩ := andThen_eq_done h
    obtain ⟨ms, hms, rfl⟩ := map_eq_done h
    rw [taggedInMembers_cons]
    exact ((laid_member hitem hm).of_suffix hstep).append (laid_moreMembers hitem hms)
  · cases h

theorem value_skipBlanks (depth : Nat) (c : Cursor) : value depth c.skipBlanks = value depth c := by
  have hblanks := c.skipBlanks_skipBlanks
  cases depth with
  | zero => rw [value, value, valueWith, hblanks, valueWith]
  | succ depth => rw [value, value, valueWith, hblanks, valueWith]

/-- A tagged object begins where it can be read again; whatever else has objects inside
    has them where its readers meet them. -/
theorem laid_valueWith {inner : Option (Cursor → Read Json)} {depth : Nat} {v : Json}
    (hinner : ∀ item, inner = some item → Meets item) (h : valueWith inner c = .done v next)
    (hagain : value depth c.skipBlanks = .done v next) : Laid c.rest (taggedIn v) next.rest := by
  have hblanks := c.skipBlanks_suffix
  have hinside := c.skipBlanks.step_suffix.trans hblanks
  rcases valueWith_eq_done h with ⟨hleaf, hrest⟩ | ⟨item, hitem, vs, rfl, hvs⟩ |
    ⟨item, hitem, ms, rfl, hbrace, hms⟩
  · rw [taggedIn_leaf hleaf]
    exact .done hrest
  · rw [taggedIn]
    exact (laid_items (hinner item hitem) hvs).of_suffix hinside
  · have hlaid := laid_members (hinner item hitem) hms
    rw [taggedIn]
    split
    · refine .next hblanks ⟨hbrace, depth, _, next, hagain⟩ ?_ (.done List.suffix_rfl)
      rw [← step_rest]
      exact hlaid.suffix
    · exact hlaid.of_suffix hinside

/-- **The plugins of a value begin in the text in the order in which they are found.** -/
theorem meets_value (depth : Nat) : Meets (value depth) := by
  induction depth with
  | zero =>
    intro c v next h
    refine laid_valueWith (fun item hitem => ?_) h ((value_skipBlanks 0 c).trans h)
    cases hitem
  | succ depth ih =>
    intro c v next h
    refine laid_valueWith (fun item hitem => ?_) h ((value_skipBlanks (depth + 1) c).trans h)
    cases hitem
    exact ih

end Cursor

/-- The outermost tagged objects of a text begin at places that grow. -/
theorem exists_offsets_of_readText {raw : String} {v : Json} (h : readText raw = .ok v) :
    ∃ offsets : List Nat, offsets.Pairwise (· < ·) ∧
      List.Forall₂ (fun offset members => Begins (raw.toList.drop offset) members)
        offsets (taggedIn v) := by
  obtain ⟨next, hvalue, -⟩ := readText_eq_ok h
  have hlaid := Cursor.meets_value maxDepth _ _ _ hvalue
  obtain ⟨offsets, hpairwise, -, hforall⟩ := hlaid.exists_offsets List.suffix_rfl
  exact ⟨offsets, hpairwise, hforall⟩

end LoadOrder
