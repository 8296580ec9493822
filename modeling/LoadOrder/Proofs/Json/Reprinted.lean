/-
  LoadOrder/Proofs/Json/Reprinted.lean
  ====================================
  **What was read can be printed in one line and read again.**

  A reader bounds how deep a value is and which whole numbers are in it.  That is all that
  a printer needs (`Plain`), but for the doubles, so a value without them comes back as it
  was (`parse_compact`).  The canonical form is no obstacle: it has nothing inside that was
  not read, and a value that has it is left as it is.

  The numbers of a value are looked up at its places, because that is what a canonical
  value keeps: a member that a later one has replaced may have held anything.
-/
import LoadOrder.Proofs.Json.Printed
import LoadOrder.Proofs.Text.Trimmed

namespace LoadOrder.Json

/-- Every number inside a value is whole: at no place stands a double but the negative
    zero. -/
def Whole (v : Json) : Prop := ∀ p x, v.at? p = some (.real x) → x = negativeZero

theorem Whole.child {v w : Json} {s : Step} (h : v.Whole) (hs : v.child? s = some w) :
    w.Whole := by
  intro p x hp
  apply h (s :: p) x
  rw [at?, hs]
  exact hp

theorem whole_leaf {v : Json} (hleaf : v.isLeaf = true) (hreal : v.isReal = false) : v.Whole := by
  intro p x hp
  cases p with
  | nil =>
    cases hp
    cases hreal
  | cons s p =>
    rw [at?, child?_leaf hleaf] at hp
    cases hp

theorem whole_of_members {members : Members} (h : ∀ m ∈ members, m.2.Whole) :
    (Json.object members).Whole := by
  intro p x hp
  cases p with
  | nil => cases hp
  | cons s p =>
    rw [at?, Option.bind_eq_some_iff] at hp
    obtain ⟨w, hw, hp⟩ := hp
    cases s with
    | item i => cases hw
    | member key => exact h _ (mem_of_lookup hw) p x hp

/-! ### What is inside was read -/

namespace Cursor

variable {item : Cursor → Read Json} {inner : Option (Cursor → Read Json)} {c next : Cursor}
variable {v : Json} {vs : List Json} {m : String × Json} {ms : Members} {rounds : List Char}

/-- A reader can give a value. -/
def Gives (item : Cursor → Read Json) (v : Json) : Prop := ∃ c next, item c = .done v next

theorem gives_of_mem_moreItems (h : moreItems item rounds c = .done vs next) (hv : v ∈ vs) :
    Gives item v := by
  induction rounds generalizing c vs with
  | nil => cases h
  | cons mark rounds ih =>
    rw [moreItems] at h
    simp only at h
    split at h
    · cases h
    · cases h
      cases hv
    · split at h
      · cases h
      · cases h
      · obtain ⟨w, d, hw, h⟩ := andThen_eq_done h
        obtain ⟨ws, hws, rfl⟩ := map_eq_done h
        rcases List.mem_cons.mp hv with rfl | hv
        · exact ⟨_, d, hw⟩
        · exact ih hws hv
    · cases h

theorem gives_of_mem_items (h : items item c = .done vs next) (hv : v ∈ vs) : Gives item v := by
  rw [items] at h
  split at h
  · cases h
  · cases h
    cases hv
  · obtain ⟨w, d, hw, h⟩ := andThen_eq_done h
    obtain ⟨ws, hws, rfl⟩ := map_eq_done h
    rcases List.mem_cons.mp hv with rfl | hv
    · exact ⟨_, d, hw⟩
    · exact gives_of_mem_moreItems hws hv

theorem gives_of_member (h : member item c = .done m next) : Gives item m.2 := by
  rw [member] at h
  obtain ⟨key, d, -, h⟩ := andThen_eq_done h
  obtain ⟨_, e, -, h⟩ := andThen_eq_done h
  obtain ⟨w, hw, rfl⟩ := map_eq_done h
  exact ⟨e, next, hw⟩

theorem gives_of_mem_moreMembers (h : moreMembers item rounds c = .done ms next) (hm : m ∈ ms) :
    Gives item m.2 := by
  induction rounds generalizing c ms with
  | nil => cases h
  | cons mark rounds ih =>
    rw [moreMembers] at h
    simp only at h
    split at h
    · cases h
    · cases h
      cases hm
    · split at h
      · cases h
      · obtain ⟨n, d, hn, h⟩ := andThen_eq_done h
        obtain ⟨ns, hns, rfl⟩ := map_eq_done h
        rcases List.mem_cons.mp hm with rfl | hm
        · exact gives_of_member hn
        · exact ih hns hm
      · cases h
      · cases h
    · cases h

theorem gives_of_mem_members (h : members item c = .done ms next) (hm : m ∈ ms) :
    Gives item m.2 := by
  rw [members] at h
  split at h
  · cases h
  · cases h
    cases hm
  · obtain ⟨n, d, hn, h⟩ := andThen_eq_done h
    obtain ⟨ns, hns, rfl⟩ := map_eq_done h
    rcases List.mem_cons.mp hm with rfl | hm
    · exact gives_of_member hn
    · exact gives_of_mem_moreMembers hns hm
  · cases h

/-! ### How much there can be in a value -/

theorem plainLeaf_whole (negative : Bool) {n : Nat} (hn : n ≤ maxWhole)
    (hwhole : (whole negative n).Whole) : (whole negative n).PlainLeaf := by
  unfold whole at hwhole ⊢
  split_ifs at hwhole ⊢ with hpositive hsmall
  · have : maxNegative = 9223372036854775808 := rfl
    exact ⟨by omega, by exact_mod_cast hn⟩
  · have : maxWhole = 18446744073709551615 := rfl
    exact ⟨by omega, by omega⟩
  · exact hwhole [] _ rfl

theorem plainLeaf_number {negative : Bool} (h : number negative c = .done v next)
    (hwhole : v.Whole) : v.PlainLeaf := by
  rcases number_eq_done h with hreal | ⟨n, hn, rfl⟩
  · cases v with
    | real x => exact hwhole [] x rfl
    | _ => cases hreal
  · exact plainLeaf_whole negative hn hwhole

theorem plainLeaf_valueWith (h : valueWith inner c = .done v next) (hwhole : v.Whole)
    (hleaf : v.isLeaf = true) : v.PlainLeaf := by
  unfold valueWith at h
  simp only at h
  split at h
  · cases h
  split_ifs at h
  · obtain ⟨_, -, rfl⟩ := map_eq_done h
    trivial
  · obtain ⟨_, -, rfl⟩ := map_eq_done h
    trivial
  · obtain ⟨_, -, rfl⟩ := map_eq_done h
    trivial
  · exact plainLeaf_number h hwhole
  · exact plainLeaf_number h hwhole
  · obtain ⟨_, -, rfl⟩ := map_eq_done h
    trivial
  · split at h
    · obtain ⟨_, -, rfl⟩ := map_eq_done h
      cases hleaf
    · cases h
  · split at h
    · obtain ⟨_, -, rfl⟩ := map_eq_done h
      cases hleaf
    · cases h
  · cases h

end Cursor

/-- **What was read and has no doubles is plain,** in its canonical form too. -/
theorem plain_canonical_of_value {depth : Nat} {c next : Cursor} {v : Json}
    (h : c.value depth = .done v next) (hwhole : v.canonical.Whole) : v.canonical.Plain depth := by
  -- on the depth, as the reader counts it down
  induction depth generalizing c next v with
  | zero =>
    rcases Cursor.valueWith_eq_done h with ⟨hleaf, -⟩ | ⟨item, hitem, -⟩ | ⟨item, hitem, -⟩
    · rw [canonical_leaf hleaf] at hwhole ⊢
      exact plain_of_leaf hleaf (Cursor.plainLeaf_valueWith h hwhole hleaf)
    · cases hitem
    · cases hitem
  | succ depth ih =>
    have hgives {w : Json} (hw : Cursor.Gives (Cursor.value depth) w) (hwhole : w.canonical.Whole) :
        w.canonical.Plain depth := by
      obtain ⟨d, e, hd⟩ := hw
      exact ih hd hwhole
    rcases Cursor.valueWith_eq_done h with ⟨hleaf, -⟩ | ⟨item, hitem, vs, rfl, hvs⟩ |
      ⟨item, hitem, ms, rfl, -, hms⟩
    · rw [canonical_leaf hleaf] at hwhole ⊢
      exact plain_of_leaf hleaf (Cursor.plainLeaf_valueWith h hwhole hleaf)
    · obtain rfl := Option.some.inj hitem
      rw [canonical, canonicalList_eq_map] at hwhole ⊢
      intro w hw
      obtain ⟨i, hi⟩ := List.mem_iff_getElem?.mp hw
      obtain ⟨w, hmem, rfl⟩ := List.mem_map.mp hw
      exact hgives (Cursor.gives_of_mem_items hvs hmem) (hwhole.child (s := .item i) hi)
    · obtain rfl := Option.some.inj hitem
      rw [canonical] at hwhole ⊢
      intro m hm
      have hlookup := lookup_of_mem ((pairwise_keys_canonicalMembers ms).imp ne_of_lt) hm
      obtain ⟨n, hn, rfl⟩ := exists_of_mem_canonicalMembers hm
      exact hgives (Cursor.gives_of_mem_members hms hn) (hwhole.child (s := .member n.1) hlookup)

theorem Plain.mono {depth deeper : Nat} {v : Json} (h : v.Plain depth) (hle : depth ≤ deeper) :
    v.Plain deeper := by
  induction depth generalizing v deeper with
  | zero =>
    cases v with
    | list items => exact h.elim
    | object members => exact h.elim
    | _ => exact plain_of_leaf rfl (h.leaf rfl)
  | succ depth ih =>
    obtain ⟨deeper, rfl⟩ := Nat.exists_eq_add_of_lt hle
    cases v with
    | list items => exact fun w hw => ih (h w hw) (Nat.le_add_right depth deeper)
    | object members => exact fun m hm => ih (h m hm) (Nat.le_add_right depth deeper)
    | _ => exact plain_of_leaf rfl (h.leaf rfl)

/-! ### The short form -/

theorem charsOfMore_append (items : List Json) :
    charsOfMore items ++ [']'] = behind [] [] ']' (items.map chars) := by
  induction items with
  | nil => rfl
  | cons v rest ih =>
    rw [charsOfMore, List.map_cons, behind, ← ih, List.cons_append, List.append_assoc,
      List.nil_append]

theorem charsOfMember_eq (m : String × Json) : charsOfMember m = memberChars [] chars m := by
  obtain ⟨key, v⟩ := m
  rw [charsOfMember, memberChars, behindQuote, textChars, List.append_assoc]
  rfl

theorem charsOfMoreMembers_append (members : Members) :
    charsOfMoreMembers members ++ ['\x7d'] =
      behind [] [] '\x7d' (members.map (memberChars [] chars)) := by
  induction members with
  | nil => rfl
  | cons m rest ih =>
    rw [charsOfMoreMembers, List.map_cons, behind, ← ih, charsOfMember_eq, List.cons_append,
      List.append_assoc, List.nil_append]

/-- The short form: no blanks at all. -/
def compactLayout : Layout fun _ => chars where
  breakAt _ := []
  afterColon := []
  breakAt_blanks _ := blanks_nil
  afterColon_blanks := blanks_nil
  leaf depth v h := by cases v <;> first | rfl | cases h
  list depth items := by
    cases items with
    | nil => rfl
    | cons v rest =>
      rw [chars, charsOfList, List.append_assoc, charsOfMore_append]
      rfl
  object depth members := by
    cases members with
    | nil => rfl
    | cons m rest =>
      rw [chars, charsOfMembers, List.append_assoc, charsOfMoreMembers_append, charsOfMember_eq]
      rfl

/-- **A value that is written in one line reads back.** -/
theorem readText_compact {v : Json} (hv : v.Plain maxDepth) : readText v.compact = .ok v := by
  have hread := compactLayout.readText_print hv 0 blanks_nil
  rwa [List.append_nil] at hread

theorem isBlank_of_mem_intChars {n : Int} {c : Char} (hc : c ∈ intChars n) :
    Text.isBlank c = false := by
  have hdigits : c ∈ Numeric.digitsOf n.natAbs → Text.isBlank c = false := by
    intro hmem
    exact Text.isBlank_of_isDigit (Nat.isDigit_of_mem_toDigits (b := 10) (by decide) (by decide) hmem)
  rw [intChars] at hc
  split at hc
  · rcases List.mem_cons.mp hc with rfl | hc
    · rfl
    · exact hdigits hc
  · exact hdigits hc

/-- What is printed in one line has no blanks around it, whatever counts as a blank. -/
theorem trimmed_compact {depth : Nat} {v : Json} (hv : v.Plain depth) :
    Text.Trimmed v.compact := by
  unfold compact
  cases v with
  | null => exact Text.trimmed_between rfl rfl ['u', 'l']
  | bool b =>
    cases b with
    | true => exact Text.trimmed_between rfl rfl ['r', 'u']
    | false => exact Text.trimmed_between rfl rfl ['a', 'l', 's']
  | int n => exact Text.trimmed_of_forall fun c hc => isBlank_of_mem_intChars hc
  | real x =>
    obtain rfl : x = negativeZero := hv.leaf rfl
    exact Text.trimmed_between rfl rfl ['0', '.']
  | text s => exact Text.trimmed_between rfl rfl (s.toList.flatMap escapedChar)
  | list items => exact Text.trimmed_between rfl rfl (charsOfList items)
  | object members => exact Text.trimmed_between rfl rfl (charsOfMembers members)

/-! ### The canonical form -/

theorem insertNew_of_forall_lt {key : String} {value : Json} {members : Members}
    (h : ∀ k ∈ members.map Prod.fst, key < k) :
    insertNew key value members = (key, value) :: members := by
  cases members with
  | nil => rfl
  | cons m rest => rw [insertNew, if_pos (h m.1 List.mem_cons_self)]

theorem canonicalMembers_of_pairwise {members : Members}
    (hkeys : (members.map Prod.fst).Pairwise (· < ·))
    (hinside : ∀ m ∈ members, m.2.canonical = m.2) : canonicalMembers members = members := by
  induction members with
  | nil => rfl
  | cons m rest ih =>
    rw [List.map_cons, List.pairwise_cons] at hkeys
    rw [canonicalMembers_cons, ih hkeys.2 fun n hn => hinside n (List.mem_cons_of_mem m hn),
      hinside m List.mem_cons_self, insertNew_of_forall_lt hkeys.1]

/-- A value that is canonical is its own canonical form. -/
theorem Canonical.canonical_eq {v : Json} (h : v.Canonical) : v.canonical = v := by
  induction v using induct with
  | leaf v hleaf => exact canonical_leaf hleaf
  | list items ih =>
    have hitems : ∀ v ∈ items, v.canonical = v := by
      intro v hv
      obtain ⟨i, hi⟩ := List.mem_iff_getElem?.mp hv
      exact ih v hv (h.child (s := .item i) hi)
    rw [canonical, canonicalList_eq_map, List.map_congr_left hitems, List.map_id']
  | object members ih =>
    have hkeys := h.members
    have hmembers : ∀ m ∈ members, m.2.canonical = m.2 := by
      intro m hm
      exact ih m hm (h.child (s := .member m.1) (lookup_of_mem (hkeys.imp ne_of_lt) hm))
    rw [canonical, canonicalMembers_of_pairwise hkeys hmembers]

/-- **What was read and has no doubles comes back as it was** when it is printed in one line
    and read again. -/
theorem parse_compact {v : Json} (hplain : v.Plain maxDepth) (hv : v.Canonical) :
    parse v.compact = .ok v := by
  unfold parse
  rw [readText_compact hplain]
  exact congrArg Except.ok hv.canonical_eq

/-- What an object holds under a key can be printed and read again, whatever else is in the
    object. -/
theorem plain_of_lookup {raw key : String} {members : Members} {v : Json}
    (h : parse raw = .ok (.object members)) (hv : lookup key members = some v)
    (hwhole : v.Whole) : v.Plain maxDepth := by
  obtain ⟨ms, hread, rfl⟩ := parse_eq_object h
  obtain ⟨c, hvalue, -⟩ := readText_eq_ok hread
  rcases Cursor.valueWith_eq_done hvalue with ⟨hleaf, -⟩ | ⟨item, hitem, vs, hlist, -⟩ |
    ⟨item, hitem, ns, hobject, -, hns⟩
  · cases hleaf
  · cases hlist
  · obtain rfl := Option.some.inj hitem
    obtain rfl := Json.object.inj hobject
    obtain ⟨n, hn, heq⟩ := exists_of_mem_canonicalMembers (mem_of_lookup hv)
    obtain rfl : v = n.2.canonical := congrArg Prod.snd heq
    obtain ⟨d, e, hd⟩ := Cursor.gives_of_mem_members hns hn
    exact (plain_canonical_of_value hd hwhole).mono (Nat.le_succ 126)

end LoadOrder.Json
