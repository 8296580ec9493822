/-
  LoadOrder/Proofs/Json/Path.lean
  ===============================
  **Places inside a value, and where the canonical form puts things.**

  A place inside a value is given by the way to it: the items and the members that
  one steps through (`Path`).  Two places are in order if the steps at which their
  ways part are, items by number and members by key (`Path.Before`).

  The canonical form sorts the members of each object, and where no object repeats a
  key that is all it does: a step still leads to the canonical form of what it led to
  (`child?_canonical`).
-/
import LoadOrder.Json.Reader
import Mathlib.Data.String.Basic

namespace LoadOrder.Json

/-! ### Induction on values -/

/-- Whether a value is neither a list nor an object. -/
def isLeaf : Json → Bool
  | .list _ => false
  | .object _ => false
  | _ => true

/-- **Induction on a value:** what holds of a list or an object if it holds of all that
    is inside. -/
@[elab_as_elim]
theorem induct {P : Json → Prop} (leaf : ∀ v, v.isLeaf = true → P v)
    (list : ∀ items, (∀ v ∈ items, P v) → P (.list items))
    (object : ∀ members, (∀ m ∈ members, P m.2) → P (.object members)) (v : Json) : P v := by
  match v with
  | .null => exact leaf _ rfl
  | .bool b => exact leaf _ rfl
  | .int n => exact leaf _ rfl
  | .real x => exact leaf _ rfl
  | .text s => exact leaf _ rfl
  | .list items => exact list items fun w _ => induct leaf list object w
  | .object members => exact object members fun m _ => induct leaf list object m.2
termination_by sizeOf v
decreasing_by
  · have hlt := List.sizeOf_lt_of_mem ‹w ∈ items›
    simp only [Json.list.sizeOf_spec]
    omega
  · have hlt := List.sizeOf_lt_of_mem ‹m ∈ members›
    have hsnd : sizeOf m.2 < sizeOf m := by
      cases m
      simp only [Prod.mk.sizeOf_spec]
      omega
    simp only [Json.object.sizeOf_spec]
    omega

/-! ### Ways into a value -/

/-- A step into a value: to an item of a list or to a member of an object. -/
inductive Step where
  | item (index : Nat)
  | member (key : String)
deriving DecidableEq, Repr

/-- The way to a place inside a value. -/
abbrev Path := List Step

/-- The value one step further in. -/
def child? : Json → Step → Option Json
  | .list items, .item i => items[i]?
  | .object members, .member key => lookup key members
  | _, _ => none

/-- The value at a place. -/
def at? : Json → Path → Option Json
  | v, [] => some v
  | v, s :: p => (v.child? s).bind fun w => w.at? p

/-- Steps out of one value in order: items by number, members by a relation between
    their keys. -/
inductive Step.Precedes (key : String → String → Prop) : Step → Step → Prop where
  | item {i j : Nat} (h : i < j) : Precedes key (.item i) (.item j)
  | member {a b : String} (h : key a b) : Precedes key (.member a) (.member b)

/-- A place comes before another: where the ways to them part, the step of the first is
    to an earlier item or to the lesser key. -/
def Path.Before (p q : Path) : Prop := List.Lex (Step.Precedes (· < ·)) p q

/-- Every object inside a value is such that `P` holds of its members. -/
def EveryObject (P : Members → Prop) (v : Json) : Prop :=
  ∀ p members, v.at? p = some (.object members) → P members

/-- The keys of every object inside a value are related, each to the later ones. -/
def KeysPairwise (key : String → String → Prop) (v : Json) : Prop :=
  v.EveryObject fun members => (members.map Prod.fst).Pairwise key

/-- No object inside a value repeats a key. -/
def KeysDistinct (v : Json) : Prop := v.KeysPairwise (· ≠ ·)

/-- The members of every object inside a value stand in the order of their keys, and no
    key is repeated.  This is what a value looks like once it has been parsed. -/
def Canonical (v : Json) : Prop := v.KeysPairwise (· < ·)

section

variable {P : Members → Prop} {key : String → String → Prop} {v w : Json} {s : Step} {p q : Path}

theorem at?_append : v.at? (p ++ q) = (v.at? p).bind fun w => w.at? q := by
  induction p generalizing v with
  | nil => rfl
  | cons s p ih =>
    rw [List.cons_append, at?, at?]
    cases v.child? s with
    | none => rfl
    | some w => exact ih

theorem EveryObject.child (h : v.EveryObject P) (hs : v.child? s = some w) : w.EveryObject P := by
  intro p members hp
  apply h (s :: p) members
  rw [at?, hs]
  exact hp

theorem KeysPairwise.members {members : Members} (h : (Json.object members).KeysPairwise key) :
    (members.map Prod.fst).Pairwise key := h [] members rfl

theorem Canonical.keysDistinct (h : v.Canonical) : v.KeysDistinct :=
  fun p members hp => (h p members hp).imp ne_of_lt

theorem child?_leaf (h : v.isLeaf = true) : v.child? s = none := by
  cases v <;> cases s <;> first | rfl | cases h

theorem everyObject_leaf (h : v.isLeaf = true) : v.EveryObject P := by
  intro p members hp
  cases p with
  | nil =>
    cases hp
    cases h
  | cons s p =>
    rw [at?, child?_leaf h] at hp
    cases hp

theorem ne_of_lex (hkey : ∀ k, ¬key k k) (h : List.Lex (Step.Precedes key) p q) : p ≠ q := by
  induction h with
  | nil => exact nofun
  | cons _ ih => exact fun heq => ih (List.cons.inj heq).2
  | rel hstep =>
    intro heq
    cases heq
    cases hstep with
    | item hlt => exact Nat.lt_irrefl _ hlt
    | member h => exact hkey _ h

theorem Path.Before.ne (h : p.Before q) : p ≠ q := ne_of_lex lt_irrefl h

theorem Path.Before.asymm (h : p.Before q) : ¬q.Before p := by
  have hstep : ∀ {a b : Step}, a.Precedes (· < ·) b → ¬b.Precedes (· < ·) a := by
    intro a b hab hba
    cases hab with
    | item h => cases hba with | item h' => exact absurd h' (Nat.lt_asymm h)
    | member h => cases hba with | member h' => exact absurd h' (lt_asymm h)
  induction h with
  | nil => intro h; cases h
  | cons _ ih =>
    intro h
    cases h with
    | cons h => exact ih h
    | rel h => exact hstep h h
  | rel hab =>
    intro h
    cases h with
    | cons _ => exact hstep hab hab
    | rel h => exact hstep hab h

end

/-! ### Members by key -/

section

variable {k key : String} {value v : Json} {members : Members}

theorem mem_of_lookup (h : lookup k members = some v) : (k, v) ∈ members := by
  induction members with
  | nil => cases h
  | cons m rest ih =>
    rw [lookup] at h
    split at h
    · rename_i hk
      cases h
      rw [← hk]
      exact List.mem_cons_self
    · exact List.mem_cons_of_mem m (ih h)

theorem lookup_of_mem (hkeys : (members.map Prod.fst).Pairwise (· ≠ ·)) (h : (k, v) ∈ members) :
    lookup k members = some v := by
  induction members with
  | nil => cases h
  | cons m rest ih =>
    rw [List.map_cons, List.pairwise_cons] at hkeys
    rw [lookup]
    rcases List.mem_cons.mp h with rfl | hrest
    · rw [if_pos rfl]
    · rw [if_neg (hkeys.1 k (List.mem_map_of_mem (f := Prod.fst) hrest))]
      exact ih hkeys.2 hrest

theorem everyObject_of_members {P : Members → Prop} (hmembers : P members)
    (hinside : ∀ m ∈ members, m.2.EveryObject P) : (Json.object members).EveryObject P := by
  intro p inner hp
  cases p with
  | nil =>
    cases hp
    exact hmembers
  | cons s p =>
    cases s with
    | item i => cases hp
    | member k =>
      rw [at?, Option.bind_eq_some_iff] at hp
      obtain ⟨w, hw, hp⟩ := hp
      exact hinside _ (mem_of_lookup hw) p inner hp

theorem everyObject_of_items {P : Members → Prop} {items : List Json}
    (hinside : ∀ v ∈ items, v.EveryObject P) : (Json.list items).EveryObject P := by
  intro p inner hp
  cases p with
  | nil => cases hp
  | cons s p =>
    cases s with
    | member k => cases hp
    | item i =>
      rw [at?, Option.bind_eq_some_iff] at hp
      obtain ⟨w, hw, hp⟩ := hp
      exact hinside w (List.mem_of_getElem? hw) p inner hp

/-! ### The canonical form -/

theorem mem_keys_insertNew :
    k ∈ (insertNew key value members).map Prod.fst ↔ k = key ∨ k ∈ members.map Prod.fst := by
  induction members with
  | nil => simp [insertNew]
  | cons m rest ih =>
    rw [insertNew]
    split
    · simp
    · split
      · rename_i hk
        simp [hk]
      · rw [List.map_cons, List.mem_cons, ih, List.map_cons, List.mem_cons]
        tauto

theorem pairwise_keys_insertNew (h : (members.map Prod.fst).Pairwise (· < ·)) :
    ((insertNew key value members).map Prod.fst).Pairwise (· < ·) := by
  induction members with
  | nil => simp [insertNew]
  | cons m rest ih =>
    rw [List.map_cons, List.pairwise_cons] at h
    rw [insertNew]
    split
    · rename_i hlt
      rw [List.map_cons, List.map_cons, List.pairwise_cons, List.pairwise_cons]
      refine ⟨fun k hk => ?_, h⟩
      rcases List.mem_cons.mp hk with rfl | hk
      · exact hlt
      · exact lt_trans hlt (h.1 k hk)
    · rename_i hnot
      split
      · exact List.pairwise_cons.mpr h
      · rename_i hne
        rw [List.map_cons, List.pairwise_cons]
        refine ⟨fun k hk => ?_, ih h.2⟩
        rcases mem_keys_insertNew.mp hk with rfl | hk
        · exact lt_of_le_of_ne (not_lt.mp hnot) (Ne.symm hne)
        · exact h.1 k hk

theorem lookup_insertNew_self (h : key ∉ members.map Prod.fst) :
    lookup key (insertNew key value members) = some value := by
  induction members with
  | nil => simp [insertNew, lookup]
  | cons m rest ih =>
    rw [List.map_cons, List.mem_cons, not_or] at h
    rw [insertNew]
    split
    · rw [lookup, if_pos rfl]
    · rw [if_neg h.1, lookup, if_neg (Ne.symm h.1), ih h.2]

theorem lookup_insertNew_of_ne (h : k ≠ key) :
    lookup k (insertNew key value members) = lookup k members := by
  induction members with
  | nil => simp [insertNew, lookup, Ne.symm h]
  | cons m rest ih =>
    rw [insertNew]
    split
    · rw [lookup, if_neg (Ne.symm h)]
    · split
      · rfl
      · rw [lookup, lookup, ih]

theorem mem_of_mem_insertNew {m : String × Json} (h : m ∈ insertNew key value members) :
    m = (key, value) ∨ m ∈ members := by
  induction members with
  | nil => exact .inl (List.mem_singleton.mp h)
  | cons n rest ih =>
    rw [insertNew] at h
    split at h
    · exact List.mem_cons.mp h
    · split at h
      · exact .inr h
      · rcases List.mem_cons.mp h with rfl | h
        · exact .inr List.mem_cons_self
        · exact (ih h).imp id (List.mem_cons_of_mem n)

end

theorem canonicalList_eq_map (items : List Json) : canonicalList items = items.map canonical := by
  induction items with
  | nil => rfl
  | cons v rest ih => rw [canonicalList, ih, List.map_cons]

theorem canonical_leaf {v : Json} (h : v.isLeaf = true) : v.canonical = v := by
  cases v <;> first | rfl | cases h

theorem canonical_eq_object_iff {v : Json} {inner : Members} :
    v.canonical = .object inner ↔ ∃ ms, v = .object ms ∧ inner = canonicalMembers ms := by
  cases v <;> simp [canonical, eq_comm]

theorem canonicalMembers_cons (m : String × Json) (rest : Members) :
    canonicalMembers (m :: rest) = insertNew m.1 m.2.canonical (canonicalMembers rest) := by
  obtain ⟨key, v⟩ := m
  rfl

theorem pairwise_keys_canonicalMembers (members : Members) :
    ((canonicalMembers members).map Prod.fst).Pairwise (· < ·) := by
  induction members with
  | nil => exact .nil
  | cons m rest ih =>
    rw [canonicalMembers_cons]
    exact pairwise_keys_insertNew ih

theorem mem_keys_canonicalMembers {members : Members} {k : String} :
    k ∈ (canonicalMembers members).map Prod.fst ↔ k ∈ members.map Prod.fst := by
  induction members with
  | nil => rfl
  | cons m rest ih => rw [canonicalMembers_cons, mem_keys_insertNew, ih, List.map_cons, List.mem_cons]

theorem exists_of_mem_canonicalMembers {members : Members} {m : String × Json}
    (h : m ∈ canonicalMembers members) : ∃ n ∈ members, m = (n.1, n.2.canonical) := by
  induction members with
  | nil => cases h
  | cons n rest ih =>
    rw [canonicalMembers_cons] at h
    rcases mem_of_mem_insertNew h with rfl | h
    · exact ⟨n, List.mem_cons_self, rfl⟩
    · obtain ⟨o, ho, rfl⟩ := ih h
      exact ⟨o, List.mem_cons_of_mem n ho, rfl⟩

theorem lookup_canonicalMembers {members : Members}
    (hkeys : (members.map Prod.fst).Pairwise (· ≠ ·)) (k : String) :
    lookup k (canonicalMembers members) = (lookup k members).map canonical := by
  induction members with
  | nil => rfl
  | cons m rest ih =>
    rw [List.map_cons, List.pairwise_cons] at hkeys
    rw [canonicalMembers_cons, lookup]
    by_cases hk : m.1 = k
    · have hnew : m.1 ∉ (canonicalMembers rest).map Prod.fst := by
        rw [mem_keys_canonicalMembers]
        exact fun hmem => hkeys.1 m.1 hmem rfl
      rw [if_pos hk, ← hk, lookup_insertNew_self hnew]
      rfl
    · rw [if_neg hk, lookup_insertNew_of_ne (Ne.symm hk), ih hkeys.2]

/-- A value that has been made canonical is canonical. -/
theorem canonical_canonical (v : Json) : v.canonical.Canonical := by
  induction v using induct with
  | leaf v h =>
    rw [canonical_leaf h]
    exact everyObject_leaf h
  | list items ih =>
    rw [canonical, canonicalList_eq_map]
    refine everyObject_of_items fun w hw => ?_
    obtain ⟨v, hv, rfl⟩ := List.mem_map.mp hw
    exact ih v hv
  | object members ih =>
    rw [canonical]
    refine everyObject_of_members (pairwise_keys_canonicalMembers members) fun m hm => ?_
    obtain ⟨n, hn, rfl⟩ := exists_of_mem_canonicalMembers hm
    exact ih n hn

/-- Every document that is read is canonical. -/
theorem canonical_of_parse {s : String} {v : Json} (h : parse s = .ok v) : v.Canonical := by
  unfold parse at h
  split at h
  · cases h
    exact canonical_canonical _
  · cases h

theorem readText_eq_ok {raw : String} {v : Json} (h : readText raw = .ok v) :
    ∃ c, (Cursor.ofText raw).value maxDepth = .done v c ∧ c.ending = .ok () := by
  unfold readText at h
  split at h
  · cases h
  · rename_i w c hvalue
    split at h
    · rename_i u hending
      cases h
      exact ⟨c, hvalue, hending⟩
    · cases h

/-- An object is parsed from the members that are read. -/
theorem parse_eq_object {raw : String} {members : Members}
    (h : parse raw = .ok (.object members)) :
    ∃ ms, readText raw = .ok (.object ms) ∧ members = canonicalMembers ms := by
  unfold parse at h
  split at h
  · rename_i v hread
    obtain ⟨ms, rfl, rfl⟩ := canonical_eq_object_iff.mp (Except.ok.inj h)
    exact ⟨ms, hread, rfl⟩
  · cases h

theorem child?_canonical {v : Json} (h : v.KeysDistinct) (s : Step) :
    v.canonical.child? s = (v.child? s).map canonical := by
  cases v with
  | list items =>
    cases s with
    | item i => rw [canonical, canonicalList_eq_map, child?, child?, List.getElem?_map]
    | member k => rfl
  | object members =>
    cases s with
    | item i => rfl
    | member k => exact lookup_canonicalMembers h.members k
  | _ => cases s <;> rfl

end LoadOrder.Json
