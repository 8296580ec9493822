/-
  LoadOrder/Proofs/Snapshot/Places.lean
  =====================================
  **Where the plugins of a document stand.**

  A plugin stands where there is a tagged object that no other tagged object holds
  (`Json.Outermost`).  The search for plugins walks through a document and lists what it
  finds; here it is done once more with the places (`Json.placesIn`), and the list turns
  out to have every such place, once, and nothing else (`mem_placesIn`).

  It is in the order of places if the document is canonical (`pairwise_placesIn`).
-/
import LoadOrder.Proofs.Json.Path
import LoadOrder.Snapshot

namespace LoadOrder

open Json

/-! ### Tagged objects -/

/-- Members that make an object a plugin. -/
def Tagged (members : Members) : Prop := lookup "__type" members = some (.text "Plugin")

theorem isPluginObject_iff {members : Members} : isPluginObject members = true ↔ Tagged members := by
  unfold isPluginObject Tagged
  split
  · rename_i tag htag
    rw [htag, beq_iff_eq, Option.some.injEq, Json.text.injEq]
  · rename_i hnone
    constructor
    · intro h
      cases h
    · intro h
      exact absurd h (hnone "Plugin")

theorem tagged_canonicalMembers {members : Members}
    (hkeys : (members.map Prod.fst).Pairwise (· ≠ ·)) :
    Tagged (canonicalMembers members) ↔ Tagged members := by
  unfold Tagged
  rw [lookup_canonicalMembers hkeys]
  cases lookup "__type" members with
  | none => rfl
  | some v => cases v <;> simp [canonical]

namespace Json

/-- The place of a tagged object that is inside no other one. -/
inductive Outermost : Json → Path → Members → Prop where
  | here {members : Members} (h : Tagged members) : Outermost (.object members) [] members
  | item {items : List Json} {i : Nat} {w : Json} {p : Path} {members : Members}
      (hw : items[i]? = some w) (h : Outermost w p members) :
      Outermost (.list items) (.item i :: p) members
  | member {outer : Members} {key : String} {w : Json} {p : Path} {members : Members}
      (houter : ¬Tagged outer) (hw : lookup key outer = some w) (h : Outermost w p members) :
      Outermost (.object outer) (.member key :: p) members

section

variable {v : Json} {s : Step} {p : Path} {members : Members}

theorem outermost_nil_iff : v.Outermost [] members ↔ v = .object members ∧ Tagged members := by
  constructor
  · intro h
    cases h with
    | here h => exact ⟨rfl, h⟩
  · rintro ⟨rfl, h⟩
    exact .here h

theorem outermost_cons_iff :
    v.Outermost (s :: p) members ↔
      (∀ outer, v = .object outer → ¬Tagged outer) ∧
        ∃ w, v.child? s = some w ∧ w.Outermost p members := by
  constructor
  · intro h
    cases h with
    | item hw h =>
      refine ⟨fun outer heq => ?_, _, hw, h⟩
      cases heq
    | member houter hw h =>
      refine ⟨fun outer heq => ?_, _, hw, h⟩
      cases heq
      exact houter
  · rintro ⟨houter, w, hw, h⟩
    cases v with
    | list items =>
      cases s with
      | item i => exact .item hw h
      | member key => cases hw
    | object outer =>
      cases s with
      | item i => cases hw
      | member key => exact .member (houter outer rfl) hw h
    | _ => cases s <;> cases hw

theorem Outermost.at? (h : v.Outermost p members) : v.at? p = some (.object members) := by
  induction h with
  | here h => rfl
  | item hw _ ih => rw [Json.at?, child?, hw, Option.bind_some, ih]
  | member _ hw _ ih => rw [Json.at?, child?, hw, Option.bind_some, ih]

theorem Outermost.tagged (h : v.Outermost p members) : Tagged members := by
  induction h with
  | here h => exact h
  | item _ _ ih => exact ih
  | member _ _ _ ih => exact ih

/-- The canonical form has its plugins in the same places. -/
theorem outermost_canonical (hkeys : v.KeysDistinct) {inner : Members} :
    v.canonical.Outermost p inner ↔
      ∃ ms, v.Outermost p ms ∧ inner = canonicalMembers ms := by
  induction p generalizing v with
  | nil =>
    simp only [outermost_nil_iff, canonical_eq_object_iff]
    constructor
    · rintro ⟨⟨ms, rfl, rfl⟩, htag⟩
      exact ⟨ms, ⟨rfl, (tagged_canonicalMembers hkeys.members).mp htag⟩, rfl⟩
    · rintro ⟨ms, ⟨rfl, htag⟩, rfl⟩
      exact ⟨⟨ms, rfl, rfl⟩, (tagged_canonicalMembers hkeys.members).mpr htag⟩
  | cons s p ih =>
    simp only [outermost_cons_iff, canonical_eq_object_iff, child?_canonical hkeys,
      Option.map_eq_some_iff]
    constructor
    · rintro ⟨houter, _, ⟨w, hw, rfl⟩, h⟩
      obtain ⟨ms, hms, rfl⟩ := (ih (hkeys.child hw)).mp h
      refine ⟨ms, ⟨fun outer heq htag => ?_, w, hw, hms⟩, rfl⟩
      subst heq
      exact houter _ ⟨outer, rfl, rfl⟩ ((tagged_canonicalMembers hkeys.members).mpr htag)
    · rintro ⟨ms, ⟨houter, w, hw, h⟩, rfl⟩
      refine ⟨?_, _, ⟨w, hw, rfl⟩, (ih (hkeys.child hw)).mpr ⟨ms, h, rfl⟩⟩
      rintro _ ⟨outer, rfl, rfl⟩ htag
      exact houter outer rfl ((tagged_canonicalMembers hkeys.members).mp htag)

end

/-! ### The search for plugins -/

/-- A place under a step. -/
def under (s : Step) (place : Path × Members) : Path × Members := (s :: place.1, place.2)

mutual
/-- The outermost tagged objects of a value, in the order of the search, each with its
    place. -/
def placesIn : Json → List (Path × Members)
  | .list items => placesInItems 0 items
  | .object members =>
    if isPluginObject members then [([], members)] else placesInMembers members
  | _ => []
termination_by structural v => v

def placesInItems : Nat → List Json → List (Path × Members)
  | _, [] => []
  | i, v :: rest => (placesIn v).map (under (.item i)) ++ placesInItems (i + 1) rest
termination_by structural _ vs => vs

def placesInMembers : List (String × Json) → List (Path × Members)
  | [] => []
  | m :: rest => placesInMember m ++ placesInMembers rest
termination_by structural ms => ms

def placesInMember : String × Json → List (Path × Members)
  | (key, v) => (placesIn v).map (under (.member key))
termination_by structural m => m
end

theorem placesInItems_eq (i : Nat) (items : List Json) :
    placesInItems i items =
      (items.zipIdx i).flatMap fun x => (placesIn x.1).map (under (.item x.2)) := by
  induction items generalizing i with
  | nil => rfl
  | cons v rest ih => rw [placesInItems, ih, List.zipIdx_cons, List.flatMap_cons]

theorem placesInMembers_eq (members : Members) :
    placesInMembers members = members.flatMap fun m => (placesIn m.2).map (under (.member m.1)) := by
  induction members with
  | nil => rfl
  | cons m rest ih =>
    obtain ⟨key, v⟩ := m
    rw [placesInMembers, ih, List.flatMap_cons, placesInMember]

theorem taggedInList_eq (items : List Json) : taggedInList items = items.flatMap taggedIn := by
  induction items with
  | nil => rfl
  | cons v rest ih => rw [taggedInList, ih, List.flatMap_cons]

theorem taggedInMembers_eq (members : Members) :
    taggedInMembers members = members.flatMap fun m => taggedIn m.2 := by
  induction members with
  | nil => rfl
  | cons m rest ih =>
    obtain ⟨key, v⟩ := m
    rw [taggedInMembers, ih, List.flatMap_cons, taggedInMember]

theorem placesIn_leaf {v : Json} (h : v.isLeaf = true) : placesIn v = [] := by
  cases v <;> first | rfl | cases h

theorem taggedIn_leaf {v : Json} (h : v.isLeaf = true) : taggedIn v = [] := by
  cases v <;> first | rfl | cases h

theorem map_snd_under (s : Step) (places : List (Path × Members)) :
    (places.map (under s)).map Prod.snd = places.map Prod.snd := by
  rw [List.map_map]
  rfl

/-- Without the places, these are the objects that are found. -/
theorem map_snd_placesIn (v : Json) : (placesIn v).map Prod.snd = taggedIn v := by
  induction v using induct with
  | leaf v h => rw [placesIn_leaf h, taggedIn_leaf h, List.map_nil]
  | list items ih =>
    rw [placesIn, taggedIn, placesInItems_eq, taggedInList_eq, List.map_flatMap]
    conv_rhs => rw [← List.zipIdx_map_fst 0 items, List.flatMap_map]
    refine List.flatMap_congr fun x hx => ?_
    rw [map_snd_under]
    exact ih x.1 (List.mem_of_getElem? (List.mem_zipIdx_iff_getElem?.mp hx))
  | object members ih =>
    rw [placesIn, taggedIn]
    split
    · rfl
    · rw [placesInMembers_eq, taggedInMembers_eq, List.map_flatMap]
      refine List.flatMap_congr fun m hm => ?_
      rw [map_snd_under]
      exact ih m hm

theorem mem_map_under {s : Step} {places : List (Path × Members)} {p : Path} {members : Members} :
    (p, members) ∈ places.map (under s) ↔ ∃ q, p = s :: q ∧ (q, members) ∈ places := by
  rw [List.mem_map]
  constructor
  · rintro ⟨⟨q, ms⟩, hmem, heq⟩
    cases heq
    exact ⟨q, rfl, hmem⟩
  · rintro ⟨q, rfl, hmem⟩
    exact ⟨(q, members), hmem, rfl⟩

/-- **The search finds the plugins and nothing else.** -/
theorem mem_placesIn {v : Json} (hkeys : v.KeysDistinct) {p : Path} {members : Members} :
    (p, members) ∈ placesIn v ↔ v.Outermost p members := by
  induction v using induct generalizing p with
  | leaf v h =>
    rw [placesIn_leaf h]
    constructor
    · intro hmem
      cases hmem
    · intro hout
      cases hout <;> cases h
  | list items ih =>
    rw [placesIn, placesInItems_eq, List.mem_flatMap]
    constructor
    · rintro ⟨⟨w, i⟩, hx, hmem⟩
      have hw := List.mem_zipIdx_iff_getElem?.mp hx
      obtain ⟨q, rfl, hq⟩ := mem_map_under.mp hmem
      exact .item hw ((ih w (List.mem_of_getElem? hw) (hkeys.child (s := .item i) hw)).mp hq)
    · intro hout
      cases hout with
      | @item _ i _ _ _ hw h =>
        refine ⟨(_, _), List.mem_zipIdx_iff_getElem?.mpr hw, mem_map_under.mpr ⟨_, rfl, ?_⟩⟩
        exact (ih _ (List.mem_of_getElem? hw) (hkeys.child (s := .item i) hw)).mpr h
  | object outer ih =>
    rw [placesIn]
    split
    · rename_i htag
      rw [isPluginObject_iff] at htag
      rw [List.mem_singleton]
      constructor
      · intro heq
        cases heq
        exact .here htag
      · intro hout
        cases hout with
        | here => rfl
        | member houter => exact absurd htag houter
    · rename_i htag
      rw [isPluginObject_iff] at htag
      rw [placesInMembers_eq, List.mem_flatMap]
      constructor
      · rintro ⟨m, hm, hmem⟩
        have hw := lookup_of_mem hkeys.members hm
        obtain ⟨q, rfl, hq⟩ := mem_map_under.mp hmem
        exact .member htag hw ((ih m hm (hkeys.child (s := .member m.1) hw)).mp hq)
      · intro hout
        cases hout with
        | here h => exact absurd h htag
        | @member _ key _ _ _ _ hw h =>
          have hmem := mem_of_lookup hw
          refine ⟨_, hmem, mem_map_under.mpr ⟨_, rfl, ?_⟩⟩
          exact (ih _ hmem (hkeys.child (s := .member key) hw)).mpr h

/-- **The search goes from place to place in order,** with members taken in the order in
    which they stand. -/
theorem pairwise_placesIn {key : String → String → Prop} {v : Json} (hkeys : v.KeysDistinct)
    (h : v.KeysPairwise key) :
    (placesIn v).Pairwise fun a b => List.Lex (Step.Precedes key) a.1 b.1 := by
  have hunder : ∀ (s : Step) (w : Json),
      ((placesIn w).Pairwise fun a b => List.Lex (Step.Precedes key) a.1 b.1) →
      ((placesIn w).map (under s)).Pairwise fun a b => List.Lex (Step.Precedes key) a.1 b.1 :=
    fun s w hw => List.pairwise_map.mpr (hw.imp fun hlex => .cons hlex)
  have hpart : ∀ {s t : Step} {v w : Json}, s.Precedes key t →
      ∀ a ∈ (placesIn v).map (under s), ∀ b ∈ (placesIn w).map (under t),
        List.Lex (Step.Precedes key) a.1 b.1 := by
    intro s t v w hst a ha b hb
    obtain ⟨_, -, rfl⟩ := List.mem_map.mp ha
    obtain ⟨_, -, rfl⟩ := List.mem_map.mp hb
    exact .rel hst
  induction v using induct with
  | leaf v hleaf =>
    rw [placesIn_leaf hleaf]
    exact .nil
  | list items ih =>
    rw [placesIn, placesInItems_eq, List.pairwise_flatMap]
    constructor
    · intro x hx
      have hw := List.mem_zipIdx_iff_getElem?.mp hx
      exact hunder _ _ (ih x.1 (List.mem_of_getElem? hw) (hkeys.child (s := .item x.2) hw)
        (h.child (s := .item x.2) hw))
    · have hidx : (items.zipIdx 0).Pairwise fun a b => a.2 < b.2 := by
        rw [← List.pairwise_map, List.zipIdx_map_snd]
        exact List.pairwise_lt_range'
      exact hidx.imp fun hlt => hpart (.item hlt)
  | object members ih =>
    rw [placesIn]
    split
    · exact List.pairwise_singleton _ _
    · rw [placesInMembers_eq, List.pairwise_flatMap]
      constructor
      · intro m hm
        have hw := lookup_of_mem hkeys.members hm
        exact hunder _ _ (ih m hm (hkeys.child (s := .member m.1) hw)
          (h.child (s := .member m.1) hw))
      · exact (List.pairwise_map.mp h.members).imp fun hlt => hpart (.member hlt)

end Json

end LoadOrder
