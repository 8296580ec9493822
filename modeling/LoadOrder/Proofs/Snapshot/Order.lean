/-
  LoadOrder/Proofs/Snapshot/Order.lean
  ====================================
  **The order of the plugins, and the order in which they stand in the text.**

  The plugins of a document come in the order of their places: items by number, members
  by key.  In the text members stand in any order, so this is not always the order of the
  text (`not_inDocumentOrder_parse`).  It is exactly if in every object those members that
  hold plugins stand in the order of their keys (`Json.InKeyOrder`, `order_parse`); then
  reading on in the text and going on by key meet the plugins in one and the same order
  (`before_placesIn_iff`).
-/
import LoadOrder.Proofs.Json.Equality
import LoadOrder.Proofs.Json.Reprinted
import LoadOrder.Proofs.Snapshot.Layout
import LoadOrder.Proofs.Snapshot.Revival
import Mathlib.Data.List.Perm.Basic

namespace LoadOrder

open Json

namespace Json

/-! ### Members that hold plugins -/

/-- A value is a plugin or has one inside. -/
def HoldsPlugin (v : Json) : Prop := ∃ p members, v.Outermost p members

/-- No tagged object is inside another one. -/
def Unnested (v : Json) : Prop :=
  ∀ p q outer inner, v.at? p = some (.object outer) → Tagged outer →
    v.at? (p ++ q) = some (.object inner) → Tagged inner → q = []

/-- In every object those members that hold plugins stand in the order of their keys. -/
def InKeyOrder (v : Json) : Prop :=
  v.EveryObject fun members =>
    members.Pairwise fun m n => m.2.HoldsPlugin → n.2.HoldsPlugin → m.1 < n.1

theorem Unnested.child {v w : Json} {s : Step} (h : v.Unnested) (hs : v.child? s = some w) :
    w.Unnested := by
  have hat (p : Path) : v.at? (s :: p) = w.at? p := by rw [at?, hs, Option.bind_some]
  intro p q outer inner hp houter hq hinner
  exact h (s :: p) q outer inner ((hat p).trans hp) houter ((hat _).trans hq) hinner

/-- Tagged objects that hold single values only are not inside each other. -/
theorem unnested_of_flat {v : Json}
    (h : v.EveryObject fun members => Tagged members → ∀ m ∈ members, m.2.isLeaf = true) :
    v.Unnested := by
  intro p q outer inner hp houter hq _
  rw [at?_append, hp, Option.bind_some] at hq
  cases q with
  | nil => rfl
  | cons s q =>
    rw [at?, Option.bind_eq_some_iff] at hq
    obtain ⟨w, hw, hq⟩ := hq
    cases s with
    | item i => cases hw
    | member key =>
      have hleaf : w.isLeaf = true := h p outer hp houter _ (mem_of_lookup hw)
      cases q with
      | nil =>
        cases hq
        cases hleaf
      | cons s q =>
        rw [at?, child?_leaf hleaf] at hq
        cases hq

theorem holdsPlugin_iff {v : Json} (hkeys : v.KeysDistinct) : v.HoldsPlugin ↔ placesIn v ≠ [] := by
  constructor
  · rintro ⟨p, members, hout⟩ hnil
    rw [← mem_placesIn hkeys, hnil] at hout
    cases hout
  · intro hne
    obtain ⟨⟨p, members⟩, hmem⟩ := List.exists_mem_of_ne_nil _ hne
    exact ⟨p, members, (mem_placesIn hkeys).mp hmem⟩

/-- Inside a tagged object there is nothing to put in order. -/
theorem inKeyOrder_of_tagged {members : Members} (hkeys : (Json.object members).KeysDistinct)
    (hunnested : (Json.object members).Unnested) (htag : Tagged members) :
    (Json.object members).InKeyOrder := by
  intro p inner hp
  refine List.pairwise_of_forall_mem_list fun m hm n _ hplugin _ => ?_
  obtain ⟨q, deepest, hout⟩ := hplugin
  have hm' : (Json.object inner).child? (.member m.1) = some m.2 := lookup_of_mem (hkeys p inner hp) hm
  have hat : (Json.object members).at? (p ++ .member m.1 :: q) = some (.object deepest) := by
    rw [at?_append, hp, Option.bind_some, at?, hm', Option.bind_some, hout.at?]
  have hnil := hunnested [] _ members deepest rfl htag hat hout.tagged
  exact absurd hnil (List.append_ne_nil_of_right_ne_nil p (List.cons_ne_nil _ q))

theorem before_member_iff {a b : String} {p q : Path} (h : a ≠ b) :
    Path.Before (.member a :: p) (.member b :: q) ↔ a < b := by
  constructor
  · intro hbefore
    cases hbefore with
    | cons _ => exact absurd rfl h
    | rel hstep =>
      cases hstep with
      | member hlt => exact hlt
  · intro hlt
    exact .rel (.member hlt)

/-- The plugins of two members are in order exactly if their keys are, unless one of the
    members has none. -/
theorem before_members_iff {m n : String × Json} (hm : m.2.KeysDistinct) (hn : n.2.KeysDistinct)
    (hne : m.1 ≠ n.1) :
    (∀ a ∈ (placesIn m.2).map (under (.member m.1)), ∀ b ∈ (placesIn n.2).map (under (.member n.1)),
        Path.Before a.1 b.1) ↔
      (m.2.HoldsPlugin → n.2.HoldsPlugin → m.1 < n.1) := by
  rw [holdsPlugin_iff hm, holdsPlugin_iff hn]
  simp only [List.forall_mem_map, under, before_member_iff hne]
  constructor
  · intro h hm hn
    obtain ⟨a, ha⟩ := List.exists_mem_of_ne_nil _ hm
    obtain ⟨b, hb⟩ := List.exists_mem_of_ne_nil _ hn
    exact h a ha b hb
  · intro h a ha b hb
    exact h (List.ne_nil_of_mem ha) (List.ne_nil_of_mem hb)

theorem before_under_iff {s : Step} {places : List (Path × Members)} :
    (places.map (under s)).Pairwise (fun a b => a.1.Before b.1) ↔
      places.Pairwise fun a b => a.1.Before b.1 := by
  rw [List.pairwise_map]
  constructor
  · intro h
    refine h.imp fun hbefore => ?_
    cases hbefore with
    | cons hbefore => exact hbefore
    | rel hstep =>
      cases s with
      | item i =>
        cases hstep with
        | item hlt => exact absurd hlt (Nat.lt_irrefl i)
      | member key =>
        cases hstep with
        | member hlt => exact absurd hlt (lt_irrefl key)
  · intro h
    exact h.imp fun hbefore => .cons hbefore

/-- **The search meets the plugins in the order of their places exactly if members that
    hold plugins stand in the order of their keys.** -/
theorem before_placesIn_iff {v : Json} (hkeys : v.KeysDistinct) (hunnested : v.Unnested) :
    (placesIn v).Pairwise (fun a b => a.1.Before b.1) ↔ v.InKeyOrder := by
  induction v using induct with
  | leaf v hleaf =>
    rw [placesIn_leaf hleaf]
    exact ⟨fun _ => everyObject_leaf hleaf, fun _ => .nil⟩
  | list items ih =>
    have hchild {w : Json} {i : Nat} (hw : items[i]? = some w) :
        (placesIn w).Pairwise (fun a b => a.1.Before b.1) ↔ w.InKeyOrder :=
      ih w (List.mem_of_getElem? hw) (hkeys.child (s := .item i) hw)
        (hunnested.child (s := .item i) hw)
    rw [placesIn, placesInItems_eq, List.pairwise_flatMap]
    constructor
    · rintro ⟨hparts, -⟩
      refine everyObject_of_items fun w hw => ?_
      obtain ⟨i, hi⟩ := List.getElem?_of_mem hw
      exact (hchild hi).mp (before_under_iff.mp (hparts (w, i) (List.mem_zipIdx_iff_getElem?.mpr hi)))
    · intro h
      constructor
      · intro x hx
        have hw := List.mem_zipIdx_iff_getElem?.mp hx
        exact before_under_iff.mpr ((hchild hw).mpr (h.child (s := .item x.2) hw))
      · have hidx : (items.zipIdx 0).Pairwise fun a b => a.2 < b.2 := by
          rw [← List.pairwise_map, List.zipIdx_map_snd]
          exact List.pairwise_lt_range'
        refine hidx.imp fun hlt a ha b hb => ?_
        obtain ⟨_, -, rfl⟩ := List.mem_map.mp ha
        obtain ⟨_, -, rfl⟩ := List.mem_map.mp hb
        exact .rel (.item hlt)
  | object members ih =>
    have hlookup {m : String × Json} (hm : m ∈ members) :
        (Json.object members).child? (.member m.1) = some m.2 := lookup_of_mem hkeys.members hm
    have hchild {m : String × Json} (hm : m ∈ members) :
        (placesIn m.2).Pairwise (fun a b => a.1.Before b.1) ↔ m.2.InKeyOrder :=
      ih m hm (hkeys.child (hlookup hm)) (hunnested.child (hlookup hm))
    have hcross {m n : String × Json} (hm : m ∈ members) (hn : n ∈ members) (hne : m.1 ≠ n.1) :=
      before_members_iff (hkeys.child (hlookup hm)) (hkeys.child (hlookup hn)) hne
    have hne := List.pairwise_map.mp hkeys.members
    rw [placesIn]
    split
    · rename_i htag
      constructor
      · intro _
        exact inKeyOrder_of_tagged hkeys hunnested (isPluginObject_iff.mp htag)
      · intro _
        exact List.pairwise_singleton _ _
    · rw [placesInMembers_eq, List.pairwise_flatMap]
      constructor
      · rintro ⟨hparts, hpairs⟩
        refine everyObject_of_members ?_ fun m hm => (hchild hm).mp (before_under_iff.mp (hparts m hm))
        refine (hpairs.and hne).imp_of_mem fun hm hn h => ?_
        exact (hcross hm hn h.2).mp h.1
      · intro h
        constructor
        · intro m hm
          exact before_under_iff.mpr ((hchild hm).mpr (h.child (hlookup hm)))
        · refine ((h [] members rfl).and hne).imp_of_mem fun hm hn h => ?_
          exact (hcross hm hn h.2).mpr h.1

/-! ### The places of the canonical form -/

/-- What a place of a value is in its canonical form. -/
def canonicalPlace (place : Path × Members) : Path × Members := (place.1, canonicalMembers place.2)

/-- The canonical form has the places of a value, in another order. -/
theorem perm_placesIn_canonical {v : Json} (hkeys : v.KeysDistinct) :
    ((placesIn v).map canonicalPlace).Perm (placesIn v.canonical) := by
  have hcanonical := (canonical_canonical v).traversal
  have hleft : ((placesIn v).map canonicalPlace).Nodup := by
    refine List.pairwise_map.mpr ((pairwise_placesIn hkeys hkeys).imp fun hlex heq => ?_)
    exact ne_of_lex (fun _ h => h rfl) hlex (congrArg (fun place => place.1) heq)
  rw [List.perm_ext_iff_of_nodup hleft hcanonical.nodup]
  rintro ⟨p, inner⟩
  rw [hcanonical.complete, outermost_canonical hkeys, List.mem_map]
  constructor
  · rintro ⟨⟨q, ms⟩, hmem, heq⟩
    cases heq
    exact ⟨ms, (mem_placesIn hkeys).mp hmem, rfl⟩
  · rintro ⟨ms, hout, rfl⟩
    exact ⟨(p, ms), (mem_placesIn hkeys).mpr hout, rfl⟩

end Json

/-! ### The order of a snapshot -/

/-- The plugins come in the order in which their objects begin in the text. -/
def InDocumentOrder (raw : String) (plugins : List Plugin) : Prop :=
  ∃ offsets : List Nat, offsets.Pairwise (· < ·) ∧
    List.Forall₂ (fun offset p => ∃ members, Begins (raw.toList.drop offset) members ∧
      p.IsRecord (canonicalMembers members)) offsets plugins

/-- A plugin is that of the object at a place of a document, and this object begins in
    the text behind `offset` characters. -/
def StandsAt (raw : String) (v : Json) (offset : Nat) (place : Path) (p : Plugin) : Prop :=
  ∃ members, v.Outermost place members ∧ Begins (raw.toList.drop offset) members ∧
    p.IsRecord (canonicalMembers members)

section

variable {α β : Type}

theorem exists_zip_of_forall₂ {R : α → β → Prop} {l : List α} {l' : List β}
    (h : List.Forall₂ R l l') :
    ∃ pairs : List (α × β), pairs.map Prod.fst = l ∧ pairs.map Prod.snd = l' ∧
      ∀ pair ∈ pairs, R pair.1 pair.2 := by
  induction h with
  | nil => exact ⟨[], rfl, rfl, nofun⟩
  | cons hr _ ih =>
    obtain ⟨pairs, rfl, rfl, hpairs⟩ := ih
    exact ⟨(_, _) :: pairs, rfl, rfl, List.forall_mem_cons.mpr ⟨hr, hpairs⟩⟩

theorem exists_perm_of_map_perm {f : α → β} {l : List α} {l' : List β} (h : (l.map f).Perm l') :
    ∃ sorted : List α, sorted.Perm l ∧ sorted.map f = l' := by
  have hrel : List.Forall₂ (fun b a => b = f a) (l.map f) l := by
    rw [List.forall₂_map_left_iff, List.forall₂_same]
    exact fun _ _ => rfl
  obtain ⟨sorted, hsorted, hperm⟩ := List.perm_comp_forall₂ h.symm hrel
  rw [← List.forall₂_map_right_iff, List.forall₂_eq_eq_eq] at hsorted
  exact ⟨sorted, hperm, hsorted.symm⟩

end

theorem pluginsOf_of_parse {raw : String} {v : Json} {snapshot : Snapshot}
    (hread : readText raw = .ok v) (hparse : Snapshot.parse raw = .ok snapshot) :
    pluginsOf v.canonical = .ok snapshot.plugins := by
  have hjson : Json.parse raw = .ok v.canonical := by rw [Json.parse, hread]
  rw [Snapshot.parse, hjson] at hparse
  simp only [Snapshot.ofJson] at hparse
  cases hplugins : pluginsOf v.canonical with
  | error cause =>
    rw [hplugins] at hparse
    cases hparse
  | ok plugins =>
    rw [hplugins] at hparse
    cases hparse
    rfl

/-- **The order of the plugins.**  Each plugin stands at a place and begins at an offset
    of the text.  Every plugin of the document is among them, and they come in the order
    of their places.  That is the order in which they begin in the text exactly if members
    that hold plugins stand in the order of their keys. -/
theorem order_parse {raw : String} {v : Json} {snapshot : Snapshot}
    (hread : readText raw = .ok v) (hkeys : v.KeysDistinct) (hunnested : v.Unnested)
    (hparse : Snapshot.parse raw = .ok snapshot) :
    ∃ places : List (Nat × Path),
      List.Forall₂ (fun place p => StandsAt raw v place.1 place.2 p) places snapshot.plugins ∧
      (∀ p members, v.Outermost p members → p ∈ places.map Prod.snd) ∧
      (places.map Prod.snd).Pairwise Path.Before ∧
      ((places.map Prod.fst).Pairwise (· < ·) ↔ v.InKeyOrder) ∧
      (v.InKeyOrder → InDocumentOrder raw snapshot.plugins) := by
  -- `found` has the places in the order of the text, and `sorted` in that of the snapshot.
  obtain ⟨offsets, hoffsets, hbegins⟩ := exists_offsets_of_readText hread
  rw [← map_snd_placesIn, List.forall₂_map_right_iff] at hbegins
  obtain ⟨found, rfl, hfound, hbegins⟩ := exists_zip_of_forall₂ hbegins
  have hperm := perm_placesIn_canonical hkeys
  rw [← hfound, List.map_map] at hperm
  obtain ⟨sorted, hsorted, hmap⟩ := exists_perm_of_map_perm hperm
  have hplugins := pluginsOf_of_parse hread hparse
  rw [pluginsOf, pluginsOfTagged_eq_ok_iff, ← map_snd_placesIn, ← hmap, List.map_map,
    List.forall₂_map_left_iff] at hplugins
  have hstands : ∀ x ∈ sorted, v.Outermost x.2.1 x.2.2 ∧ Begins (raw.toList.drop x.1) x.2.2 := by
    intro x hx
    have hx := hsorted.mem_iff.mp hx
    refine ⟨(mem_placesIn hkeys).mp ?_, hbegins x hx⟩
    rw [← hfound]
    exact List.mem_map_of_mem hx
  have hbefore : sorted.Pairwise fun x y => x.2.1.Before y.2.1 := by
    have h := (canonical_canonical v).traversal.ordered
    rwa [← hmap, List.pairwise_map] at h
  have horder : sorted.Pairwise (fun x y => x.1 < y.1) ↔ v.InKeyOrder := by
    rw [← before_placesIn_iff hkeys hunnested, ← hfound, List.pairwise_map]
    rw [List.pairwise_map] at hoffsets
    constructor
    · intro h
      rwa [← hsorted.eq_of_pairwise (fun a b _ _ hab hba => absurd hba (Nat.lt_asymm hab)) h hoffsets]
    · intro h
      rwa [hsorted.eq_of_pairwise (fun a b _ _ hab hba => absurd hba hab.asymm) hbefore h]
  have hforall := (List.forall₂_and_left _ _).mpr ⟨hstands, hplugins⟩
  refine ⟨sorted.map fun x => (x.1, x.2.1), ?_, ?_, ?_, ?_, ?_⟩
  · rw [List.forall₂_map_left_iff]
    exact hforall.imp fun x p h => ⟨x.2.2, h.1.1, h.1.2, h.2⟩
  · intro p members hout
    rw [← mem_placesIn hkeys, ← hfound, List.mem_map] at hout
    obtain ⟨x, hx, heq⟩ := hout
    rw [List.map_map, List.mem_map]
    exact ⟨x, hsorted.mem_iff.mpr hx, congrArg Prod.fst heq⟩
  · rw [List.map_map, List.pairwise_map]
    exact hbefore
  · rw [List.map_map, List.pairwise_map]
    exact horder
  · intro hinorder
    refine ⟨sorted.map Prod.fst, List.pairwise_map.mpr (horder.mpr hinorder), ?_⟩
    rw [List.forall₂_map_left_iff]
    exact hforall.imp fun x p h => ⟨x.2.2, h.1.2, h.2⟩

/-! ### A document whose keys are not in order -/

/-- Where an object is written out, no other one begins. -/
theorem Begins.eq_of_printed {written members : Members} {depth : Nat} {rest : List Char}
    (hplain : (Json.object written).Plain depth) (hrest : Follows rest)
    (h : Begins (chars (.object written) ++ rest) members) : members = written := by
  obtain ⟨-, depth', place, next, hread⟩ := h
  -- each of the two readings is one at the greater of the depths
  have hmore := Cursor.value_mono (Nat.le_max_left depth' depth) _ _ _ hread
  obtain ⟨_, hprinted⟩ := compactLayout.reads_value (hplain.mono (Nat.le_max_right depth' depth)) 0
    [] rest place blanks_nil hrest
  rw [List.nil_append, hmore] at hprinted
  cases hprinted
  rfl

/-- Two plugins under keys that stand in the text against their order. -/
def swappedText : String :=
  "\x7b\"main\":\x7b\"__type\":\"Plugin\",\"name\":\"A.esm\"\x7d,"
    ++ "\"extra\":\x7b\"__type\":\"Plugin\",\"name\":\"B.esp\"\x7d\x7d"

def swappedPlugin (name : String) : Members := [("__type", .text "Plugin"), ("name", .text name)]

def swappedMembers : Members :=
  [("main", .object (swappedPlugin "A.esm")), ("extra", .object (swappedPlugin "B.esp"))]

theorem readText_swapped : readText swappedText = .ok (.object swappedMembers) := by decide +kernel

theorem parse_swapped : ∃ snapshot, Snapshot.parse swappedText = .ok snapshot ∧
    snapshot.plugins.map Plugin.name = ["B.esp", "A.esm"] := by
  have hnames : (Snapshot.parse swappedText).map (fun s => s.plugins.map Plugin.name) =
      .ok ["B.esp", "A.esm"] := by decide +kernel
  cases hparse : Snapshot.parse swappedText with
  | error cause =>
    rw [hparse] at hnames
    cases hnames
  | ok snapshot =>
    rw [hparse] at hnames
    exact ⟨snapshot, rfl, Except.ok.inj hnames⟩

theorem everyObject_swapped {P : Members → Prop} (hroot : P swappedMembers)
    (hplugin : ∀ name, P (swappedPlugin name)) : (Json.object swappedMembers).EveryObject P := by
  have hinside (name : String) : (Json.object (swappedPlugin name)).EveryObject P := by
    refine everyObject_of_members (hplugin name) ?_
    simp only [swappedPlugin, List.forall_mem_cons]
    exact ⟨everyObject_leaf rfl, everyObject_leaf rfl, nofun⟩
  refine everyObject_of_members hroot ?_
  simp only [swappedMembers, List.forall_mem_cons]
  exact ⟨hinside _, hinside _, nofun⟩

theorem keysDistinct_swapped : (Json.object swappedMembers).KeysDistinct :=
  everyObject_swapped (by simp [swappedMembers]) fun name => by simp [swappedPlugin]

theorem unnested_swapped : (Json.object swappedMembers).Unnested := by
  refine unnested_of_flat (everyObject_swapped ?_ fun name _ => ?_)
  · intro h
    cases h
  · simp [swappedPlugin, isLeaf]

/-- Its plugins stand at two places, whose order is not that of the text. -/
theorem order_parse_swapped : ∃ snapshot places,
    Snapshot.parse swappedText = .ok snapshot ∧ snapshot.plugins.map Plugin.name = ["B.esp", "A.esm"] ∧
      List.Forall₂ (fun place p => StandsAt swappedText (.object swappedMembers) place.1 place.2 p)
        places snapshot.plugins ∧
      ¬(places.map Prod.fst).Pairwise (· < ·) := by
  obtain ⟨snapshot, hparse, hnames⟩ := parse_swapped
  obtain ⟨places, hstands, -, -, hiff, -⟩ :=
    order_parse readText_swapped keysDistinct_swapped unnested_swapped hparse
  refine ⟨snapshot, places, hparse, hnames, hstands, fun hlt => ?_⟩
  have hinorder := hiff.mp hlt [] swappedMembers rfl
  have hplugin (name : String) : (Json.object (swappedPlugin name)).HoldsPlugin :=
    ⟨[], swappedPlugin name, .here rfl⟩
  have hkeys := List.rel_of_pairwise_cons hinorder List.mem_cons_self (hplugin _) (hplugin _)
  exact absurd hkeys (by decide)

theorem plain_swappedPlugin (name : String) : (Json.object (swappedPlugin name)).Plain 1 :=
  List.forall_mem_cons.mpr ⟨trivial, List.forall_mem_cons.mpr ⟨trivial, nofun⟩⟩

theorem plain_swappedMembers : (Json.object swappedMembers).Plain 2 :=
  List.forall_mem_cons.mpr ⟨plain_swappedPlugin _,
    List.forall_mem_cons.mpr ⟨plain_swappedPlugin _, nofun⟩⟩

/-- The objects of that text that have a name, and where they begin. -/
theorem begins_swapped {offset : Nat} {members : Members} {name : String}
    (h : Begins (swappedText.toList.drop offset) members)
    (hname : lookup "name" (canonicalMembers members) = some (.text name)) :
    (offset = 8 ∧ name = "A.esm") ∨ (offset = 51 ∧ name = "B.esp") := by
  have hoffset : offset ∈ [0, 8, 51] := by
    have hbraces : (List.range 86).filter
        (fun offset => (swappedText.toList.drop offset).head? == some '\x7b') = [0, 8, 51] := by
      decide +kernel
    have hlength : swappedText.toList.length = 86 := by decide +kernel
    rw [← hbraces, List.mem_filter, List.mem_range, beq_iff_eq]
    refine ⟨?_, h.1⟩
    by_contra hlarge
    have hbrace := h.1
    rw [List.drop_eq_nil_of_le (by omega)] at hbrace
    cases hbrace
  have hplugin (name' : String) :
      lookup "name" (canonicalMembers (swappedPlugin name')) = some (.text name') := by
    rw [lookup_canonicalMembers (by simp [swappedPlugin])]
    simp [swappedPlugin, lookup, canonical]
  simp only [List.mem_cons, List.not_mem_nil, or_false] at hoffset
  rcases hoffset with rfl | rfl | rfl
  · have htext : swappedText.toList.drop 0 = chars (.object swappedMembers) ++ [] := by
      decide +kernel
    rw [htext] at h
    rw [h.eq_of_printed plain_swappedMembers follows_nil] at hname
    have hnone : lookup "name" (canonicalMembers swappedMembers) = none := by decide +kernel
    cases hnone.symm.trans hname
  · have htext : swappedText.toList.drop 8 =
        chars (.object (swappedPlugin "A.esm")) ++ ',' :: swappedText.toList.drop 43 := by
      decide +kernel
    rw [htext] at h
    rw [h.eq_of_printed (plain_swappedPlugin _) (follows_cons rfl), hplugin] at hname
    cases hname
    exact .inl ⟨rfl, rfl⟩
  · have htext : swappedText.toList.drop 51 =
        chars (.object (swappedPlugin "B.esp")) ++ ['\x7d'] := by
      decide +kernel
    rw [htext] at h
    rw [h.eq_of_printed (plain_swappedPlugin _) (follows_cons rfl), hplugin] at hname
    cases hname
    exact .inr ⟨rfl, rfl⟩

/-- A document whose plugins do not come in the order of the text. -/
theorem not_inDocumentOrder_parse : ¬∀ raw v snapshot, readText raw = .ok v → v.KeysDistinct →
    v.Unnested → Snapshot.parse raw = .ok snapshot → InDocumentOrder raw snapshot.plugins := by
  intro h
  obtain ⟨snapshot, hparse, hnames⟩ := parse_swapped
  obtain ⟨offsets, hlt, hforall⟩ :=
    h _ _ snapshot readText_swapped keysDistinct_swapped unnested_swapped hparse
  have hplace : List.Forall₂ (fun offset name =>
      (offset = 8 ∧ name = "A.esm") ∨ (offset = 51 ∧ name = "B.esp")) offsets
      (snapshot.plugins.map Plugin.name) := by
    rw [List.forall₂_map_right_iff]
    refine hforall.imp fun offset p hp => ?_
    obtain ⟨members, hbegins, data, name, -, hname, -, rfl⟩ := hp
    exact begins_swapped hbegins hname
  rw [hnames] at hplace
  match offsets, hplace with
  | [first, second], .cons hfirst (.cons hsecond .nil) =>
    have hgrows := List.rel_of_pairwise_cons hlt List.mem_cons_self
    rcases hfirst with ⟨rfl, hname⟩ | ⟨rfl, -⟩
    · exact absurd hname (by decide)
    · rcases hsecond with ⟨rfl, -⟩ | ⟨rfl, hname⟩
      · omega
      · exact absurd hname (by decide)

end LoadOrder
