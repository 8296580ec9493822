/-
  LoadOrder/Proofs/Json/Saved.lean
  ================================
  **Records that are saved as objects, with a key for each field.**

  A record is saved as an object if every member holds one of its fields, and every field
  whose key does not come has its default (`Form.Saves`).  To take a key out of the object
  is then to reset that field (`Form.Saves.removeChild`), and to change a member is to
  change the field (`Form.Saves.onChild`); the order of the members does not matter
  (`Form.Saves.reordered`).  Such an object is read as the record that it saves
  (`Form.Saves.agrees`).
-/
import LoadOrder.Proofs.Json.Printed
import LoadOrder.Proofs.Json.Record
import LoadOrder.Proofs.Json.Update
import Mathlib.Data.List.Nodup

namespace LoadOrder.Json

/-! ### The order of members -/

/-- The second value is the first one with the members of its objects in some order. -/
def Reordered (v w : Json) : Prop := w.KeysDistinct ∧ w.canonical = v.canonical

section

variable {v w : Json} {members : Members}

theorem Reordered.refl (h : v.KeysDistinct) : v.Reordered v := ⟨h, rfl⟩

theorem Reordered.leaf (h : v.Reordered w) (hleaf : v.isLeaf = true) : w = v := by
  have heq := h.2.trans (canonical_leaf hleaf)
  cases w with
  | list items =>
    rw [← heq] at hleaf
    cases hleaf
  | object members =>
    rw [← heq] at hleaf
    cases hleaf
  | _ => exact heq

/-- Each member of the reordered object is a member of the first one, reordered. -/
theorem Reordered.object (h : (Json.object members).Reordered w)
    (hkeys : (members.map Prod.fst).Pairwise (· ≠ ·)) :
    ∃ ms, w = .object ms ∧ (ms.map Prod.fst).Pairwise (· ≠ ·) ∧
      (∀ k, k ∈ ms.map Prod.fst ↔ k ∈ members.map Prod.fst) ∧
      ∀ m ∈ ms, ∃ x, (m.1, x) ∈ members ∧ x.Reordered m.2 := by
  obtain ⟨hdistinct, heq⟩ := h
  cases w with
  | object ms =>
    have hms := hdistinct.members
    have hsame : canonicalMembers ms = canonicalMembers members := Json.object.inj heq
    refine ⟨ms, rfl, hms, fun k => ?_, fun m hm => ?_⟩
    · rw [← mem_keys_canonicalMembers, hsame, mem_keys_canonicalMembers]
    · have hfound : lookup m.1 ms = some m.2 := lookup_of_mem hms hm
      have hboth := lookup_canonicalMembers hms m.1
      rw [hsame, lookup_canonicalMembers hkeys, hfound, Option.map_some,
        Option.map_eq_some_iff] at hboth
      obtain ⟨x, hx, hcanonical⟩ := hboth
      exact ⟨x, mem_of_lookup hx, EveryObject.child hdistinct (s := .member m.1) hfound,
        hcanonical.symm⟩
  | _ => simp only [canonical, reduceCtorEq] at heq

theorem nodup_of_keys (hkeys : (members.map Prod.fst).Pairwise (· ≠ ·)) : members.Nodup :=
  List.Nodup.of_map Prod.fst hkeys

/-- An object without lists and objects inside is reordered as a list of members. -/
theorem Reordered.perm (h : (Json.object members).Reordered w)
    (hkeys : (members.map Prod.fst).Pairwise (· ≠ ·)) (hleaf : ∀ m ∈ members, m.2.isLeaf = true) :
    ∃ ms, w = .object ms ∧ (ms.map Prod.fst).Pairwise (· ≠ ·) ∧ ms.Perm members := by
  obtain ⟨ms, rfl, hms, hsame, hinside⟩ := h.object hkeys
  have hsub : ∀ m ∈ ms, m ∈ members := by
    intro m hm
    obtain ⟨x, hx, hre⟩ := hinside m hm
    rwa [← hre.leaf (hleaf _ hx)] at hx
  refine ⟨ms, rfl, hms, (List.perm_ext_iff_of_nodup (nodup_of_keys hms)
    (nodup_of_keys hkeys)).mpr fun m => ⟨hsub m, fun hm => ?_⟩⟩
  obtain ⟨n, hn, hkey⟩ := List.mem_map.mp ((hsame m.1).mpr (List.mem_map_of_mem hm))
  have hvalue := lookup_of_mem hkeys (hkey ▸ hsub n hn : (m.1, n.2) ∈ members)
  rw [lookup_of_mem hkeys hm] at hvalue
  have hmn : m = n := Prod.ext hkey.symm (Option.some.inj hvalue)
  rwa [hmn]

end

/-! ### Fields -/

/-- The fields of a record: each has a key and a default, and can be looked up and set on its
    own.  `Holds` says of a field which values stand for it. -/
structure Form (σ ι : Type) where
  Value : ι → Type
  key : ι → String
  ofKey : String → Option ι
  get : (i : ι) → σ → Value i
  set : (i : ι) → Value i → σ → σ
  default : σ
  Holds : (i : ι) → Value i → Json → Prop
  ofKey_key : ∀ i, ofKey (key i) = some i
  get_set_self : ∀ i x r, get i (set i x r) = x
  get_set_of_ne : ∀ {i j} x r, i ≠ j → get j (set i x r) = get j r
  ext : ∀ {r r'}, (∀ i, get i r = get i r') → r = r'

namespace Form

variable {σ ι : Type} {form : Form σ ι} {r : σ} {v : Json}

theorem key_injective {i j : ι} (h : form.key i = form.key j) : i = j := by
  have hi := form.ofKey_key i
  rw [h, form.ofKey_key] at hi
  exact (Option.some.inj hi).symm

/-- An object that saves a record: it has no key twice, each of its members holds a field,
    and the fields without a member have their defaults. -/
inductive Saves (form : Form σ ι) (r : σ) : Json → Prop where
  | intro {members : Members} (distinct : (members.map Prod.fst).Pairwise (· ≠ ·))
      (held : ∀ m ∈ members, ∃ i, form.key i = m.1 ∧ form.Holds i (form.get i r) m.2)
      (missing : ∀ i, form.key i ∉ members.map Prod.fst →
        form.get i r = form.get i form.default) : Saves form r (.object members)

namespace Saves

/-- **Without a key the field has its default.** -/
theorem removeChild (h : form.Saves r v) (i : ι) :
    form.Saves (form.set i (form.get i form.default) r) (v.removeChild (.member (form.key i))) := by
  cases h with
  | @intro members distinct held missing =>
    refine .intro (distinct.sublist (List.filter_sublist.map Prod.fst)) (fun m hm => ?_)
      fun j hj => ?_
    · obtain ⟨hmem, hne⟩ := List.mem_filter.mp hm
      obtain ⟨j, hkey, hholds⟩ := held m hmem
      have hij : i ≠ j := by
        rintro rfl
        exact of_decide_eq_true hne hkey.symm
      exact ⟨j, hkey, by rwa [form.get_set_of_ne _ _ hij]⟩
    · by_cases hij : i = j
      · subst hij
        exact form.get_set_self _ _ _
      · rw [form.get_set_of_ne _ _ hij]
        refine missing j fun hmem => hj ?_
        obtain ⟨m, hm, hkey⟩ := List.mem_map.mp hmem
        refine List.mem_map.mpr ⟨m, List.mem_filter.mpr ⟨hm, decide_eq_true fun h => ?_⟩, hkey⟩
        exact hij (key_injective (h.symm.trans hkey))

/-- A change of a member changes its field, if it leaves the default as it is. -/
theorem onChild (h : form.Saves r v) (i : ι) {f : form.Value i → form.Value i} {g : Json → Json}
    (hholds : ∀ w, form.Holds i (form.get i r) w → form.Holds i (f (form.get i r)) (g w))
    (hdefault : f (form.get i form.default) = form.get i form.default) :
    form.Saves (form.set i (f (form.get i r)) r) (v.onChild (.member (form.key i)) g) := by
  cases h with
  | @intro members distinct held missing =>
    have hkeys : (members.map fun m => if m.1 = form.key i then (m.1, g m.2) else m).map Prod.fst =
        members.map Prod.fst := by
      rw [List.map_map]
      refine List.map_congr_left fun m _ => ?_
      rw [Function.comp_apply]
      split <;> rfl
    refine .intro (hkeys.symm ▸ distinct) (fun m hm => ?_) fun j hj => ?_
    · obtain ⟨n, hn, rfl⟩ := List.mem_map.mp hm
      obtain ⟨j, hkey, hheld⟩ := held n hn
      by_cases hij : i = j
      · subst hij
        rw [if_pos hkey.symm]
        exact ⟨i, hkey, by rw [form.get_set_self]; exact hholds _ hheld⟩
      · rw [if_neg fun h => hij (key_injective (h.symm.trans hkey.symm))]
        exact ⟨j, hkey, by rwa [form.get_set_of_ne _ _ hij]⟩
    · have hget := missing j (hkeys ▸ hj)
      by_cases hij : i = j
      · subst hij
        rw [form.get_set_self, hget, hdefault]
      · rwa [form.get_set_of_ne _ _ hij]

/-- **The order of the members does not matter.** -/
theorem reordered (h : form.Saves r v) {w : Json} (hw : v.Reordered w)
    (hholds : ∀ i {x y}, form.Holds i (form.get i r) x → x.Reordered y →
      form.Holds i (form.get i r) y) : form.Saves r w := by
  cases h with
  | intro distinct held missing =>
    obtain ⟨ms, rfl, hms, hsame, hinside⟩ := hw.object distinct
    refine .intro hms (fun m hm => ?_) fun i hi => missing i fun hmem => hi ((hsame _).mpr hmem)
    obtain ⟨x, hx, hre⟩ := hinside m hm
    obtain ⟨i, hkey, hheld⟩ := held _ hx
    exact ⟨i, hkey, hholds i hheld hre⟩

theorem plain (h : form.Saves r v) {depth : Nat}
    (hholds : ∀ i w, form.Holds i (form.get i r) w → w.Plain depth) : v.Plain (depth + 1) := by
  cases h with
  | intro distinct held missing =>
    intro m hm
    obtain ⟨i, -, hheld⟩ := held m hm
    exact hholds i m.2 hheld

theorem keysDistinct (h : form.Saves r v)
    (hholds : ∀ i w, form.Holds i (form.get i r) w → w.KeysDistinct) : v.KeysDistinct := by
  cases h with
  | intro distinct held missing =>
    refine everyObject_of_members distinct fun m hm => ?_
    obtain ⟨i, -, hheld⟩ := held m hm
    exact hholds i m.2 hheld

/-! ### Reading -/

/-- A member sets its field as it is in a record. -/
def change (form : Form σ ι) (r : σ) (m : String × Json) (v : σ) : σ :=
  match form.ofKey m.1 with
  | some i => form.set i (form.get i r) v
  | none => v

theorem change_of_key {m : String × Json} {i : ι} (h : form.key i = m.1) (v : σ) :
    change form r m v = form.set i (form.get i r) v := by
  rw [change, ← h, form.ofKey_key]

/-- A field is as in the record if one of the members has set it, and as before otherwise. -/
theorem get_foldl_change {ms : Members} (hms : ∀ m ∈ ms, ∃ i, form.key i = m.1) (v : σ) (j : ι) :
    (form.key j ∈ ms.map Prod.fst →
      form.get j (ms.foldl (fun v m => change form r m v) v) = form.get j r) ∧
    (form.key j ∉ ms.map Prod.fst →
      form.get j (ms.foldl (fun v m => change form r m v) v) = form.get j v) := by
  induction ms generalizing v with
  | nil => exact ⟨nofun, fun _ => rfl⟩
  | cons m ms ih =>
    obtain ⟨i, hkey⟩ := hms m List.mem_cons_self
    obtain ⟨hset, hkept⟩ := ih (fun n hn => hms n (List.mem_cons_of_mem m hn)) (change form r m v)
    rw [List.foldl_cons, List.map_cons, List.mem_cons]
    rw [change_of_key hkey] at *
    by_cases hrest : form.key j ∈ ms.map Prod.fst
    · exact ⟨fun _ => hset hrest, fun hnot => absurd (.inr hrest) hnot⟩
    · by_cases hij : i = j
      · subst hij
        exact ⟨fun _ => (hkept hrest).trans (form.get_set_self _ _ _),
          fun hnot => absurd (.inl hkey) hnot⟩
      · refine ⟨fun hmem => ?_, fun _ => (hkept hrest).trans (form.get_set_of_ne _ _ hij)⟩
        rcases hmem with h | h
        · exact absurd (key_injective (hkey.trans h.symm)) hij
        · exact absurd h hrest

/-- **An object is read as the record that it saves.** -/
theorem agrees {item : Cursor → Read Json} {fields : List (FieldReader σ)}
    (h : form.Saves r v) (wanted : String)
    (hread : ∀ i, ∃ reader, (fields.find? fun f => f.name == form.key i) = some reader ∧
      ∀ w, form.Holds i (form.get i r) w → ∀ before,
        Cursor.Agrees item w (reader.read before) (form.set i (form.get i r) before)) :
    Cursor.Agrees (Cursor.valueWith (some item)) v
      (fun c => c.record wanted (some fields) form.default) r := by
  cases h with
  | @intro members distinct held missing =>
    have hfields : ∀ m ∈ members,
        Cursor.FieldAgrees item fields Cursor.ignore m (change form r m) := by
      intro m hm before
      obtain ⟨i, hkey, hheld⟩ := held m hm
      obtain ⟨reader, hfind, hagrees⟩ := hread i
      rw [← hkey, hfind, change_of_key hkey]
      exact hagrees m.2 hheld before
    have hall : members.foldl (fun v m => change form r m v) form.default = r := by
      refine form.ext fun j => ?_
      obtain ⟨hset, hkept⟩ := get_foldl_change (r := r)
        (fun m hm => (held m hm).imp fun _ h => h.1) form.default j
      by_cases hj : form.key j ∈ members.map Prod.fst
      · exact hset hj
      · exact (hkept hj).trans (missing j hj).symm
    have hrecord := Cursor.agrees_record wanted hfields distinct form.default
    rwa [hall] at hrecord

end Saves

end Form

end LoadOrder.Json
