/-
  LoadOrder/Proofs/Config/RoundTrip.lean
  ======================================
  **A saved configuration comes back, and a key that is missing costs one setting.**

  A configuration is saved as an object, its switches as an object inside and its engine as
  another one.  Keys may be taken out of the file by hand (`OptionalKey`), or may not be
  there yet.  Each of them stands for one setting, and without it that setting has its
  default while all others are as they were saved.

  What a text saves is followed from the whole object inwards: `form` names the fields of a
  configuration and what stands for each of them, and an engine has a relation of its own
  (`EngineChoice.Saves`), because it is read only once all its members are known.
-/
import LoadOrder.Proofs.Config.Saved
import LoadOrder.Proofs.Json.Saved
import Mathlib.Data.List.Permutation

namespace LoadOrder

open Json

/-! ### Switches -/

namespace Toggles

/-- The switches as fields. -/
def form : Form Toggles Toggle where
  Value _ := Bool
  key := Toggle.key
  ofKey key := Toggle.all.find? fun t => t.key = key
  get t r := r.get t
  set t on r := r.set t on
  default := {}
  Holds _ on w := w = .bool on
  ofKey_key t := by cases t <;> rfl
  get_set_self t on r := get_set_self r t on
  get_set_of_ne on r h := get_set_of_ne r h on
  ext {r r'} h := by
    obtain ⟨⟩ := r
    obtain ⟨⟩ := r'
    congr 1
    · exact h .hideMessageless
    · exact h .hideInactive
    · exact h .hideNotes
    · exact h .hideDoNotClean
    · exact h .hideAllMessages
    · exact h .hideVersions
    · exact h .hideCrcs
    · exact h .hideBashTags

theorem saves_toJson (t : Toggles) : form.Saves t t.toJson := by
  have hkeys : ((Toggle.all.map fun toggle => (toggle.key, Json.bool (t.get toggle))).map
      Prod.fst) = Toggle.all.map Toggle.key := by
    rw [List.map_map]
    rfl
  refine .intro ?_ (fun m hm => ?_) fun toggle h => ?_
  · rw [hkeys]
    decide
  · obtain ⟨toggle, -, rfl⟩ := List.mem_map.mp hm
    exact ⟨toggle, rfl, rfl⟩
  · rw [hkeys] at h
    exact absurd (List.mem_map_of_mem (by cases toggle <;> decide)) h

theorem agrees_read {inner : Option (Cursor → Read Json)} {t : Toggles} {v : Json}
    (h : form.Saves t v) :
    Cursor.Agrees (Cursor.valueWith (some (Cursor.valueWith inner))) v read t := by
  refine h.agrees "struct FilterSettings" fun toggle =>
    ⟨{ name := toggle.key
       read := fun t c => c.boolValue.map fun on => t.set toggle on },
      by cases toggle <;> rfl, ?_⟩
  rintro w rfl before
  exact (Cursor.agrees_boolValue (t.get toggle)).map fun on => before.set toggle on

end Toggles

/-! ### The engine -/

namespace EngineChoice

/-- The same engine with another patience, where it has one. -/
def withTimeout (secs : Nat) : EngineChoice → EngineChoice
  | .web url _ => .web url secs
  | e => e

/-- Whether the patience is a number of 64 bits. -/
def Fits : EngineChoice → Prop
  | .web _ timeoutSecs => timeoutSecs < 2 ^ 64
  | _ => True

/-- An object that saves an engine, its members in any order.  The patience may be missing
    where it is the default. -/
inductive Saves : EngineChoice → Json → Prop where
  | absent {ms : Members} (h : ms.Perm [("kind", .text "none")]) : Saves .absent (.object ms)
  | file {ms : Members} {path : String}
      (h : ms.Perm [("kind", .text "file"), ("path", .text path)]) :
      Saves (.file path) (.object ms)
  | web {ms : Members} {url : String} {secs : Nat} (hsecs : secs < 2 ^ 64)
      (h : ms.Perm [("kind", .text "http"), ("url", .text url), ("timeout_secs", .int secs)]) :
      Saves (.web url secs) (.object ms)
  | patient {ms : Members} {url : String}
      (h : ms.Perm [("kind", .text "http"), ("url", .text url)]) :
      Saves (.web url defaultTimeout) (.object ms)

variable {e : EngineChoice} {v w : Json}

theorem saves_toJson (h : e.Fits) : e.Saves e.toJson := by
  cases e with
  | absent => exact .absent (.refl _)
  | file path => exact .file (.refl _)
  | web url secs => exact .web h (.refl _)

/-- What is known of the members of a saved engine, whatever its kind. -/
theorem Saves.members (h : e.Saves v) : ∃ ms, v = .object ms ∧
    (ms.map Prod.fst).Pairwise (· ≠ ·) ∧ ∀ m ∈ ms, m.2.isLeaf = true ∧ m.2.PlainLeaf := by
  have hperm {ms model : Members} (h : ms.Perm model)
      (hkeys : (model.map Prod.fst).Pairwise (· ≠ ·))
      (hleaf : ∀ m ∈ model, m.2.isLeaf = true ∧ m.2.PlainLeaf) :
      (ms.map Prod.fst).Pairwise (· ≠ ·) ∧ ∀ m ∈ ms, m.2.isLeaf = true ∧ m.2.PlainLeaf :=
    ⟨((h.map Prod.fst).pairwise_iff fun h => h.symm).mpr hkeys,
      fun m hm => hleaf m (h.mem_iff.mp hm)⟩
  cases h with
  | absent h => exact ⟨_, rfl, hperm h (by simp) (by simp [isLeaf, PlainLeaf])⟩
  | file h => exact ⟨_, rfl, hperm h (by simp) (by simp [isLeaf, PlainLeaf])⟩
  | web hsecs h =>
    refine ⟨_, rfl, hperm h (by simp) ?_⟩
    simp [isLeaf, PlainLeaf, Cursor.maxNegative, Cursor.maxWhole]
    omega
  | patient h => exact ⟨_, rfl, hperm h (by simp) (by simp [isLeaf, PlainLeaf])⟩

theorem Saves.reordered (h : e.Saves v) (hw : v.Reordered w) : e.Saves w := by
  obtain ⟨ms, rfl, hkeys, hleaf⟩ := h.members
  obtain ⟨ns, rfl, -, hperm⟩ := hw.perm hkeys fun m hm => (hleaf m hm).1
  cases h with
  | absent h => exact .absent (hperm.trans h)
  | file h => exact .file (hperm.trans h)
  | web hsecs h => exact .web hsecs (hperm.trans h)
  | patient h => exact .patient (hperm.trans h)

/-- **Without its patience an engine has the default one.** -/
theorem Saves.removeTimeout (h : e.Saves v) :
    (e.withTimeout defaultTimeout).Saves (v.removeChild (.member "timeout_secs")) := by
  cases h with
  | absent h => exact .absent (h.filter _)
  | file h => exact .file (h.filter _)
  | web hsecs h => exact .patient (h.filter _)
  | patient h => exact .patient (h.filter _)

/-! #### Reading -/

theorem agrees_readKind {inner : Option (Cursor → Read Json)} {name : String} {k : Kind}
    (h : Kind.named? name = some k) :
    Cursor.Agrees (Cursor.valueWith inner) (.text name) readKind k := by
  intro c next hc
  rw [readKind, Cursor.agrees_textValue "variant identifier" name c next hc, Read.andThen]
  simp only [h]

/-- The members behind the kind are collected in their order. -/
theorem foldl_members (k : Kind) (ms before : Members) (found : Option Kind) :
    ms.foldl (fun v m => if m.1 = "kind" then (some k, v.2) else (v.1, v.2 ++ [m]))
        (found, before) =
      (if "kind" ∈ ms.map Prod.fst then some k else found,
        before ++ ms.filter fun m => m.1 ≠ "kind") := by
  induction ms generalizing before found with
  | nil => simp
  | cons m ms ih =>
    rw [List.foldl_cons]
    by_cases h : m.1 = "kind"
    · rw [if_pos h, ih]
      simp [h]
    · have hmem : ("kind" ∈ (m :: ms).map Prod.fst) = ("kind" ∈ ms.map Prod.fst) := by
        simp [Ne.symm h]
      rw [if_neg h, ih, List.append_assoc, List.filter_cons_of_pos (by simpa using h)]
      simp only [hmem, List.singleton_append]

/-- An engine is read from its kind and its other members. -/
theorem agrees_read_of_fields {inner : Option (Cursor → Read Json)} {ms : Members} {name : String}
    {k : Kind} (hkeys : (ms.map Prod.fst).Pairwise (· ≠ ·)) (hkind : ("kind", .text name) ∈ ms)
    (hname : Kind.named? name = some k)
    (hfields : ofFields k (ms.filter fun m => m.1 ≠ "kind") = .ok e) :
    Cursor.Agrees (Cursor.valueWith (some (Cursor.valueWith inner))) (.object ms)
      (read (Cursor.valueWith inner)) e := by
  intro c next h
  cases Cursor.readAs_of_valueWith h with
  | number hnumber => cases hnumber
  | object hinner hrest hms =>
    cases hinner
    -- the kind may come anywhere, so what stands for a field is not known before the end
    have hfield : ∀ m ∈ ms, Cursor.FieldAgrees (Cursor.valueWith inner)
        [{ name := "kind"
           read := fun (v : Option Kind × Members) c => (readKind c).map fun k => (some k, v.2) }]
        (fun key v c => (Cursor.valueWith inner c).map fun x => (v.1, v.2 ++ [(key, x)])) m
        (fun v => if m.1 = "kind" then (some k, v.2) else (v.1, v.2 ++ [m])) := by
      intro m hm v
      by_cases hkey : m.1 = "kind"
      · have hvalue : m.2 = .text name := by
          have hfound := lookup_of_mem hkeys hkind
          rw [← hkey, lookup_of_mem hkeys hm] at hfound
          exact Option.some.inj hfound
        simp only [hkey, hvalue, List.find?_cons, beq_self_eq_true, if_true]
        exact (agrees_readKind hname).map fun k => (some k, v.2)
      · simp only [List.find?_cons, beq_eq_false_iff_ne.mpr (Ne.symm hkey), List.find?_nil,
          if_neg hkey]
        exact (Cursor.agrees_item _ m.2).map fun x => (v.1, v.2 ++ [(m.1, x)])
    obtain ⟨close, hclose, hnext⟩ :=
      Cursor.objectFields_of_members hfield hkeys hms (none, [])
    rw [foldl_members, if_pos (List.mem_map_of_mem (f := Prod.fst) hkind), List.nil_append]
      at hclose
    unfold read
    simp only [hrest]
    rw [readFields, hclose]
    simp only [Read.andThen, Cursor.closeBehind, hnext, Read.map, hfields, decodedAt]

theorem decodeU64_int {secs : Nat} (h : secs < 2 ^ 64) : decodeU64 (.int secs) = .ok secs := by
  rw [decodeU64, decodeInt, if_pos (by omega)]
  rfl

/-- **A saved engine is read as it was.** -/
theorem Saves.agrees {inner : Option (Cursor → Read Json)} (h : e.Saves v) :
    Cursor.Agrees (Cursor.valueWith (some (Cursor.valueWith inner))) v
      (read (Cursor.valueWith inner)) e := by
  obtain ⟨ms, rfl, hkeys, -⟩ := h.members
  cases h with
  | absent h =>
    exact agrees_read_of_fields hkeys (h.mem_iff.mpr List.mem_cons_self) rfl rfl
  | @file _ path h =>
    have hfields := h.filter fun m => m.1 ≠ "kind"
    refine agrees_read_of_fields hkeys (h.mem_iff.mpr List.mem_cons_self) rfl ?_
    rw [List.perm_singleton.mp hfields]
    rfl
  | @web _ url secs hsecs h =>
    have hfields := h.filter fun m => m.1 ≠ "kind"
    refine agrees_read_of_fields hkeys (h.mem_iff.mpr List.mem_cons_self) rfl ?_
    -- the address and the patience may come in either order
    rcases List.pair_perm.mp hfields.symm with heq | heq
    · rw [heq]
      simp [ofFields, webFields, decodeText, decodeU64_int hsecs, Except.map]
    · rw [heq]
      simp [ofFields, webFields, decodeText, decodeU64_int hsecs, Except.map]
  | @patient _ url h =>
    have hfields := h.filter fun m => m.1 ≠ "kind"
    refine agrees_read_of_fields hkeys (h.mem_iff.mpr List.mem_cons_self) rfl ?_
    rw [List.perm_singleton.mp hfields]
    rfl

end EngineChoice

namespace Config

/-! ### Fields -/

/-- A field of the configuration. -/
inductive Field where
  | filters
  | phrase
  | engine
  | logLevel
  | lastSnapshot
deriving DecidableEq, Repr

namespace Field

/-- The fields in the order in which they are saved. -/
def all : List Field := [filters, phrase, engine, logLevel, lastSnapshot]

/-- The key under which a field is saved. -/
def key : Field → String
  | filters => "filters"
  | phrase => "do_not_clean_phrase"
  | engine => "engine"
  | logLevel => "log_level"
  | lastSnapshot => "last_snapshot"

/-- What a field holds. -/
def Value : Field → Type
  | filters => Toggles
  | phrase => String
  | engine => EngineChoice
  | logLevel => String
  | lastSnapshot => Option String

def get : (f : Field) → Config → f.Value
  | filters, c => c.toggles
  | phrase, c => c.phrase
  | engine, c => c.engine
  | logLevel, c => c.logLevel
  | lastSnapshot, c => c.lastSnapshot

def set : (f : Field) → f.Value → Config → Config
  | filters, x, c => { c with toggles := x }
  | phrase, x, c => { c with phrase := x }
  | engine, x, c => { c with engine := x }
  | logLevel, x, c => { c with logLevel := x }
  | lastSnapshot, x, c => { c with lastSnapshot := x }

/-- A path, or `null`. -/
def pathJson : Option String → Json
  | some path => .text path
  | none => .null

theorem isLeaf_pathJson (path : Option String) : (pathJson path).isLeaf = true := by
  cases path <;> rfl

theorem plainLeaf_pathJson (path : Option String) : (pathJson path).PlainLeaf := by
  cases path <;> trivial

/-- The values that stand for a field. -/
def Holds : (f : Field) → f.Value → Json → Prop
  | filters, x, w => Toggles.form.Saves x w
  | phrase, x, w => w = .text x
  | engine, x, w => EngineChoice.Saves x w
  | logLevel, x, w => w = .text x
  | lastSnapshot, x, w => w = pathJson x

end Field

/-- The configuration as its fields. -/
def form : Form Config Field where
  Value := Field.Value
  key := Field.key
  ofKey key := Field.all.find? fun f => f.key = key
  get := Field.get
  set := Field.set
  default := {}
  Holds := Field.Holds
  ofKey_key f := by cases f <;> rfl
  get_set_self f x c := by cases f <;> rfl
  get_set_of_ne {f g} x c h := by cases f <;> cases g <;> first | rfl | exact absurd rfl h
  ext {c c'} h := by
    obtain ⟨⟩ := c
    obtain ⟨⟩ := c'
    congr 1
    · exact h .filters
    · exact h .phrase
    · exact h .engine
    · exact h .logLevel
    · exact h .lastSnapshot

variable {c : Config} {v w : Json}

theorem agrees_textOrNull {inner : Option (Cursor → Read Json)} (wanted : String)
    (path : Option String) : Cursor.Agrees (Cursor.valueWith inner) (Field.pathJson path)
      (Cursor.textOrNull wanted) path := by
  cases path with
  | none => exact Cursor.agrees_textOrNull_null wanted
  | some path => exact Cursor.agrees_textOrNull_text wanted path

theorem saves_toJson (h : c.engine.Fits) : form.Saves c c.toJson := by
  refine .intro (by simp) ?_ fun f hf => absurd ?_ hf
  · simp only [List.forall_mem_cons]
    exact ⟨⟨.filters, rfl, c.toggles.saves_toJson⟩, ⟨.phrase, rfl, rfl⟩,
      ⟨.engine, rfl, EngineChoice.saves_toJson h⟩, ⟨.logLevel, rfl, rfl⟩,
      ⟨.lastSnapshot, rfl, rfl⟩, nofun⟩
  · cases f <;> simp [form, Field.key]

theorem saves_reordered (h : form.Saves c v) (hw : v.Reordered w) : form.Saves c w := by
  refine h.reordered hw fun f x y hx hre => ?_
  cases f with
  | filters =>
    refine Form.Saves.reordered hx hre ?_
    rintro toggle _ _ rfl hre
    exact hre.leaf rfl
  | engine => exact EngineChoice.Saves.reordered hx hre
  | phrase =>
    obtain rfl := hx
    exact hre.leaf rfl
  | logLevel =>
    obtain rfl := hx
    exact hre.leaf rfl
  | lastSnapshot =>
    obtain rfl := hx
    exact hre.leaf (Field.isLeaf_pathJson _)

/-- **A saved configuration is read as it was.** -/
theorem agrees_read (h : form.Saves c v) : Cursor.Agrees (Cursor.value maxDepth) v read c := by
  have houter : Cursor.value maxDepth = Cursor.valueWith (some (Cursor.value 126)) :=
    Cursor.value_succ 126
  have hmiddle : Cursor.value 126 = Cursor.valueWith (some (Cursor.value 125)) :=
    Cursor.value_succ 125
  have hinner : Cursor.value 125 = Cursor.valueWith (some (Cursor.value 124)) :=
    Cursor.value_succ 124
  have hengine : (fun c : Cursor => c.value (maxDepth - 2)) =
      Cursor.valueWith (some (Cursor.value 124)) := Cursor.value_succ 124
  rw [houter, hmiddle, hinner]
  refine h.agrees "struct AppConfig" fun f => ?_
  cases f with
  | filters =>
    refine ⟨_, rfl, fun w hw before => ?_⟩
    exact (Toggles.agrees_read hw).map fun toggles => { before with toggles }
  | phrase =>
    refine ⟨_, rfl, fun w hw before => ?_⟩
    obtain rfl := hw
    exact (Cursor.agrees_textValue "a string" c.phrase).map fun phrase => { before with phrase }
  | engine =>
    refine ⟨_, rfl, fun w hw before => ?_⟩
    simp only [hengine]
    exact (EngineChoice.Saves.agrees hw).map fun engine => { before with engine }
  | logLevel =>
    refine ⟨_, rfl, fun w hw before => ?_⟩
    obtain rfl := hw
    exact (Cursor.agrees_textValue "a string" c.logLevel).map fun logLevel =>
      { before with logLevel }
  | lastSnapshot =>
    refine ⟨_, rfl, fun w hw before => ?_⟩
    obtain rfl := hw
    exact (agrees_textOrNull "path string" c.lastSnapshot).map fun lastSnapshot =>
      { before with lastSnapshot }

/-! ### Keys that may be missing -/

/-- A key that a saved configuration may be without: that of a field, of a switch, or of the
    patience of an engine. -/
inductive OptionalKey where
  | field (f : Field)
  | toggle (t : Toggle)
  | timeout
deriving DecidableEq, Repr

/-- Takes a key out of a saved configuration. -/
def remove (v : Json) : OptionalKey → Json
  | .field f => v.removeChild (.member f.key)
  | .toggle t => v.onChild (.member "filters") fun w => w.removeChild (.member t.key)
  | .timeout => v.onChild (.member "engine") fun w => w.removeChild (.member "timeout_secs")

/-- Gives the setting of a key its default. -/
def reset (c : Config) : OptionalKey → Config
  | .field .filters => { c with toggles := {} }
  | .field .phrase => { c with phrase := defaultPhrase }
  | .field .engine => { c with engine := .absent }
  | .field .logLevel => { c with logLevel := "info" }
  | .field .lastSnapshot => { c with lastSnapshot := none }
  | .toggle t => { c with toggles := c.toggles.set t false }
  | .timeout => { c with engine := c.engine.withTimeout defaultTimeout }

/-- A saved configuration without some keys. -/
def without (keys : List OptionalKey) (v : Json) : Json := keys.foldl remove v

/-- A configuration with the settings of some keys at their defaults. -/
def resetAll (keys : List OptionalKey) (c : Config) : Config := keys.foldl reset c

/-- One key less is one setting less. -/
theorem saves_remove (h : form.Saves c v) (k : OptionalKey) :
    form.Saves (c.reset k) (remove v k) := by
  cases k with
  | field f =>
    have hfield := Form.Saves.removeChild h f
    cases f <;> exact hfield
  | toggle t =>
    have hdefault : ({} : Toggles).set t false = {} := by cases t <;> rfl
    refine Form.Saves.onChild h .filters (f := fun toggles => toggles.set t false)
      (fun w hw => ?_) hdefault
    have hoff := Form.Saves.removeChild hw t
    cases t <;> exact hoff
  | timeout =>
    exact Form.Saves.onChild h .engine (f := EngineChoice.withTimeout defaultTimeout)
      (fun w hw => EngineChoice.Saves.removeTimeout hw) rfl

theorem saves_without (h : form.Saves c v) (keys : List OptionalKey) :
    form.Saves (resetAll keys c) (without keys v) := by
  induction keys generalizing c v with
  | nil => exact h
  | cons k keys ih => exact ih (saves_remove h k)

/-! ### Texts -/

theorem plain_of_saves (h : form.Saves c v) : v.Plain maxDepth := by
  refine Form.Saves.plain h fun f w hw => ?_
  cases f with
  | filters =>
    refine Form.Saves.plain hw fun t w hw => ?_
    obtain rfl := hw
    trivial
  | phrase =>
    obtain rfl := hw
    trivial
  | engine =>
    obtain ⟨ms, rfl, -, hleaf⟩ := EngineChoice.Saves.members hw
    exact fun m hm => plain_of_leaf (hleaf m hm).1 (hleaf m hm).2
  | logLevel =>
    obtain rfl := hw
    trivial
  | lastSnapshot =>
    obtain rfl := hw
    exact plain_of_leaf (Field.isLeaf_pathJson _) (Field.plainLeaf_pathJson _)

theorem keysDistinct_of_saves (h : form.Saves c v) : v.KeysDistinct := by
  refine Form.Saves.keysDistinct h fun f w hw => ?_
  cases f with
  | filters =>
    refine Form.Saves.keysDistinct hw fun t w hw => ?_
    obtain rfl := hw
    exact everyObject_leaf rfl
  | phrase =>
    obtain rfl := hw
    exact everyObject_leaf rfl
  | engine =>
    obtain ⟨ms, rfl, hkeys, hleaf⟩ := EngineChoice.Saves.members hw
    exact everyObject_of_members hkeys fun m hm => everyObject_leaf (hleaf m hm).1
  | logLevel =>
    obtain rfl := hw
    exact everyObject_leaf rfl
  | lastSnapshot =>
    obtain rfl := hw
    exact everyObject_leaf (Field.isLeaf_pathJson _)

/-- A text of a value, with the members of its objects in some order. -/
def IsTextOf (v : Json) (raw : String) : Prop := ∃ w, readText raw = .ok w ∧ v.Reordered w

theorem isTextOf_wide (h : form.Saves c v) : IsTextOf v v.wide :=
  ⟨v, readText_wide (plain_of_saves h), .refl (keysDistinct_of_saves h)⟩

theorem ofText_of_saves {raw : String} (h : form.Saves c v) (hraw : IsTextOf v raw) :
    ofText raw = .ok c := by
  obtain ⟨w, hw, hre⟩ := hraw
  rw [ofText, parse, Cursor.readRecord_of_agrees (agrees_read (saves_reordered h hre)) hw]

theorem readText_text (h : c.engine.Fits) : readText c.text = .ok c.toJson :=
  readText_wide (plain_of_saves (saves_toJson h))

theorem ofText_text (h : c.engine.Fits) : ofText c.text = .ok c :=
  ofText_of_saves (saves_toJson h) (isTextOf_wide (saves_toJson h))

/-- A folder that no file stands in the way of can be saved into. -/
theorem exists_save {s : Store} {folder : List String} (husable : s.Usable folder)
    (hplace : s.node? (folder ++ [configFile]) ≠ some .folder) (c : Config) :
    ∃ saved, c.save s folder = .ok saved := by
  obtain ⟨made, hmade, hgrows, -⟩ := makeFolder_of_usable husable
  have hsame := hgrows.node?_file configFile
  refine ⟨made.put (folder ++ [configFile]) (.text c.text), ?_⟩
  simp only [save, hmade, writeText_of_ne_folder (hsame ▸ hplace)]

/-- **What was saved comes back, and without some of its keys all but their settings does.** -/
theorem load_saved_without {c : Config} (hfits : c.engine.Fits) (s : Store)
    (folder : List String) :
    (s.Usable folder → s.node? (folder ++ [configFile]) ≠ some .folder →
      ∃ saved, c.save s folder = .ok saved) ∧
    ∀ saved, c.save s folder = .ok saved →
      (∃ raw, saved.node? (folder ++ [configFile]) = some (.text raw) ∧ IsTextOf c.toJson raw) ∧
      loadOrCreate saved folder = (saved, .ok c) ∧
      ∀ keys, (∃ raw, IsTextOf (without keys c.toJson) raw) ∧
        ∀ raw, IsTextOf (without keys c.toJson) raw →
          let edited := saved.put (folder ++ [configFile]) (.text raw)
          loadOrCreate edited folder = (edited, .ok (resetAll keys c)) := by
  have hsaves := saves_toJson hfits
  refine ⟨fun husable hplace => exists_save husable hplace c, fun saved hsaved => ?_⟩
  obtain ⟨hfolders, htext⟩ := of_save_eq_ok hsaved
  refine ⟨⟨c.text, htext, isTextOf_wide hsaves⟩, ?_, fun keys => ?_⟩
  · rw [loadOrCreate_of_text hfolders htext, ofText_text hfits]
  · have hwithout := saves_without hsaves keys
    refine ⟨⟨_, isTextOf_wide hwithout⟩, fun raw hraw => ?_⟩
    simp only [loadOrCreate_of_text (hfolders.put configFile _) (Store.node?_put_self _ _ _),
      ofText_of_saves hwithout hraw]

/-- An engine on the web is saved with its patience, and has the default one without it. -/
theorem load_saved_without_patience :
    let c : Config := { phrase := "dirty", engine := .web "https://engine" 5 }
    c.engine.Fits ∧ ∃ saved raw, c.save {} ["app"] = .ok saved ∧
      loadOrCreate saved ["app"] = (saved, .ok c) ∧
      (loadOrCreate (saved.put ["app", configFile] (.text raw)) ["app"]).2 =
        .ok { engine := .web "https://engine" 30 } := by
  intro c
  have hfits : c.engine.Fits := show 5 < 2 ^ 64 by decide
  obtain ⟨hsave, hload⟩ := load_saved_without hfits {} ["app"]
  obtain ⟨saved, hsaved⟩ := hsave (Store.usable_empty _) (by decide)
  obtain ⟨-, hsame, hwithout⟩ := hload saved hsaved
  obtain ⟨⟨raw, hraw⟩, hreset⟩ := hwithout [.field .phrase, .timeout]
  exact ⟨hfits, saved, raw, hsaved, hsame, congrArg Prod.snd (hreset raw hraw)⟩

end Config

end LoadOrder
