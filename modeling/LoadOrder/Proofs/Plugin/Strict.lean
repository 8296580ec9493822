/-
  LoadOrder/Proofs/Plugin/Strict.lean
  ===================================
  **Which fields can make a plugin fail to decode, and how.**

  Twelve fields of a plugin are strict (`strictFields`).  Each holds a value of its kind
  (`FieldKind.Holds`), is `null` or is missing; anything else is a misfit.  A plugin fails
  to decode if and only if it has a misfit, and the problem is that of the first one, in
  the order of the keys (`decode_eq_error_iff`).  The lists of tags and of messages are
  not among these fields: they never fail.
-/
import LoadOrder.Plugin.Decode

namespace LoadOrder

open Json

/-! ### Kinds of fields -/

/-- What a strict field is for. -/
inductive FieldKind where
  | text
  | truth
  | u32
  | i32
  | map
deriving DecidableEq, Repr

namespace FieldKind

/-- The values of a kind. -/
inductive Holds : FieldKind → Json → Prop where
  | text (s : String) : Holds .text (.text s)
  | truth (b : Bool) : Holds .truth (.bool b)
  | u32 {n : Int} (hlow : 0 ≤ n) (hhigh : n < 4294967296) : Holds .u32 (.int n)
  | i32 {n : Int} (hlow : -2147483648 ≤ n) (hhigh : n < 2147483648) : Holds .i32 (.int n)
  | map (members : Members) : Holds .map (.object members)

/-- What a problem says was wanted. -/
def wanted : FieldKind → String
  | .text => "a string"
  | .truth => "a boolean"
  | .u32 => "u32"
  | .i32 => "i32"
  | .map => "a map"

/-- The problem with a value of another kind.  A whole number where one is wanted is out
    of range. -/
def problem : FieldKind → Json → Problem
  | .u32, .int n => .wrongValue (.int n) "u32"
  | .i32, .int n => .wrongValue (.int n) "i32"
  | kind, v => .wrongType v.found kind.wanted

/-- A field is there and holds neither `null` nor a value of its kind. -/
inductive Misfit (kind : FieldKind) : Option Json → Problem → Prop where
  | mk {v : Json} (hnull : v ≠ .null) (hkind : ¬kind.Holds v) : Misfit kind (some v) (kind.problem v)

variable {kind : FieldKind} {v : Json} {p : Problem}

theorem not_misfit_none : ¬kind.Misfit none p := nofun

theorem not_misfit_null : ¬kind.Misfit (some .null) p := by
  intro h
  cases h with
  | mk hnull _ => exact hnull rfl

theorem misfit_some_iff (hnull : v ≠ .null) :
    kind.Misfit (some v) p ↔ ¬kind.Holds v ∧ p = kind.problem v := by
  constructor
  · intro h
    cases h with
    | mk _ hkind => exact ⟨hkind, rfl⟩
  · rintro ⟨hkind, rfl⟩
    exact .mk hnull hkind

/-! ### Decoders of a kind -/

/-- A decoder that takes the values of a kind and says what is wrong with any other. -/
structure Takes {α : Type} (kind : FieldKind) (decode : Json → Decoded α) : Prop where
  ok : ∀ {v}, kind.Holds v → ∃ a, decode v = .ok a
  error : ∀ {v}, ¬kind.Holds v → decode v = .error (kind.problem v)

theorem takes_text : Takes .text (decodeText "a string") where
  ok := by
    intro v hv
    cases hv with
    | text s => exact ⟨s, rfl⟩
  error := by
    intro v hv
    cases v with
    | text s => exact absurd (.text s) hv
    | _ => rfl

theorem takes_truth : Takes .truth decodeBool where
  ok := by
    intro v hv
    cases hv with
    | truth b => exact ⟨b, rfl⟩
  error := by
    intro v hv
    cases v with
    | bool b => exact absurd (.truth b) hv
    | _ => rfl

theorem takes_map : Takes .map decodeMembers where
  ok := by
    intro v hv
    cases hv with
    | map members => exact ⟨members, rfl⟩
  error := by
    intro v hv
    cases v with
    | object members => exact absurd (.map members) hv
    | _ => rfl

theorem takes_u32 : Takes .u32 decodeCrc where
  ok := by
    intro v hv
    cases hv with
    | u32 hlow hhigh =>
      rw [decodeCrc, decodeU32, decodeInt, if_pos ⟨hlow, by omega⟩]
      exact ⟨_, rfl⟩
  error := by
    intro v hv
    cases v with
    | int n =>
      have hrange : ¬(0 ≤ n ∧ n ≤ 4294967295) := fun h => hv (.u32 h.1 (by omega))
      rw [decodeCrc, decodeU32, decodeInt, if_neg hrange]
      rfl
    | _ => rfl

theorem takes_i32 : Takes .i32 decodeI32 where
  ok := by
    intro v hv
    cases hv with
    | i32 hlow hhigh =>
      rw [decodeI32, decodeInt, if_pos ⟨by omega, by omega⟩]
      exact ⟨_, rfl⟩
  error := by
    intro v hv
    cases v with
    | int n =>
      have hrange : ¬(-2147483648 ≤ n ∧ n ≤ 2147483647) :=
        fun h => hv (.i32 (by omega) (by omega))
      rw [decodeI32, decodeInt, if_neg hrange]
      rfl
    | _ => rfl

section

variable {α : Type} {decode : Json → Decoded α} {x : Option Json}

theorem Takes.eq_error_iff (h : kind.Takes decode) (hnull : v ≠ .null) :
    decode v = .error p ↔ kind.Misfit (some v) p := by
  rw [misfit_some_iff hnull]
  by_cases hv : kind.Holds v
  · obtain ⟨a, ha⟩ := h.ok hv
    simp [ha, hv]
  · simp [h.error hv, hv, eq_comm]

theorem orDefault_some {default : α} (hnull : v ≠ .null) :
    orDefault default decode (some v) = decode v := by
  cases v <;> first | rfl | exact absurd rfl hnull

theorem orNone_some (hnull : v ≠ .null) : orNone decode (some v) = (decode v).map some := by
  cases v <;> first | rfl | exact absurd rfl hnull

theorem Takes.orDefault_eq_error_iff (h : kind.Takes decode) {default : α} :
    orDefault default decode x = .error p ↔ kind.Misfit x p := by
  cases x with
  | none => simp [orDefault, not_misfit_none]
  | some v =>
    by_cases hnull : v = .null
    · subst hnull
      simp [orDefault, not_misfit_null]
    · rw [orDefault_some hnull, h.eq_error_iff hnull]

theorem Takes.orNone_eq_error_iff (h : kind.Takes decode) :
    orNone decode x = .error p ↔ kind.Misfit x p := by
  cases x with
  | none => simp [orNone, not_misfit_none]
  | some v =>
    by_cases hnull : v = .null
    · subst hnull
      simp [orNone, not_misfit_null]
    · rw [orNone_some hnull, ← h.eq_error_iff hnull]
      cases decode v <;> simp [Except.map]

end

end FieldKind

/-! ### The strict fields of a plugin -/

/-- The strict fields, in the order of their keys. -/
def strictFields : List (String × FieldKind) :=
  [("crc", .u32), ("isActive", .truth), ("isDirty", .truth), ("isEmpty", .truth),
    ("isGlobalPriority", .truth), ("isMaster", .truth), ("loadsBsa", .truth),
    ("masterlist", .map), ("modPriority", .i32), ("name", .text), ("userlist", .map),
    ("version", .text)]

/-- A field is a misfit among members. -/
def MisfitIn (members : Members) (field : String × FieldKind) (p : Problem) : Prop :=
  field.2.Misfit (lookup field.1 members) p

/-- The first misfit of some fields has a problem. -/
inductive FirstMisfit (members : Members) : List (String × FieldKind) → Problem → Prop where
  | here {field : String × FieldKind} {fields : List (String × FieldKind)} {p : Problem}
      (h : MisfitIn members field p) : FirstMisfit members (field :: fields) p
  | later {field : String × FieldKind} {fields : List (String × FieldKind)} {p : Problem}
      (hfits : ∀ q, ¬MisfitIn members field q) (h : FirstMisfit members fields p) :
      FirstMisfit members (field :: fields) p

section

variable {α β : Type} {members : Members} {field : String × FieldKind}
  {fields : List (String × FieldKind)} {x : Decoded α} {next : α → Decoded β}

theorem bind_eq_error_iff {p : Problem} :
    (x >>= next) = .error p ↔ x = .error p ∨ ∃ a, x = .ok a ∧ next a = .error p := by
  cases x <;> simp [bind, Except.bind]

theorem exists_of_bind_eq_ok {b : β} (h : (x >>= next) = .ok b) :
    ∃ a, x = .ok a ∧ next a = .ok b := by
  cases x with
  | error problem => cases h
  | ok a => exact ⟨a, rfl, h⟩

/-- Decoding one field and then others fails as the first misfit among them has it. -/
theorem bind_firstMisfit (hx : ∀ p, x = .error p ↔ MisfitIn members field p)
    (hnext : ∀ a p, next a = .error p ↔ FirstMisfit members fields p) (p : Problem) :
    (x >>= next) = .error p ↔ FirstMisfit members (field :: fields) p := by
  rw [bind_eq_error_iff]
  constructor
  · rintro (herr | ⟨a, ha, herr⟩)
    · exact .here ((hx p).mp herr)
    · refine .later (fun q hq => ?_) ((hnext a p).mp herr)
      rw [← hx, ha] at hq
      cases hq
  · intro h
    cases h with
    | here h => exact .inl ((hx p).mpr h)
    | later hfits h =>
      cases hok : x with
      | error q => exact absurd ((hx q).mp hok) (hfits q)
      | ok a => exact .inr ⟨a, rfl, (hnext a p).mpr h⟩

end

/-- **A plugin fails to decode exactly if it has a misfit,** and with the problem of the
    first one. -/
theorem PluginData.decode_eq_error_iff {members : Members} (p : Problem) :
    PluginData.decode members = .error p ↔ FirstMisfit members strictFields p := by
  have hdefault {α : Type} {key : String} {kind : FieldKind} {default : α}
      {decode : Json → Decoded α} (h : kind.Takes decode) (q : Problem) :
      orDefault default decode (lookup key members) = .error q ↔ MisfitIn members (key, kind) q :=
    h.orDefault_eq_error_iff
  have hnone {α : Type} {key : String} {kind : FieldKind} {decode : Json → Decoded α}
      (h : kind.Takes decode) (q : Problem) :
      orNone decode (lookup key members) = .error q ↔ MisfitIn members (key, kind) q :=
    h.orNone_eq_error_iff
  unfold PluginData.decode strictFields
  refine bind_firstMisfit (hdefault FieldKind.takes_u32) (fun crc => ?_) p
  refine bind_firstMisfit (hdefault FieldKind.takes_truth) fun active => ?_
  refine bind_firstMisfit (hdefault FieldKind.takes_truth) fun dirty => ?_
  refine bind_firstMisfit (hdefault FieldKind.takes_truth) fun empty => ?_
  refine bind_firstMisfit (hdefault FieldKind.takes_truth) fun globalPriority => ?_
  refine bind_firstMisfit (hdefault FieldKind.takes_truth) fun master => ?_
  refine bind_firstMisfit (hdefault FieldKind.takes_truth) fun loadsArchive => ?_
  refine bind_firstMisfit (hnone FieldKind.takes_map) fun masterlist => ?_
  refine bind_firstMisfit (hdefault FieldKind.takes_i32) fun priority => ?_
  refine bind_firstMisfit (hnone FieldKind.takes_text) fun name => ?_
  refine bind_firstMisfit (hnone FieldKind.takes_map) fun userlist => ?_
  refine bind_firstMisfit (hdefault FieldKind.takes_text) fun version q => ?_
  constructor
  · intro h
    cases h
  · intro h
    cases h

/-- Some strict field holds something else than it should. -/
def IllTyped (members : Members) : Prop := ∃ field ∈ strictFields, ∃ p, MisfitIn members field p

theorem exists_firstMisfit_iff {members : Members} {fields : List (String × FieldKind)} :
    (∃ p, FirstMisfit members fields p) ↔ ∃ field ∈ fields, ∃ p, MisfitIn members field p := by
  induction fields with
  | nil =>
    constructor
    · rintro ⟨p, h⟩
      cases h
    · rintro ⟨f, hf, -⟩
      cases hf
  | cons f rest ih =>
    simp only [List.mem_cons, exists_eq_or_imp, ← ih]
    by_cases hf : ∃ p, MisfitIn members f p
    · obtain ⟨p, hp⟩ := hf
      exact ⟨fun _ => .inl ⟨p, hp⟩, fun _ => ⟨p, .here hp⟩⟩
    · constructor
      · rintro ⟨p, h⟩
        cases h with
        | here h => exact .inl ⟨p, h⟩
        | later _ h => exact .inr ⟨p, h⟩
      · rintro (h | ⟨p, h⟩)
        · exact absurd h hf
        · exact ⟨p, .later (fun q hq => hf ⟨q, hq⟩) h⟩

/-- A plugin fails to decode exactly if some strict field is ill-typed. -/
theorem PluginData.exists_decode_eq_error_iff {members : Members} :
    (∃ p, PluginData.decode members = .error p) ↔ IllTyped members := by
  simp only [PluginData.decode_eq_error_iff]
  exact exists_firstMisfit_iff

end LoadOrder
