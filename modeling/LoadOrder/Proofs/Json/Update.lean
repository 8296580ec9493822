/-
  LoadOrder/Proofs/Json/Update.lean
  =================================
  **Changing a value in one place.**

  A part of a value is changed where it stands (`Json.update`) or taken out
  (`Json.removeChild`).  Everything beside that place stays as it was; what a record is
  read from are its fields and its length, so two records that agree in these but for
  some fields (`Json.AgreeBut`) differ in those fields only.
-/
import LoadOrder.Json.Decode
import LoadOrder.Proofs.Json.Path

namespace LoadOrder.Json

/-- Changes one part of a value. -/
def onChild : Json → Step → (Json → Json) → Json
  | .list items, .item i, f => .list (items.modify i f)
  | .object members, .member key, f =>
    .object (members.map fun m => if m.1 = key then (m.1, f m.2) else m)
  | v, _, _ => v

/-- Changes the part of a value at a place. -/
def update : Json → Path → (Json → Json) → Json
  | v, [], f => f v
  | v, s :: p, f => v.onChild s fun w => w.update p f

/-- Takes one part out of a value.  A member goes with its key, and so does the last item
    of a list; in the place of an earlier item `null` stands. -/
def removeChild : Json → Step → Json
  | .list items, .item i =>
    if i + 1 = items.length then .list items.dropLast else .list (items.set i .null)
  | .object members, .member key => .object (members.filter fun m => m.1 ≠ key)
  | v, _ => v

/-! ### What stays -/

/-- Two records agree in everything that is read of them, except in some fields. -/
structure AgreeBut (size : Nat) (fields : List Step) (v w : Json) : Prop where
  shape : (∃ members members', v = .object members ∧ w = .object members') ∨
    ∃ items items', v = .list items ∧ w = .list items'
  length : checkLength size v = checkLength size w
  child : ∀ t ∉ fields, v.child? t = w.child? t

section

variable {size : Nat} {fields : List Step} {v w : Json} {s : Step} {x : Json}

theorem AgreeBut.fieldOf {name : String} {i : Nat} (h : AgreeBut size fields v w)
    (hname : .member name ∉ fields) (hi : .item i ∉ fields) :
    fieldOf v name i = fieldOf w name i := by
  rcases h.shape with ⟨members, members', rfl, rfl⟩ | ⟨items, items', rfl, rfl⟩
  · exact h.child (.member name) hname
  · exact h.child (.item i) hi

end

end LoadOrder.Json
