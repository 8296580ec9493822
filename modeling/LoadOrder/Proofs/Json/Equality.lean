/-
  LoadOrder/Proofs/Json/Equality.lean
  ===================================
  **Whether two values are the same can be computed.**

  A value holds lists of values, and lists of members that hold values, so its
  equality cannot be derived.  It is decided here by comparing two values piece by
  piece (`same`).  Members are compared as they stand: two objects with the same
  members in another order are not the same value before they are made canonical.
-/
import LoadOrder.Proofs.Json.Path

namespace LoadOrder.Json

mutual
def same : Json → Json → Bool
  | .null, .null => true
  | .bool a, .bool b => a == b
  | .int m, .int n => m == n
  | .real x, .real y => decide (x = y)
  | .text s, .text t => s == t
  | .list vs, .list ws => sameItems vs ws
  | .object ms, .object ns => sameMembers ms ns
  | _, _ => false
termination_by structural v => v

def sameItems : List Json → List Json → Bool
  | [], [] => true
  | v :: vs, w :: ws => same v w && sameItems vs ws
  | _, _ => false
termination_by structural vs => vs

def sameMembers : List (String × Json) → List (String × Json) → Bool
  | [], [] => true
  | m :: ms, n :: ns => sameMember m n && sameMembers ms ns
  | _, _ => false
termination_by structural ms => ms

def sameMember : String × Json → String × Json → Bool
  | (k, v), (l, w) => k == l && same v w
termination_by structural m => m
end

theorem sameItems_iff {vs : List Json} (h : ∀ v ∈ vs, ∀ w, same v w = true ↔ v = w)
    (ws : List Json) : sameItems vs ws = true ↔ vs = ws := by
  induction vs generalizing ws with
  | nil => cases ws <;> simp [sameItems]
  | cons v vs ih =>
    cases ws with
    | nil => simp [sameItems]
    | cons w ws =>
      have hrest := ih (fun x hx => h x (List.mem_cons_of_mem v hx)) ws
      simp [sameItems, h v List.mem_cons_self w, hrest]

theorem sameMembers_iff {ms : List (String × Json)}
    (h : ∀ m ∈ ms, ∀ w, same m.2 w = true ↔ m.2 = w) (ns : List (String × Json)) :
    sameMembers ms ns = true ↔ ms = ns := by
  induction ms generalizing ns with
  | nil => cases ns <;> simp [sameMembers]
  | cons m ms ih =>
    obtain ⟨k, v⟩ := m
    cases ns with
    | nil => simp [sameMembers]
    | cons n ns =>
      have hrest := ih (fun x hx => h x (List.mem_cons_of_mem (k, v) hx)) ns
      have hvalue := h (k, v) List.mem_cons_self n.2
      simp [sameMembers, sameMember, hvalue, hrest, Prod.ext_iff]

theorem same_iff (v w : Json) : same v w = true ↔ v = w := by
  induction v using induct generalizing w with
  | leaf v hv => cases v <;> cases w <;> simp_all [same, isLeaf]
  | list items ih => cases w <;> simp [same, sameItems_iff ih]
  | object members ih => cases w <;> simp [same, sameMembers_iff ih]

instance : DecidableEq Json := fun v w => decidable_of_iff _ (same_iff v w)

end LoadOrder.Json
