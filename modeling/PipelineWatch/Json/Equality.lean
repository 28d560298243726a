import PipelineWatch.Json.Basic

/-!
Equality of documents is decidable. Two documents are equal when they are the
same tree, the order of members and repeated keys included; `normalize` comes
first where those are not to matter.
-/
namespace PipelineWatch.Json

mutual

/-- Whether two documents are the same tree. -/
def same : Json → Json → Bool
  | .null, .null => true
  | .bool a, .bool b => a == b
  | .integer m, .integer n => m == n
  | .float x, .float y => x == y
  | .text s, .text t => s == t
  | .array vs, .array ws => sameItems vs ws
  | .object ms, .object ns => sameMembers ms ns
  | _, _ => false

/-- `same` on each item. -/
def sameItems : List Json → List Json → Bool
  | [], [] => true
  | v :: vs, w :: ws => same v w && sameItems vs ws
  | _, _ => false

/-- `same` on each member, keys included. -/
def sameMembers : Members → Members → Bool
  | [], [] => true
  | (k, v) :: ms, (l, w) :: ns => k == l && same v w && sameMembers ms ns
  | _, _ => false

end

mutual

theorem same_eq_true_iff : ∀ v w : Json, same v w = true ↔ v = w
  | .null, w => by cases w <;> simp [same]
  | .bool _, w => by cases w <;> simp [same]
  | .integer _, w => by cases w <;> simp [same]
  | .float _, w => by cases w <;> simp [same]
  | .text _, w => by cases w <;> simp [same]
  | .array vs, w => by cases w <;> simp [same, sameItems_eq_true_iff vs]
  | .object ms, w => by cases w <;> simp [same, sameMembers_eq_true_iff ms]

theorem sameItems_eq_true_iff : ∀ vs ws : List Json, sameItems vs ws = true ↔ vs = ws
  | [], ws => by cases ws <;> simp [sameItems]
  | v :: vs, ws => by
    cases ws <;> simp [sameItems, same_eq_true_iff v, sameItems_eq_true_iff vs]

theorem sameMembers_eq_true_iff : ∀ ms ns : Members, sameMembers ms ns = true ↔ ms = ns
  | [], ns => by cases ns <;> simp [sameMembers]
  | (k, v) :: ms, ns => by
    cases ns with
    | nil => simp [sameMembers]
    | cons n ns =>
      obtain ⟨l, w⟩ := n
      simp [sameMembers, same_eq_true_iff v, sameMembers_eq_true_iff ms, and_assoc]

end

instance : DecidableEq Json := fun v w =>
  decidable_of_iff (same v w = true) (same_eq_true_iff v w)

end PipelineWatch.Json
