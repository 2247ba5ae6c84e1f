import MapLoom.Yaml.Value

set_option autoImplicit false

/-!
# Equal values

Whether two document values are the same tree can be computed. Unlike sameness as keys, the order of
a mapping's entries counts here.
-/
namespace MapLoom.Yaml.Value

def beq : Value → Value → Bool
  | .null, .null => true
  | .bool a, .bool b => a == b
  | .integer m, .integer n => m == n
  | .float x, .float y => x == y
  | .text s, .text t => s == t
  | .list xs, .list ys => beqItems xs ys
  | .map es, .map fs => beqEntries es fs
  | .tagged a v, .tagged b w => a == b && beq v w
  | _, _ => false
where
  beqItems : List Value → List Value → Bool
    | [], [] => true
    | x :: xs, y :: ys => beq x y && beqItems xs ys
    | _, _ => false
  beqEntries : List (Value × Value) → List (Value × Value) → Bool
    | [], [] => true
    | (k, v) :: es, (l, w) :: fs => beq k l && beq v w && beqEntries es fs
    | _, _ => false

mutual

theorem beq_eq_true_iff : ∀ v w : Value, beq v w = true ↔ v = w
  | .null, w => by cases w <;> simp [beq]
  | .bool _, w => by cases w <;> simp [beq]
  | .integer _, w => by cases w <;> simp [beq]
  | .float _, w => by cases w <;> simp [beq]
  | .text _, w => by cases w <;> simp [beq]
  | .list xs, w => by cases w <;> simp [beq, beqItems_eq_true_iff xs]
  | .map es, w => by cases w <;> simp [beq, beqEntries_eq_true_iff es]
  | .tagged _ v, w => by cases w <;> simp [beq, beq_eq_true_iff v]

theorem beqItems_eq_true_iff : ∀ xs ys : List Value, beq.beqItems xs ys = true ↔ xs = ys
  | [], ys => by cases ys <;> simp [beq.beqItems]
  | x :: xs, ys => by
    cases ys <;> simp [beq.beqItems, beq_eq_true_iff x, beqItems_eq_true_iff xs]

theorem beqEntries_eq_true_iff :
    ∀ es fs : List (Value × Value), beq.beqEntries es fs = true ↔ es = fs
  | [], fs => by cases fs <;> simp [beq.beqEntries]
  | (k, v) :: es, fs => by
    cases fs <;> simp [beq.beqEntries, Prod.ext_iff, beq_eq_true_iff k, beq_eq_true_iff v,
      beqEntries_eq_true_iff es]

end

instance : DecidableEq Value := fun v w => decidable_of_iff _ (beq_eq_true_iff v w)

end MapLoom.Yaml.Value
