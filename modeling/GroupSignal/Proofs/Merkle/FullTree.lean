import GroupSignal.Merkle.Tree
import Mathlib.Algebra.Order.Floor.Div
import Mathlib.Data.Nat.Bitwise

/-!
# The full tree over some leaves

The tree that a group stands for, with nothing cached: every leaf is there, the given ones first and
empty ones behind them, and every other node is the hash of its two children. The leaf at index `i`
stands below the node at position `i / 2 ^ height` of a height, so what is known of the leaves with
one quotient is known of that node.

## Main definitions

* `padded`: the leaves of a full tree
* `fullNode`: the node at a position of a height
* `fullChildren`, `fullStep`: the two nodes under a node, and the step from a node to its parent
* `fullPath`, `fullProof`: the steps above a leaf, and its proof
* `Collides`: two ordered pairs with one hash

## Main results

* `fullNode_congr`: a node is a function of the leaves below it
* `fullNode_of_ceilDiv_le`: a node with no given leaf below it is the root of an empty tree
* `fold_fullStep`: the step from a node leads to its parent
-/

namespace GroupSignal

/-- The leaves of a full tree: the given ones, and empty ones behind them. -/
def padded (depth : Nat) (leaves : List Scalar) : List Scalar :=
  leaves.rightpad (2 ^ depth) emptyLeaf

/-- The node at a position of a height in the full tree over some leaves. A leaf that is not in the
list is empty. -/
def fullNode (leaves : List Scalar) : (height position : Nat) → Scalar
  | 0, position => leaves.getD position emptyLeaf
  | height + 1, position =>
    hash2 (fullNode leaves height (2 * position)) (fullNode leaves height (2 * position + 1))

/-- The two nodes of a height under the node at a position of the next one. -/
def fullChildren (leaves : List Scalar) (height position : Nat) : Scalar × Scalar :=
  (fullNode leaves height (2 * position), fullNode leaves height (2 * position + 1))

/-- The step from the node at a position of a height to its parent. Its sibling is the node whose
position differs in the lowest bit. -/
def fullStep (leaves : List Scalar) (height position : Nat) : Branch :=
  if position % 2 = 0 then .left (fullNode leaves height (position ^^^ 1))
  else .right (fullNode leaves height (position ^^^ 1))

/-- The steps above the leaf at an index through some heights. -/
def fullPath (leaves : List Scalar) (index height count : Nat) : List Branch :=
  (List.range' height count).map fun level => fullStep leaves level (index >>> level)

/-- The proof of the leaf at an index. -/
def fullProof (leaves : List Scalar) (depth : Nat) (index : UInt64) : MerkleProof where
  leafIndex := index
  path := fullPath leaves index.toNat 0 depth

/-- Two different ordered pairs have one hash. -/
structure Collides (a b : Scalar × Scalar) : Prop where
  ne : a ≠ b
  hash2_eq : hash2 a.1 a.2 = hash2 b.1 b.2

/-! ## Nodes -/

section Nodes

variable {leaves : List Scalar} {height position : Nat}

theorem fullNode_zero : fullNode leaves 0 position = leaves.getD position emptyLeaf := rfl

theorem fullNode_succ : fullNode leaves (height + 1) position =
    hash2 (fullChildren leaves height position).1 (fullChildren leaves height position).2 := rfl

/-- The position of the parent above an index is half the position below it. -/
theorem div_two_pow_succ (index height : Nat) :
    index / 2 ^ (height + 1) = index / 2 ^ height / 2 := by
  rw [pow_succ, Nat.div_div_eq_div_mul]

/-- **A node is a function of the leaves below it.** -/
theorem fullNode_congr {xs ys : List Scalar} {height position : Nat}
    (h : ∀ i, i / 2 ^ height = position → xs.getD i emptyLeaf = ys.getD i emptyLeaf) :
    fullNode xs height position = fullNode ys height position := by
  -- Induction on the height: a leaf below either child is below the parent.
  induction height generalizing position with
  | zero => exact h position (by simp)
  | succ height ih =>
    have below : ∀ i, i / 2 ^ height / 2 = position → xs.getD i emptyLeaf = ys.getD i emptyLeaf :=
      fun i hi => h i (by rw [div_two_pow_succ, hi])
    rw [fullNode_succ, fullNode_succ]
    congr 1
    · exact ih fun i hi => below i (by omega)
    · exact ih fun i hi => below i (by omega)

theorem fullNode_nil (height position : Nat) :
    fullNode [] height position = emptyRoot height := by
  induction height generalizing position with
  | zero => rfl
  | succ height ih => simp only [fullNode_succ, fullChildren, ih, emptyRoot]

theorem getD_padded (depth i : Nat) :
    (padded depth leaves).getD i emptyLeaf = leaves.getD i emptyLeaf := by
  simp only [padded, List.rightpad, List.getD_eq_getElem?_getD, List.getElem?_append]
  split
  · rfl
  · rename_i hi
    rw [List.getElem?_eq_none (Nat.le_of_not_lt hi), List.getElem?_replicate]
    split <;> rfl

/-- A full tree has all its leaves. -/
theorem getElem?_padded {depth i : Nat} (hi : i < 2 ^ depth) :
    (padded depth leaves)[i]? = some (leaves.getD i emptyLeaf) := by
  have hlt : i < (padded depth leaves).length := by
    rw [padded, List.length_rightpad]
    exact hi.trans_le (Nat.le_max_left ..)
  rw [← getD_padded depth, List.getD_eq_getElem?_getD, List.getElem?_eq_getElem hlt]
  rfl

/-- Empty leaves that are written out make no difference. -/
@[simp] theorem fullNode_padded (depth : Nat) :
    fullNode (padded depth leaves) height position = fullNode leaves height position :=
  fullNode_congr fun i _ => getD_padded depth i

@[simp] theorem fullNode_replicate (n : Nat) :
    fullNode (List.replicate n emptyLeaf) height position = emptyRoot height := by
  rw [← fullNode_nil height position]
  refine fullNode_congr fun i _ => ?_
  rw [List.getD_eq_getElem?_getD, List.getElem?_replicate]
  split <;> rfl

/-- A node whose leaves are all given does not change when more leaves are given. -/
theorem fullNode_append (more : List Scalar) (h : position < leaves.length / 2 ^ height) :
    fullNode (leaves ++ more) height position = fullNode leaves height position := by
  refine fullNode_congr fun i hi => ?_
  -- The bound says that the last leaf below the node is given, so every one below it is.
  have hlt : i < leaves.length := Nat.lt_of_div_lt_div (hi ▸ h)
  rw [List.getD_eq_getElem?_getD, List.getD_eq_getElem?_getD, List.getElem?_append_left hlt]

/-- A node with no given leaf below it is the root of an empty tree. -/
theorem fullNode_of_ceilDiv_le (h : leaves.length ⌈/⌉ 2 ^ height ≤ position) :
    fullNode leaves height position = emptyRoot height := by
  -- The empty tree is the full tree over no leaves, so the leaves below the node are compared.
  rw [← fullNode_nil height position]
  refine fullNode_congr fun i hi => ?_
  have hle : leaves.length ≤ i := by
    rw [ceilDiv_le_iff_le_mul (Nat.two_pow_pos height), ← hi] at h
    exact h.trans (Nat.mul_div_le i (2 ^ height))
  rw [List.getD_eq_getElem?_getD, List.getElem?_eq_none hle]
  rfl

end Nodes

/-! ## Steps -/

section Steps

variable {leaves : List Scalar} {height position : Nat}

/-- A step that is on the side of a position has that bit. -/
theorem bit_fullStep : (fullStep leaves height position).bit.toNat = position % 2 := by
  unfold fullStep
  split
  · rename_i h
    rw [h]
    rfl
  · rename_i h
    rw [Nat.mod_two_ne_zero.mp h]
    rfl

theorem sibling_fullStep :
    (fullStep leaves height position).sibling = fullNode leaves height (position ^^^ 1) := by
  unfold fullStep
  split <;> rfl

theorem fullStep_of_even (h : position % 2 = 0) :
    fullStep leaves height position = .left (fullNode leaves height (position + 1)) := by
  rw [fullStep, if_pos h, Nat.xor_one_of_even (Nat.even_iff.mpr h)]

theorem fullStep_of_odd (h : position % 2 = 1) :
    fullStep leaves height position = .right (fullNode leaves height (position - 1)) := by
  rw [fullStep, if_neg (by omega), Nat.xor_one_of_odd (Nat.odd_iff.mpr h)]

/-- A node at an even position is the left child of its parent. -/
theorem fullChildren_of_even (h : position % 2 = 0) : fullChildren leaves height (position / 2) =
    (fullNode leaves height position, fullNode leaves height (position + 1)) := by
  have hp : 2 * (position / 2) = position := by omega
  rw [fullChildren, hp]

/-- A node at an odd position is the right child of its parent. -/
theorem fullChildren_of_odd (h : position % 2 = 1) : fullChildren leaves height (position / 2) =
    (fullNode leaves height (position - 1), fullNode leaves height position) := by
  have hp : 2 * (position / 2) = position - 1 := by omega
  have hp' : position - 1 + 1 = position := by omega
  rw [fullChildren, hp, hp']

/-- **The step from a node leads to its parent.** -/
theorem fold_fullStep : (fullStep leaves height position).fold (fullNode leaves height position) =
    fullNode leaves (height + 1) (position / 2) := by
  rcases Nat.mod_two_eq_zero_or_one position with h | h
  · rw [fullStep_of_even h, fullNode_succ, fullChildren_of_even h]
    rfl
  · rw [fullStep_of_odd h, fullNode_succ, fullChildren_of_odd h]
    rfl

@[simp] theorem fullStep_padded (depth : Nat) :
    fullStep (padded depth leaves) height position = fullStep leaves height position := by
  simp only [fullStep, fullNode_padded]

@[simp] theorem fullChildren_padded (depth : Nat) :
    fullChildren (padded depth leaves) height position = fullChildren leaves height position := by
  simp only [fullChildren, fullNode_padded]

end Steps

/-! ## Paths -/

section Paths

variable {leaves : List Scalar} {index height count : Nat}

@[simp] theorem length_fullPath : (fullPath leaves index height count).length = count := by
  rw [fullPath, List.length_map, List.length_range']

theorem fullPath_succ : fullPath leaves index height (count + 1) =
    fullStep leaves height (index / 2 ^ height) :: fullPath leaves index (height + 1) count := by
  rw [fullPath, List.range'_succ, List.map_cons, Nat.shiftRight_eq_div_pow]
  rfl

theorem getElem?_fullPath {level : Nat} (h : level < count) :
    (fullPath leaves index 0 count)[level]? = some (fullStep leaves level (index >>> level)) := by
  rw [fullPath, List.getElem?_map, List.getElem?_range' h]
  simp

/-- **The steps above a node lead to the node above it** as many heights higher. -/
theorem foldl_fullPath (leaves : List Scalar) (index height count : Nat) :
    (fullPath leaves index height count).foldl
      (fun node step => step.fold node) (fullNode leaves height (index / 2 ^ height)) =
    fullNode leaves (height + count) (index / 2 ^ (height + count)) := by
  -- Induction on the number of steps, from every height: the first one leads to a node above.
  induction count generalizing height with
  | zero => rfl
  | succ count ih =>
    rw [fullPath_succ, List.foldl_cons, fold_fullStep, ← div_two_pow_succ, ih,
      Nat.add_right_comm, Nat.add_assoc]

/-- **The proof of a leaf leads to the root.** -/
theorem root_fullProof (leaves : List Scalar) {depth : Nat} {index : UInt64}
    (h : index.toNat < 2 ^ depth) :
    (fullProof leaves depth index).root (leaves.getD index.toNat emptyLeaf) =
      fullNode leaves depth 0 := by
  have hfold := foldl_fullPath leaves index.toNat 0 depth
  rwa [pow_zero, Nat.div_one, fullNode_zero, Nat.zero_add, Nat.div_eq_of_lt h] at hfold

end Paths

end GroupSignal
