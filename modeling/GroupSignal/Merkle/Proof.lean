import GroupSignal.Poseidon.Hash

/-!
# Merkle proofs

The way from a leaf to the root of a binary hash tree: at every level the node is hashed with its
sibling, in the order in which the two stand. A proof names the position of its leaf, which must
agree with the sides of its steps.

## Main definitions

* `Branch`: one step, with the sibling and the side of the node
* `MerkleProof`: a leaf index and the steps from the leaf upwards
* `MerkleProof.root`, `MerkleProof.isConsistent`, `MerkleProof.isValid`: folding and checking
-/

namespace GroupSignal

/-- The smallest depth of a group tree. -/
def minDepth : Nat := 1

/-- The largest depth of a group tree. -/
def maxDepth : Nat := 32

/-- One step from a node to its parent. -/
inductive Branch where
  /-- The node is the left child of its parent, beside this right child. -/
  | left (sibling : Scalar)
  /-- The node is the right child of its parent, beside this left child. -/
  | right (sibling : Scalar)
  deriving DecidableEq

namespace Branch

/-- The other child of the parent. -/
def sibling : Branch → Scalar
  | left s => s
  | right s => s

/-- The bit of the leaf index at this level: zero for a left child and one for a right child. -/
def bit : Branch → UInt64
  | left _ => 0
  | right _ => 1

/-- The parent of a node. -/
def fold : Branch → Scalar → Scalar
  | left s, node => hash2 node s
  | right s, node => hash2 s node

/-- The same side with the sibling wiped. -/
def wiped : Branch → Branch
  | left _ => left 0
  | right _ => right 0

end Branch

/-- A leaf index and the steps from the leaf to the root. -/
structure MerkleProof where
  leafIndex : UInt64
  /-- The steps, from the leaf upwards. -/
  path : List Branch
  deriving DecidableEq

namespace MerkleProof

/-- The number of steps. -/
def depth (proof : MerkleProof) : Nat := proof.path.length

/-- The root that the path leads to from a leaf. -/
def root (proof : MerkleProof) (leaf : Scalar) : Scalar :=
  proof.path.foldl (fun node step => step.fold node) leaf

/-- The bits of the steps. -/
def bits (proof : MerkleProof) : List UInt64 := proof.path.map Branch.bit

/-- The siblings of the steps. -/
def siblings (proof : MerkleProof) : List Scalar := proof.path.map Branch.sibling

/-- Whether the steps from `level` on carry the bits of an index. -/
def followsBits (index : UInt64) (level : Nat) : List Branch → Bool
  | [] => true
  | step :: rest =>
    ((index >>> UInt64.ofNat level) &&& 1 == step.bit) && followsBits index (level + 1) rest

/-- Whether the path is no longer than the deepest tree, the leaf index fits its length, and every
step is on the side that the index says. The length is checked first, so no shift reaches the width
of the index. -/
def isConsistent (proof : MerkleProof) : Bool :=
  if maxDepth < proof.depth then false
  else if proof.leafIndex >>> UInt64.ofNat proof.depth ≠ 0 then false
  else followsBits proof.leafIndex 0 proof.path

/-- Whether the path is consistent and leads from the leaf to the root. -/
def isValid (proof : MerkleProof) (leaf root : Scalar) : Bool :=
  proof.isConsistent && proof.root leaf == root

/-- The proof with its index and its path wiped. -/
def wiped (_ : MerkleProof) : MerkleProof := ⟨0, []⟩

end MerkleProof

end GroupSignal
