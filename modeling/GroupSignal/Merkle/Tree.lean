import GroupSignal.Merkle.Proof

/-!
# The incremental tree of a group

A binary hash tree of fixed depth that is filled from the left. Leaves that are not there yet are
zero. Each level keeps all its nodes that cover an inserted leaf, from which proofs are read, and
the last left child, against which the next right child is hashed; an insertion touches one node a
level.

## Main definitions

* `MerkleTree`, `MerkleTree.create`: a tree, and the empty tree of a depth
* `MerkleTree.insert`: the next leaf
* `MerkleTree.proof`: the proof of an inserted leaf
* `TreeError`: why a tree, an insertion or a proof is refused
-/

namespace GroupSignal

/-- Why an operation on a group tree is refused. -/
inductive TreeError where
  /-- No group tree has this depth. -/
  | unsupportedDepth (depth : Nat)
  | full (capacity : Nat)
  /-- No leaf has been inserted at this index. -/
  | leafNotInserted (index size : Nat)
  deriving DecidableEq, Repr

/-- The wording of a refusal. -/
def TreeError.message : TreeError → String
  | .unsupportedDepth depth =>
    "unsupported tree depth " ++ toString depth ++ ", expected " ++ toString minDepth ++ "..=" ++
      toString maxDepth
  | .full capacity => "tree is full (" ++ toString capacity ++ " leaves)"
  | .leafNotInserted index size =>
    "leaf " ++ toString index ++ " has not been inserted, the tree holds " ++ toString size ++
      " leaves"

/-- Whether a group tree can have this depth. -/
def isSupportedDepth (depth : Nat) : Bool := minDepth ≤ depth && depth ≤ maxDepth

/-- The value of a leaf that is not there yet. -/
def emptyLeaf : Scalar := 0

/-- The roots of the empty trees of `depth + 1` consecutive heights, from the root `lowest` on. -/
def emptyRootsFrom (lowest : Scalar) : (depth : Nat) → List Scalar
  | 0 => [lowest]
  | depth + 1 => lowest :: emptyRootsFrom (hash2 lowest lowest) depth

/-- The root of the empty tree of a height. -/
def emptyRoot : (height : Nat) → Scalar
  | 0 => emptyLeaf
  | height + 1 =>
    let child := emptyRoot height
    hash2 child child

/-- The nodes of one height. -/
structure Level where
  /-- The root of the empty subtree of this height. -/
  empty : Scalar
  /-- The last node that is a left child, and `empty` before there is one. -/
  frontier : Scalar
  /-- The nodes that cover an inserted leaf, from the left. -/
  nodes : Array Scalar

namespace Level

/-- The level before any insertion. -/
def vacant (empty : Scalar) : Level := { empty, frontier := empty, nodes := #[] }

/-- Records the node at a position: a new one at the end, or in place of the one that is there. -/
def store (level : Level) (position : Nat) (node : Scalar) : Level :=
  if position = level.nodes.size then { level with nodes := level.nodes.push node }
  else { level with nodes := level.nodes.setIfInBounds position node }

/-- The step from the node at a position to its parent. -/
def step (level : Level) (position : Nat) : Branch :=
  if position % 2 = 0 then .left (level.nodes.getD (position + 1) level.empty)
  else .right (level.nodes.getD (position - 1) level.empty)

end Level

/-- How full a tree is. -/
inductive Filling where
  | empty
  | partlyFilled
  | full
  deriving DecidableEq, Repr

/-- A tree that is filled from the left. -/
structure MerkleTree where
  /-- The levels below the root, from the leaves upwards. -/
  levels : List Level
  /-- How many leaves have been inserted, which is also the index of the next one. -/
  size : Nat
  root : Scalar

namespace MerkleTree

/-- The empty tree of a depth. -/
def create (depth : Nat) : Except TreeError MerkleTree :=
  if isSupportedDepth depth then
    let roots := emptyRootsFrom emptyLeaf depth
    .ok { levels := (roots.take depth).map Level.vacant
          size := 0
          root := roots.getD depth emptyLeaf }
  else .error (.unsupportedDepth depth)

/-- The number of levels below the root. -/
def depth (tree : MerkleTree) : Nat := tree.levels.length

/-- The number of leaves that the tree can hold. -/
def capacity (tree : MerkleTree) : Nat := 1 <<< tree.depth

/-- The roots of the empty trees of every height up to the depth. -/
def zeros (tree : MerkleTree) : List Scalar := emptyRootsFrom emptyLeaf tree.depth

/-- How full the tree is. -/
def filling (tree : MerkleTree) : Filling :=
  if tree.size = 0 then .empty else if tree.size = tree.capacity then .full else .partlyFilled

/-- The leaf at an index, if one has been inserted there. -/
def leaf? (tree : MerkleTree) (index : UInt64) : Option Scalar :=
  tree.levels.head?.bind fun level => level.nodes[index.toNat]?

/-- Records a node and all its ancestors in the levels from its own upwards, with the root last. -/
def climb : List Level → (position : Nat) → (node : Scalar) → List Level × Scalar
  | [], _, node => ([], node)
  | level :: above, position, node =>
    let level := level.store position node
    if position % 2 = 0 then
      let (above, root) := climb above (position / 2) (hash2 node level.empty)
      ({ level with frontier := node } :: above, root)
    else
      let (above, root) := climb above (position / 2) (hash2 level.frontier node)
      (level :: above, root)

/-- Inserts the next leaf, and says at which index it stands. -/
def insert (tree : MerkleTree) (leaf : Scalar) : Except TreeError (Nat × MerkleTree) :=
  if tree.size = tree.capacity then .error (.full tree.capacity)
  else
    let index := tree.size
    let (levels, root) := climb tree.levels index leaf
    .ok (index, { levels, size := index + 1, root })

/-- Inserts leaves in order, up to the first that does not fit. -/
def insertAll (tree : MerkleTree) : List Scalar → Except TreeError MerkleTree
  | [] => .ok tree
  | leaf :: rest => do
    let (_, tree) ← tree.insert leaf
    tree.insertAll rest

/-- The steps from a position in the lowest of some levels upwards. -/
def pathFrom : List Level → (position : Nat) → List Branch
  | [], _ => []
  | level :: above, position => level.step position :: pathFrom above (position / 2)

/-- The proof of the leaf at an index. -/
def proof (tree : MerkleTree) (index : UInt64) : Except TreeError MerkleProof :=
  if tree.size ≤ index.toNat then .error (.leafNotInserted index.toNat tree.size)
  else .ok { leafIndex := index, path := pathFrom tree.levels index.toNat }

end MerkleTree

end GroupSignal
