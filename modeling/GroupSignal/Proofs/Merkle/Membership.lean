import GroupSignal.Proofs.Merkle.Consistency
import GroupSignal.Proofs.Merkle.Insertion

/-!
# What a Merkle proof proves

The proof that a tree gives of a leaf reads its siblings from the cached nodes and from the empty
trees. It is the path of the leaf in the full tree, so it leads to the root. Conversely a proof that
a tree accepts, whoever made it, is the path of the leaf that it names, or it shows a collision of
the hash on the way.

## Main definitions

* `Branch.children`, `hashedPairs`: the ordered pairs that folding a path hashes

## Main results

* `Represents.pathFrom_eq`: the path that a tree gives
* `Reached.proof_spec`: the proof of every index, before and after it is inserted
* `eq_fullPath_or_collides`: a path to a node of the full tree is its own path, or collides
* `Reached.eq_leaf_or_collides`: an accepted proof is honest, or collides at a level
-/

namespace GroupSignal

/-- The two children of the parent of a node, in order. -/
def Branch.children : Branch → Scalar → Scalar × Scalar
  | .left s, node => (node, s)
  | .right s, node => (s, node)

/-- The ordered pairs that are hashed on a path from a node, from the lowest upwards. -/
def hashedPairs (node : Scalar) : List Branch → List (Scalar × Scalar)
  | [] => []
  | step :: rest => step.children node :: hashedPairs (step.fold node) rest

theorem Branch.fold_eq (step : Branch) (node : Scalar) :
    step.fold node = hash2 (step.children node).1 (step.children node).2 := by
  cases step <;> rfl

/-! ## The proof that a tree gives -/

section Given

open MerkleProof

variable {depth : Nat} {leaves : List Scalar}

/-- A level gives the step from a node that covers a given leaf: its left neighbour is there, and
its right one is there or has no given leaf below it. -/
theorem Level.Caches.step_eq {level : Level} {height position : Nat}
    (h : level.Caches depth leaves height) (hlt : position < leaves.length ⌈/⌉ 2 ^ height) :
    level.step position = fullStep leaves height position := by
  -- Only a right neighbour can be missing, and then what is read for it is the empty tree.
  rcases Nat.mod_two_eq_zero_or_one position with hp | hp
  · rw [Level.step, if_pos hp, fullStep_of_even hp, Array.getD_eq_getD_getElem?]
    rcases Nat.lt_or_ge (position + 1) (leaves.length ⌈/⌉ 2 ^ height) with hright | hright
    · rw [h.getElem?_of_lt hright]
      rfl
    · rw [Array.getElem?_eq_none (h.size_nodes ▸ hright), h.empty_eq_emptyRoot,
        fullNode_of_ceilDiv_le hright]
      rfl
  · rw [Level.step, if_neg (by omega), fullStep_of_odd hp, Array.getD_eq_getD_getElem?,
      h.getElem?_of_lt ((Nat.sub_le position 1).trans_lt hlt)]
    rfl

/-- The node above a given leaf is among the nodes of its level. -/
theorem div_lt_ceilDiv {index n : Nat} (height : Nat) (h : index < n) :
    index / 2 ^ height < n ⌈/⌉ 2 ^ height := by
  -- The node above the index is the last one of the level when the index was the last leaf.
  have hle : index / 2 ^ height + 1 ≤ n ⌈/⌉ 2 ^ height := by
    rw [← succ_ceilDiv, Nat.ceilDiv_eq_add_pred_div, Nat.ceilDiv_eq_add_pred_div]
    exact Nat.div_le_div_right (by omega)
  exact hle

theorem MerkleTree.CachesFrom.pathFrom_eq {index height : Nat} {levels : List Level}
    (h : MerkleTree.CachesFrom depth leaves height levels) (hlt : index < leaves.length) :
    MerkleTree.pathFrom levels (index / 2 ^ height) =
      fullPath leaves index height levels.length := by
  induction levels generalizing height with
  | nil => rfl
  | cons level above ih =>
    obtain ⟨hlevel, habove⟩ := MerkleTree.cachesFrom_cons.mp h
    rw [MerkleTree.pathFrom, hlevel.step_eq (div_lt_ceilDiv height hlt), List.length_cons,
      fullPath_succ, ← div_two_pow_succ, ih habove]

/-- The steps of a full tree are on the sides that the bits of the index say. -/
theorem followsBits_fullPath {index : UInt64} {height count : Nat} (h : height + count ≤ 64) :
    followsBits index height (fullPath leaves index.toNat height count) = true := by
  induction count generalizing height with
  | zero => rfl
  | succ count ih =>
    rw [fullPath_succ, followsBits_cons (by omega)]
    exact ⟨bit_fullStep, ih (by omega)⟩

namespace MerkleTree

variable {tree : MerkleTree} {index : UInt64}

/-- The leaves of a tree are those that were given. -/
theorem Represents.leaf?_eq (h : tree.Represents depth leaves) (hdepth : 0 < depth) :
    tree.leaf? index = leaves[index.toNat]? := by
  have hlength : tree.levels.length = depth := h.depth_eq
  obtain ⟨level, hlevel⟩ : ∃ level, tree.levels[0]? = some level :=
    ⟨_, List.getElem?_eq_getElem (hdepth.trans_eq hlength.symm)⟩
  have hcaches := h.caches 0 level hlevel
  rw [leaf?, List.head?_eq_getElem?, hlevel, Option.bind_some]
  rcases Nat.lt_or_ge index.toNat leaves.length with hlt | hge
  · rw [hcaches.getElem?_of_lt (hlt.trans_eq (ceilDiv_two_pow_zero _).symm), fullNode_zero,
      List.getD_eq_getElem?_getD, List.getElem?_eq_getElem hlt]
    rfl
  · rw [List.getElem?_eq_none hge, Array.getElem?_eq_none]
    exact (hcaches.size_nodes.trans (ceilDiv_two_pow_zero _)).trans_le hge

theorem Represents.pathFrom_eq (h : tree.Represents depth leaves)
    (hlt : index.toNat < leaves.length) :
    pathFrom tree.levels index.toNat = fullPath leaves index.toNat 0 depth := by
  have hpath := h.cachesFrom.pathFrom_eq hlt
  rwa [pow_zero, Nat.div_one, show tree.levels.length = depth from h.depth_eq] at hpath

/-- **The proof of an inserted leaf** is the path of the leaf in the full tree. -/
theorem Represents.proof_eq (h : tree.Represents depth leaves) (hlt : index.toNat < leaves.length) :
    tree.proof index = .ok { leafIndex := index
                             path := fullPath leaves index.toNat 0 depth } := by
  rw [proof, if_neg (by rw [h.size_eq]; omega), h.pathFrom_eq hlt]

/-- The proof of a leaf that fits the tree is consistent. -/
theorem isConsistent_fullProof (hdepth : depth ≤ maxDepth) (hlt : index.toNat < 2 ^ depth) :
    (fullProof leaves depth index).isConsistent = true := by
  have hlength : (fullProof leaves depth index).depth = depth := length_fullPath
  rw [isConsistent_iff, hlength]
  exact ⟨hdepth, hlt, followsBits_fullPath
    ((Nat.zero_add depth).trans_le (hdepth.trans maxDepth_lt_width.le))⟩

/-- **The proof of an inserted leaf** is given, is consistent, and leads from the leaf to the
root. -/
theorem Reached.proof_eq (h : Reached depth leaves tree) {leaf : Scalar}
    (hleaf : tree.leaf? index = some leaf) :
    tree.proof index = .ok (fullProof leaves depth index) ∧
      (fullProof leaves depth index).isConsistent = true ∧
      (fullProof leaves depth index).root leaf = tree.root := by
  obtain ⟨⟨hmin, hmax⟩, hfit, hrep⟩ := h.represents
  rw [hrep.leaf?_eq hmin] at hleaf
  obtain ⟨hlt, rfl⟩ := List.getElem?_eq_some_iff.mp hleaf
  have hroot := root_fullProof leaves (hlt.trans_le hfit)
  rw [List.getD_eq_getElem?_getD, hleaf] at hroot
  refine ⟨hrep.proof_eq hlt, isConsistent_fullProof hmax (hlt.trans_le hfit), ?_⟩
  rw [hrep.root_eq, fullNode_padded, ← hroot]
  rfl

/-- **The proof of every index.** Before an index is inserted its proof is refused. Afterwards it
names the index and has one step a level, which has the side that the bit of the index says and the
neighbour in the full tree as its sibling; the left neighbours that are read are there. The path is
consistent and leads from the leaf to the root. -/
theorem Reached.proof_spec (h : Reached depth leaves tree) (index : UInt64) :
    (tree.size ≤ index.toNat →
      tree.proof index = .error (.leafNotInserted index.toNat tree.size)) ∧
    (index.toNat < tree.size →
      (∀ (height : Nat) (level : Level), tree.levels[height]? = some level →
        (index.toNat >>> height) % 2 = 1 → index.toNat >>> height - 1 < level.nodes.size) ∧
      ∃ leaf proof, tree.leaf? index = some leaf ∧ tree.proof index = .ok proof ∧
        proof.leafIndex = index ∧ proof.depth = depth ∧
        (∀ level < depth, ∃ step, proof.path[level]? = some step ∧
          step.bit = (index >>> UInt64.ofNat level) &&& 1 ∧
          step.sibling = fullNode (padded depth leaves) level ((index.toNat >>> level) ^^^ 1)) ∧
        proof.isConsistent = true ∧ proof.root leaf = tree.root ∧
        proof.isValid leaf tree.root = true) := by
  obtain ⟨⟨hmin, hmax⟩, -, hrep⟩ := h.represents
  refine ⟨fun hge => by rw [proof, if_pos hge], fun hlt => ?_⟩
  rw [hrep.size_eq] at hlt
  have hleaf : tree.leaf? index = some leaves[index.toNat] := by
    rw [hrep.leaf?_eq hmin, List.getElem?_eq_getElem hlt]
  obtain ⟨hproof, hconsistent, hroot⟩ := h.proof_eq hleaf
  refine ⟨fun height level hlevel _ => ?_, leaves[index.toNat], _, hleaf, hproof, rfl,
    length_fullPath, fun level hlevel => ?_, hconsistent, hroot, ?_⟩
  · rw [(hrep.caches height level hlevel).size_nodes, Nat.shiftRight_eq_div_pow]
    exact (Nat.sub_le _ 1).trans_lt (div_lt_ceilDiv height hlt)
  · have hwidth : level < 64 := hlevel.trans (hmax.trans_lt maxDepth_lt_width)
    refine ⟨_, getElem?_fullPath hlevel, ?_, ?_⟩
    · rw [← UInt64.toNat_inj, bit_fullStep, toNat_bitAt index hwidth, Nat.shiftRight_eq_div_pow]
    · rw [sibling_fullStep, fullNode_padded]
  · rw [isValid, hconsistent, hroot, Bool.true_and, beq_self_eq_true]

/-- Of five leaves the last is proven, although all its neighbours are empty, and the next index has
no proof yet. -/
theorem Reached.proof_spec_five : ∃ tree, Reached 3 [5, 6, 7, 8, 9] tree ∧
    tree.proof 5 = .error (.leafNotInserted 5 5) ∧
    ∃ proof, tree.proof 4 = .ok proof ∧ proof.isValid 9 tree.root = true := by
  obtain ⟨tree, -, h⟩ := exists_reached 3 [5, 6, 7, 8, 9] (by decide) (by decide) (by decide)
  have hrep := h.represents.2.2
  have hsize : tree.size = 5 := hrep.size_eq
  refine ⟨tree, h, ?_, ?_⟩
  · have hrefused := (h.proof_spec 5).1 hsize.le
    rwa [hsize] at hrefused
  · obtain ⟨-, leaf, proof, hleaf, hproof, -, -, -, -, -, hvalid⟩ :=
      (h.proof_spec 4).2 (by rw [hsize]; decide)
    rw [hrep.leaf?_eq (by decide)] at hleaf
    obtain rfl : 9 = leaf := Option.some.inj hleaf
    exact ⟨proof, hproof, hvalid⟩

end MerkleTree

end Given

/-! ## Proofs that a tree accepts -/

section Accepted

open MerkleProof

variable {depth : Nat} {leaves : List Scalar}

/-- A step that hashes the two nodes under a node of the full tree starts at the one on its side,
and has the other one as its sibling. -/
theorem eq_fullStep_of_children {step : Branch} {node : Scalar} {height position : Nat}
    (hbit : step.bit.toNat = position % 2)
    (h : step.children node = fullChildren leaves height (position / 2)) :
    node = fullNode leaves height position ∧ step = fullStep leaves height position := by
  cases step with
  | left s =>
    have heven : position % 2 = 0 := hbit.symm
    rw [fullChildren_of_even heven] at h
    obtain ⟨hnode, hs⟩ := Prod.mk.inj h
    exact ⟨hnode, by rw [fullStep_of_even heven, hs]⟩
  | right s =>
    have hodd : position % 2 = 1 := hbit.symm
    rw [fullChildren_of_odd hodd] at h
    obtain ⟨hs, hnode⟩ := Prod.mk.inj h
    exact ⟨hnode, by rw [fullStep_of_odd hodd, hs]⟩

/-- **A path to a node of the full tree** whose sides are the bits of an index starts at the node
below it that the index says, with the siblings of the full tree, unless it hashes a pair that
collides with the nodes of the full tree at its level. -/
theorem eq_fullPath_or_collides {index : UInt64} {height : Nat} {path : List Branch} {node : Scalar}
    (hlength : height + path.length ≤ 64) (hbits : followsBits index height path = true)
    (hfold : path.foldl (fun node step => step.fold node) node =
      fullNode leaves (height + path.length) (index.toNat / 2 ^ (height + path.length))) :
    (node = fullNode leaves height (index.toNat / 2 ^ height) ∧
        path = fullPath leaves index.toNat height path.length) ∨
      ∃ k pair, (hashedPairs node path)[k]? = some pair ∧
        Collides pair (fullChildren leaves (height + k) (index.toNat / 2 ^ (height + k + 1))) := by
  -- Induction on the path, so from the root down: where the levels above are honest, the parent is
  -- the node of the full tree, and this level hashes its children or another pair with that hash.
  induction path generalizing height node with
  | nil => exact Or.inl ⟨hfold, rfl⟩
  | cons step rest ih =>
    rw [List.length_cons] at hlength hfold
    obtain ⟨hbit, hrest⟩ := (followsBits_cons (by omega)).mp hbits
    rw [List.foldl_cons, ← Nat.add_assoc, Nat.add_right_comm] at hfold
    rcases ih (by omega) hrest hfold with ⟨hparent, hpath⟩ | ⟨k, pair, hpair, hcollides⟩
    · by_cases hchildren :
        step.children node = fullChildren leaves height (index.toNat / 2 ^ (height + 1))
      · rw [div_two_pow_succ] at hchildren
        obtain ⟨hnode, hstep⟩ := eq_fullStep_of_children hbit hchildren
        refine Or.inl ⟨hnode, ?_⟩
        rw [List.length_cons, fullPath_succ, ← hstep, ← hpath]
      · refine Or.inr ⟨0, step.children node, rfl, hchildren, ?_⟩
        rw [← Branch.fold_eq, hparent, fullNode_succ]
        rfl
    · refine Or.inr ⟨k + 1, pair, hpair, ?_⟩
      rwa [Nat.add_right_comm] at hcollides

theorem length_hashedPairs (path : List Branch) (node : Scalar) :
    (hashedPairs node path).length = path.length := by
  induction path generalizing node with
  | nil => rfl
  | cons step rest ih => rw [hashedPairs, List.length_cons, ih, List.length_cons]

namespace MerkleTree

variable {tree : MerkleTree}

/-- **An accepted proof is honest or shows a collision.** When a tree accepts a proof of its own
depth, the leaf is the one at the index that the proof names and every step is that of the full
tree, or at some level the proof hashes a pair that collides with the two nodes of the tree
there. -/
theorem Reached.eq_leaf_or_collides (h : Reached depth leaves tree) {leaf : Scalar}
    {proof : MerkleProof} (hdepth : proof.depth = depth)
    (hvalid : proof.isValid leaf tree.root = true) :
    ((padded depth leaves)[proof.leafIndex.toNat]? = some leaf ∧
      ∀ level < depth, proof.path[level]? =
        some (fullStep (padded depth leaves) level (proof.leafIndex.toNat >>> level))) ∨
    ∃ level < depth, ∃ pair, (hashedPairs leaf proof.path)[level]? = some pair ∧
      Collides pair
        (fullChildren (padded depth leaves) level (proof.leafIndex.toNat >>> (level + 1))) := by
  obtain ⟨⟨-, hmax⟩, -, hrep⟩ := h.represents
  rw [isValid, Bool.and_eq_true, beq_iff_eq, isConsistent_iff, hdepth] at hvalid
  obtain ⟨⟨-, hindex, hbits⟩, hroot⟩ := hvalid
  have hlength : proof.path.length = depth := hdepth
  have hwidth : 0 + proof.path.length ≤ 64 := by
    rw [Nat.zero_add, hlength]
    exact hmax.trans maxDepth_lt_width.le
  -- The root is the only node of its height, so it is the node above the index that is named.
  have hfold : proof.path.foldl (fun node step => step.fold node) leaf =
      fullNode leaves (0 + proof.path.length)
        (proof.leafIndex.toNat / 2 ^ (0 + proof.path.length)) := by
    rw [Nat.zero_add, hlength, Nat.div_eq_of_lt hindex, ← fullNode_padded depth, ← hrep.root_eq]
    exact hroot
  rcases eq_fullPath_or_collides hwidth hbits hfold with
    ⟨hleaf, hpath⟩ | ⟨level, pair, hpair, hcollides⟩
  · rw [pow_zero, Nat.div_one, fullNode_zero] at hleaf
    refine Or.inl ⟨by rw [getElem?_padded hindex, hleaf], fun level hlevel => ?_⟩
    rw [hpath, hlength, getElem?_fullPath hlevel, fullStep_padded]
  · have hlevel : level < depth := by
      rw [← hlength, ← length_hashedPairs proof.path leaf]
      exact (List.getElem?_eq_some_iff.mp hpair).1
    refine Or.inr ⟨level, hlevel, pair, hpair, ?_⟩
    rwa [fullChildren_padded, Nat.shiftRight_eq_div_pow, ← Nat.zero_add level]

/-- Of five leaves in a tree of depth three, the empty leaf at index six is proven too. -/
theorem Reached.eq_leaf_or_collides_six : ∃ tree, Reached 3 [5, 6, 7, 8, 9] tree ∧
    (fullProof [5, 6, 7, 8, 9] 3 6).depth = 3 ∧
    (fullProof [5, 6, 7, 8, 9] 3 6).isValid 0 tree.root = true ∧
    (((padded 3 [5, 6, 7, 8, 9])[6]? = some 0 ∧ ∀ level < 3,
        (fullProof [5, 6, 7, 8, 9] 3 6).path[level]? =
          some (fullStep (padded 3 [5, 6, 7, 8, 9]) level (6 >>> level))) ∨
      ∃ level < 3, ∃ pair,
        (hashedPairs 0 (fullProof [5, 6, 7, 8, 9] 3 6).path)[level]? = some pair ∧
        Collides pair (fullChildren (padded 3 [5, 6, 7, 8, 9]) level (6 >>> (level + 1)))) := by
  obtain ⟨tree, -, h⟩ := exists_reached 3 [5, 6, 7, 8, 9] (by decide) (by decide) (by decide)
  have hindex : (6 : UInt64).toNat < 2 ^ 3 := by decide
  have hvalid : (fullProof [5, 6, 7, 8, 9] 3 6).isValid 0 tree.root = true := by
    rw [isValid, isConsistent_fullProof (by decide) hindex, h.represents.2.2.root_eq,
      fullNode_padded, ← root_fullProof _ hindex, Bool.true_and, beq_iff_eq]
    rfl
  exact ⟨tree, h, rfl, hvalid, h.eq_leaf_or_collides rfl hvalid⟩

end MerkleTree

end Accepted

end GroupSignal
