import GroupSignal.Proofs.Merkle.LifeCycle

/-!
# What an insertion does to earlier proofs

The ways up from two leaves meet above the level of the highest bit in which the two indices
differ: at this level, and at no other, the node of one is the sibling of the other. An insertion
changes the nodes above the new leaf and no others, so it changes one sibling in the proof of every
earlier leaf. There the earlier leaf is on the left, and its sibling is the node that the insertion
has recorded, which was the root of an empty tree if nothing had been inserted below it.

## Main definitions

* `MerkleTree.node?`: a recorded node
* `SwapsSibling`: two proofs that differ in the sibling at one level

## Main results

* `xor_one_eq_iff`: where the nodes above two leaves are siblings
* `fullNode_concat_of_ne`: an insertion changes one node a height
* `fullPath_concat`: an insertion changes one step of an earlier path
* `Reached.proof_insert`: the proof of every earlier leaf after an insertion
-/

namespace GroupSignal

/-! ## Where two ways meet -/

section Meeting

variable {i n k : ℕ}

/-- **The nodes above two leaves are siblings** at the level of the highest bit in which the indices
differ. -/
theorem xor_one_eq_iff (h : i < n) : i >>> k ^^^ 1 = n >>> k ↔ (i ^^^ n).log2 = k := by
  have hne : i ^^^ n ≠ 0 := mt Nat.xor_eq_zero_iff.mp h.ne
  have hxor : i >>> k ^^^ 1 = n >>> k ↔ (i ^^^ n) >>> k = 1 := by
    rw [Nat.shiftRight_xor_distrib, ← Nat.xor_right_inj (x := i >>> k), Nat.xor_xor_cancel_left,
      eq_comm]
  rw [hxor, Nat.log2_eq_iff hne, Nat.shiftRight_eq_div_pow, Nat.div_eq_iff (Nat.two_pow_pos k),
    pow_succ]
  omega

/-- Of two siblings the one above the smaller index is on the left. -/
theorem even_of_xor_one_eq (h : i < n) (hsibling : i >>> k ^^^ 1 = n >>> k) :
    i >>> k % 2 = 0 := by
  have hle : i >>> k ≤ n >>> k := by
    rw [Nat.shiftRight_eq_div_pow, Nat.shiftRight_eq_div_pow]
    exact Nat.div_le_div_right h.le
  -- A node on the right has its sibling before it.
  by_contra hodd
  rw [Nat.xor_one_of_odd (Nat.odd_iff.mpr (Nat.mod_two_ne_zero.mp hodd))] at hsibling
  generalize i >>> k = a at *
  generalize n >>> k = b at *
  omega

theorem log2_xor_lt {depth : ℕ} (h : i < n) (hn : n < 2 ^ depth) : (i ^^^ n).log2 < depth :=
  (Nat.log2_lt (mt Nat.xor_eq_zero_iff.mp h.ne)).mpr (Nat.xor_lt_two_pow (h.trans hn) hn)

end Meeting

/-! ## One more leaf -/

section Concat

variable {leaves : List Scalar} {leaf : Scalar} {height position index : ℕ}

theorem getD_concat_of_ne {i : ℕ} (h : i ≠ leaves.length) :
    (leaves ++ [leaf]).getD i emptyLeaf = leaves.getD i emptyLeaf := by
  rcases Nat.lt_or_gt_of_ne h with hlt | hgt
  · exact List.getD_append _ _ _ _ hlt
  · rw [List.getD_eq_default _ _ hgt.le, List.getD_eq_default]
    rw [List.length_append, List.length_singleton]
    exact hgt

/-- **One more leaf** changes one node a height, the one above it. -/
theorem fullNode_concat_of_ne (h : position ≠ leaves.length >>> height) :
    fullNode (leaves ++ [leaf]) height position = fullNode leaves height position := by
  refine fullNode_congr fun i hi => getD_concat_of_ne ?_
  rintro rfl
  exact h (by rw [← hi, Nat.shiftRight_eq_div_pow])

/-- A step changes with one more leaf only if its sibling is above the leaf. -/
theorem fullStep_concat_of_ne (h : position ^^^ 1 ≠ leaves.length >>> height) :
    fullStep (leaves ++ [leaf]) height position = fullStep leaves height position := by
  rw [fullStep, fullStep, fullNode_concat_of_ne h]

/-- A node whose sibling is above a later leaf is on the left. -/
theorem fullStep_of_xor_one_eq (leaves : List Scalar) {i n : ℕ} (h : i < n)
    (hsibling : i >>> height ^^^ 1 = n >>> height) :
    fullStep leaves height (i >>> height) = .left (fullNode leaves height (n >>> height)) := by
  rw [fullStep, if_pos (even_of_xor_one_eq h hsibling), hsibling]

/-- **The path of an earlier leaf** changes with one more leaf at the level where the two ways meet,
and there it gets the node above the new leaf. -/
theorem fullPath_concat (leaf : Scalar) (depth : ℕ) (h : index < leaves.length) :
    fullPath (leaves ++ [leaf]) index 0 depth =
      (fullPath leaves index 0 depth).set (index ^^^ leaves.length).log2
        (.left (fullNode (leaves ++ [leaf]) (index ^^^ leaves.length).log2
          (leaves.length >>> (index ^^^ leaves.length).log2))) := by
  refine List.ext_getElem? fun level => ?_
  rw [List.getElem?_set, length_fullPath]
  rcases Nat.lt_or_ge level depth with hlevel | hlevel
  · rw [getElem?_fullPath hlevel, getElem?_fullPath hlevel]
    by_cases hmeet : (index ^^^ leaves.length).log2 = level
    · rw [if_pos hmeet, hmeet, if_pos hlevel,
        fullStep_of_xor_one_eq _ h ((xor_one_eq_iff h).mpr hmeet)]
    · rw [if_neg hmeet, fullStep_concat_of_ne (mt (xor_one_eq_iff h).mp hmeet)]
  · rw [List.getElem?_eq_none (length_fullPath.trans_le hlevel),
      List.getElem?_eq_none (length_fullPath.trans_le hlevel)]
    split
    · rename_i hmeet
      rw [hmeet, if_neg hlevel.not_gt]
    · rfl

end Concat

/-! ## Proofs before and after -/

/-- Two proofs of one leaf are the same but for the sibling at one level, where both are on the
left. -/
structure SwapsSibling (before after : MerkleProof) (level : ℕ) (old new : Scalar) : Prop where
  leafIndex_eq : after.leafIndex = before.leafIndex
  bits_eq : after.bits = before.bits
  getElem?_before : before.path[level]? = some (.left old)
  getElem?_after : after.path[level]? = some (.left new)
  getElem?_of_ne : ∀ k ≠ level, after.path[k]? = before.path[k]?

namespace SwapsSibling

variable {before after : MerkleProof} {level : ℕ} {old new : Scalar}

theorem of_set (hindex : after.leafIndex = before.leafIndex)
    (hbefore : before.path[level]? = some (.left old))
    (hafter : after.path = before.path.set level (.left new)) :
    SwapsSibling before after level old new where
  leafIndex_eq := hindex
  bits_eq := by
    have hbit : before.bits[level]? = some (Branch.left new).bit := by
      rw [MerkleProof.bits, List.getElem?_map, hbefore]
      rfl
    obtain ⟨hlt, hget⟩ := List.getElem?_eq_some_iff.mp hbit
    rw [MerkleProof.bits, hafter, List.map_set, ← hget]
    exact List.set_getElem_self hlt
  getElem?_before := hbefore
  getElem?_after := by
    rw [hafter, List.getElem?_set_self (List.getElem?_eq_some_iff.mp hbefore).1]
  getElem?_of_ne := fun k hk => by rw [hafter, List.getElem?_set_ne hk.symm]

end SwapsSibling

namespace MerkleTree

/-- The node that is recorded at a position of a height. -/
def node? (tree : MerkleTree) (height position : ℕ) : Option Scalar :=
  tree.levels[height]?.bind fun level => level.nodes[position]?

section Insert

variable {depth : ℕ} {leaves : List Scalar} {tree : MerkleTree}

/-- The nodes above the given leaves are recorded. -/
theorem Represents.node?_eq (h : tree.Represents depth leaves) {height index : ℕ}
    (hheight : height < depth) (hindex : index < leaves.length) :
    tree.node? height (index >>> height) = some (fullNode leaves height (index >>> height)) := by
  have hlt : height < tree.levels.length := hheight.trans_eq h.depth_eq.symm
  have hlevel : tree.levels[height]? = some tree.levels[height] := List.getElem?_eq_getElem hlt
  rw [node?, hlevel, Option.bind_some, Nat.shiftRight_eq_div_pow]
  exact (h.caches height _ hlevel).getElem?_of_lt (div_lt_ceilDiv height hindex)

/-- **An insertion changes one sibling** in the proof of every leaf that was there before. Into a
tree that is not full a leaf is inserted. Then the proof of an earlier leaf is the one from before
but for the level of the highest bit in which its index differs from that of the new leaf. There it
has the node that is now recorded above the new leaf, on the right of a left step as before. -/
theorem Reached.proof_insert (h : Reached depth leaves tree) (hroom : tree.filling ≠ .full)
    (leaf : Scalar) : ∃ next, tree.insert leaf = .ok (tree.size, next) ∧
      ∀ index : UInt64, index.toNat < tree.size →
        let level := (index.toNat ^^^ tree.size).log2
        let position := tree.size >>> level
        level < depth ∧ ∃ before after, tree.proof index = .ok before ∧
          next.proof index = .ok after ∧
          SwapsSibling before after level (fullNode (padded depth leaves) level position)
            (fullNode (padded depth (leaves ++ [leaf])) level position) ∧
          next.node? level position =
            some (fullNode (padded depth (leaves ++ [leaf])) level position) := by
  obtain ⟨-, hfit, hrep⟩ := h.represents
  have hsize : tree.size = leaves.length := hrep.size_eq
  have hlt : leaves.length < 2 ^ depth :=
    lt_of_le_of_ne hfit (mt hrep.filling_eq_full_iff.mpr hroom)
  obtain ⟨next, hinsert, hnext⟩ := hrep.exists_insert hlt leaf
  have hlonger : leaves.length < (leaves ++ [leaf]).length := by
    rw [List.length_append, List.length_singleton]
    exact Nat.lt_succ_self _
  rw [hsize]
  refine ⟨next, hinsert, fun index hindex => ?_⟩
  intro level position
  have hlevel : level < depth := log2_xor_lt hindex hlt
  have hbefore := hrep.proof_eq hindex
  have hafter := hnext.proof_eq (hindex.trans hlonger)
  have hmeet : index.toNat >>> level ^^^ 1 = leaves.length >>> level :=
    (xor_one_eq_iff hindex).mpr rfl
  rw [fullNode_padded, fullNode_padded]
  refine ⟨hlevel, _, _, hbefore, hafter, .of_set rfl ?_ (fullPath_concat leaf depth hindex),
    hnext.node?_eq hlevel hlonger⟩
  rw [getElem?_fullPath hlevel, fullStep_of_xor_one_eq _ hindex hmeet]

/-- A sixth leaf of eight is the new sibling of the fifth, in place of the empty leaf. For the
second leaf it changes the sibling two levels higher. -/
theorem Reached.proof_insert_sixth : ∃ tree, Reached 3 [5, 6, 7, 8, 9] tree ∧
    tree.filling ≠ .full ∧ ∃ next, tree.insert 10 = .ok (5, next) ∧
      (∃ before after, tree.proof 4 = .ok before ∧ next.proof 4 = .ok after ∧
        SwapsSibling before after 0 emptyLeaf 10) ∧
      ∃ before after old new, tree.proof 1 = .ok before ∧ next.proof 1 = .ok after ∧
        SwapsSibling before after 2 old new ∧ next.node? 2 1 = some new := by
  obtain ⟨tree, -, h⟩ := exists_reached 3 [5, 6, 7, 8, 9] (by decide) (by decide) (by decide)
  have hrep := h.represents.2.2
  have hsize : tree.size = 5 := hrep.size_eq
  have hroom : tree.filling ≠ .full := mt hrep.filling_eq_full_iff.mp (by decide)
  obtain ⟨next, hinsert, hproofs⟩ := h.proof_insert hroom 10
  simp only [hsize] at hinsert hproofs
  obtain ⟨-, before, after, hbefore, hafter, hswap, -⟩ := hproofs 4 (by decide)
  obtain ⟨-, before', after', hbefore', hafter', hswap', hnode⟩ := hproofs 1 (by decide)
  exact ⟨tree, h, hroom, next, hinsert, ⟨before, after, hbefore, hafter, hswap⟩,
    before', after', _, _, hbefore', hafter', hswap', hnode⟩

end Insert

end MerkleTree

end GroupSignal
