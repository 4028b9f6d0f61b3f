import GroupSignal.Proofs.Fallible
import GroupSignal.Proofs.Merkle.FullTree

/-!
# Insertion fills the full tree

The tree caches nodes of the full tree: on every level those that cover a given leaf, and the last
left child among them. An insertion overwrites the last node of a level or adds one behind it, and
takes the left sibling from the frontier and the right one from the empty trees. The invariant says
of every level which nodes it holds; what one insertion does to a level is shown once, and the climb
carries it from the leaves to the root.

## Main definitions

* `Level.Caches`: a level holds the nodes of its height
* `MerkleTree.Represents`: a tree holds the full tree over some leaves
* `MerkleTree.Reached`: a run of insertions

## Main results

* `climb_caches`: the climb of a leaf keeps the invariant and ends at the root
* `Represents.exists_insert`, `Reached.represents`: one insertion, and every run of insertions
* `exists_insertAll_represents`: the tree of every list of leaves that fits
-/

namespace GroupSignal

/-- A level holds the nodes of a height of the full tree over some leaves: its empty node is the
root of the tree of empty leaves, it has all nodes that cover a given leaf, and its frontier is the
last left child among them. -/
structure Level.Caches (level : Level) (depth : Nat) (leaves : List Scalar) (height : Nat) :
    Prop where
  empty_eq : level.empty = fullNode (List.replicate (2 ^ height) emptyLeaf) height 0
  size_nodes : level.nodes.size = leaves.length ⌈/⌉ 2 ^ height
  getElem?_nodes : ∀ j < level.nodes.size,
    level.nodes[j]? = some (fullNode (padded depth leaves) height j)
  frontier_eq : leaves ≠ [] →
    level.nodes[(leaves.length - 1) >>> height / 2 * 2]? = some level.frontier

namespace MerkleTree

/-- A tree holds the full tree of a depth over some leaves, with empty leaves behind them. -/
structure Represents (tree : MerkleTree) (depth : Nat) (leaves : List Scalar) : Prop where
  depth_eq : tree.depth = depth
  size_eq : tree.size = leaves.length
  root_eq : tree.root = fullNode (padded depth leaves) depth 0
  caches : ∀ (height : Nat) (level : Level), tree.levels[height]? = some level →
    level.Caches depth leaves height
  zeros_eq : ∀ height ≤ depth,
    tree.zeros[height]? = some (fullNode (List.replicate (2 ^ height) emptyLeaf) height 0)

/-- The trees that insertions reach from the empty tree of a depth, with the leaves that were
inserted. A refused insertion hands back no tree, so it leads nowhere else. -/
inductive Reached (depth : Nat) : List Scalar → MerkleTree → Prop
  | create {tree : MerkleTree} (created : MerkleTree.create depth = .ok tree) :
    Reached depth [] tree
  | insert {leaves : List Scalar} {tree next : MerkleTree} {leaf : Scalar} {index : Nat}
    (reached : Reached depth leaves tree) (inserted : tree.insert leaf = .ok (index, next)) :
    Reached depth (leaves ++ [leaf]) next

end MerkleTree

/-! ## Counting the nodes of a level

With `n` leaves given, the nodes that cover one are `n ⌈/⌉ 2 ^ height` in number. The next leaf
stands below position `n / 2 ^ height`, which is the last of these nodes or the first place behind
them. -/

section Counting

variable (n height : Nat)

theorem ceilDiv_two_pow_zero : n ⌈/⌉ 2 ^ 0 = n := by
  rw [pow_zero, Nat.ceilDiv_eq_add_pred_div, Nat.add_sub_cancel, Nat.div_one]

theorem div_le_ceilDiv : n / 2 ^ height ≤ n ⌈/⌉ 2 ^ height := by
  rw [← Nat.floorDiv_eq_div]
  exact floorDiv_le_ceilDiv

theorem ceilDiv_le_div_add_one : n ⌈/⌉ 2 ^ height ≤ n / 2 ^ height + 1 := by
  rw [ceilDiv_le_iff_le_mul (Nat.two_pow_pos height)]
  exact (Nat.lt_mul_div_succ n (Nat.two_pow_pos height)).le

theorem succ_ceilDiv : (n + 1) ⌈/⌉ 2 ^ height = n / 2 ^ height + 1 := by
  rw [Nat.ceilDiv_eq_add_pred_div, Nat.add_right_comm, Nat.add_sub_cancel,
    Nat.add_div_right n (Nat.two_pow_pos height)]

theorem ceilDiv_length_append (leaves : List Scalar) (leaf : Scalar) :
    (leaves ++ [leaf]).length ⌈/⌉ 2 ^ height = leaves.length / 2 ^ height + 1 := by
  rw [List.length_append, List.length_singleton, succ_ceilDiv]

variable {n height}

/-- The last left child before an odd position is the node just before it. -/
theorem frontier_position (hodd : n / 2 ^ height % 2 = 1) :
    (n - 1) >>> height / 2 * 2 = n / 2 ^ height - 1 := by
  -- The last leaf stands below the odd position or below the one before it, which share a half.
  have hle : (n - 1) / 2 ^ height ≤ n / 2 ^ height := Nat.div_le_div_right (Nat.sub_le n 1)
  have hge : n / 2 ^ height ≤ (n - 1) / 2 ^ height + 1 :=
    (div_le_ceilDiv n height).trans (by
      have hn : n ≠ 0 := by rintro rfl; simp at hodd
      rw [← Nat.succ_pred_eq_of_ne_zero hn]
      exact (succ_ceilDiv (n - 1) height).le)
  rw [Nat.shiftRight_eq_div_pow]
  omega

end Counting

/-! ## One level -/

namespace Level

variable {level : Level} {position : Nat} {node : Scalar}

@[simp] theorem empty_store : (level.store position node).empty = level.empty := by
  unfold store
  split <;> rfl

@[simp] theorem frontier_store : (level.store position node).frontier = level.frontier := by
  unfold store
  split <;> rfl

theorem size_nodes_store (hle : position ≤ level.nodes.size)
    (hge : level.nodes.size ≤ position + 1) :
    (level.store position node).nodes.size = position + 1 := by
  unfold store
  split
  · simp only [Array.size_push]
    omega
  · simp only [Array.size_setIfInBounds]
    omega

theorem getElem?_nodes_store (hle : position ≤ level.nodes.size)
    (hge : level.nodes.size ≤ position + 1) (j : Nat) :
    (level.store position node).nodes[j]? =
      if j = position then some node else level.nodes[j]? := by
  unfold store
  split
  · rename_i heq
    rw [Array.getElem?_push, heq]
  · rename_i hne
    rw [Array.getElem?_setIfInBounds]
    split
    · rename_i heq
      rw [if_pos heq.symm, if_pos (by omega)]
    · rename_i hj
      rw [if_neg (Ne.symm hj)]

namespace Caches

variable {depth height : Nat} {leaves : List Scalar} {leaf : Scalar}

theorem empty_eq_emptyRoot (h : level.Caches depth leaves height) :
    level.empty = emptyRoot height := by
  rw [h.empty_eq, fullNode_replicate]

variable (h : level.Caches depth leaves height)

include h

theorem getElem?_of_lt (hlt : position < leaves.length ⌈/⌉ 2 ^ height) :
    level.nodes[position]? = some (fullNode leaves height position) := by
  rw [h.getElem?_nodes position (h.size_nodes ▸ hlt), fullNode_padded]

theorem size_store : (level.store (leaves.length / 2 ^ height) node).nodes.size =
    leaves.length / 2 ^ height + 1 :=
  size_nodes_store (h.size_nodes ▸ div_le_ceilDiv ..) (h.size_nodes ▸ ceilDiv_le_div_add_one ..)

theorem getElem?_store (j : Nat) :
    (level.store (leaves.length / 2 ^ height) node).nodes[j]? =
      if j = leaves.length / 2 ^ height then some node else level.nodes[j]? :=
  getElem?_nodes_store (h.size_nodes ▸ div_le_ceilDiv ..)
    (h.size_nodes ▸ ceilDiv_le_div_add_one ..) j

/-- After the node above a new leaf is recorded, the level holds the nodes over the longer list:
those before it cover no new leaf. -/
theorem getElem?_store_of_lt (j : Nat)
    (hj : j < (level.store (leaves.length / 2 ^ height)
      (fullNode (leaves ++ [leaf]) height (leaves.length / 2 ^ height))).nodes.size) :
    (level.store (leaves.length / 2 ^ height)
      (fullNode (leaves ++ [leaf]) height (leaves.length / 2 ^ height))).nodes[j]? =
      some (fullNode (padded depth (leaves ++ [leaf])) height j) := by
  rw [h.size_store] at hj
  rw [h.getElem?_store, fullNode_padded]
  split
  · rename_i heq
    rw [heq]
  · -- All leaves below an earlier node were given before.
    have hlt : j < leaves.length / 2 ^ height := by omega
    rw [h.getElem?_of_lt (hlt.trans_le (div_le_ceilDiv ..)), fullNode_append [leaf] hlt]

/-- An odd position has the frontier just before it. -/
theorem getElem?_frontier (hodd : leaves.length / 2 ^ height % 2 = 1) :
    level.nodes[leaves.length / 2 ^ height - 1]? = some level.frontier := by
  rw [← frontier_position hodd]
  refine h.frontier_eq ?_
  rintro rfl
  simp at hodd

/-- A left child over a new leaf is recorded, and becomes the frontier. -/
theorem store_left (heven : leaves.length / 2 ^ height % 2 = 0) :
    Caches
      { level.store (leaves.length / 2 ^ height)
          (fullNode (leaves ++ [leaf]) height (leaves.length / 2 ^ height)) with
        frontier := fullNode (leaves ++ [leaf]) height (leaves.length / 2 ^ height) }
      depth (leaves ++ [leaf]) height where
  empty_eq := empty_store.trans h.empty_eq
  size_nodes := h.size_store.trans (ceilDiv_length_append ..).symm
  getElem?_nodes := h.getElem?_store_of_lt
  frontier_eq := fun _ => by
    -- The last leaf is the new one, and its position is a left child.
    have hp : leaves.length / 2 ^ height / 2 * 2 = leaves.length / 2 ^ height := by omega
    rw [List.length_append, List.length_singleton, Nat.add_sub_cancel,
      Nat.shiftRight_eq_div_pow, hp, h.getElem?_store, if_pos rfl]

/-- A right child over a new leaf is recorded, and the frontier stays. -/
theorem store_right (hodd : leaves.length / 2 ^ height % 2 = 1) :
    Caches
      (level.store (leaves.length / 2 ^ height)
        (fullNode (leaves ++ [leaf]) height (leaves.length / 2 ^ height)))
      depth (leaves ++ [leaf]) height where
  empty_eq := empty_store.trans h.empty_eq
  size_nodes := h.size_store.trans (ceilDiv_length_append ..).symm
  getElem?_nodes := h.getElem?_store_of_lt
  frontier_eq := fun _ => by
    -- The last leaf is the new one, and the left child before it is the old frontier.
    have hp : leaves.length / 2 ^ height / 2 * 2 = leaves.length / 2 ^ height - 1 := by omega
    rw [List.length_append, List.length_singleton, Nat.add_sub_cancel,
      Nat.shiftRight_eq_div_pow, hp, h.getElem?_store, if_neg (by omega),
      h.getElem?_frontier hodd, frontier_store]

/-- The parent of a left child over a new leaf: nothing is given right of it. -/
theorem hash2_empty (heven : leaves.length / 2 ^ height % 2 = 0) :
    hash2 (fullNode (leaves ++ [leaf]) height (leaves.length / 2 ^ height)) level.empty =
      fullNode (leaves ++ [leaf]) (height + 1) (leaves.length / 2 ^ (height + 1)) := by
  have hempty : fullNode (leaves ++ [leaf]) height (leaves.length / 2 ^ height + 1) =
      emptyRoot height :=
    fullNode_of_ceilDiv_le (ceilDiv_length_append ..).le
  rw [div_two_pow_succ, ← fold_fullStep, fullStep_of_even heven, hempty, h.empty_eq_emptyRoot]
  rfl

/-- The parent of a right child over a new leaf: the frontier is the node left of it. -/
theorem hash2_frontier (hodd : leaves.length / 2 ^ height % 2 = 1) :
    hash2 level.frontier (fullNode (leaves ++ [leaf]) height (leaves.length / 2 ^ height)) =
      fullNode (leaves ++ [leaf]) (height + 1) (leaves.length / 2 ^ (height + 1)) := by
  have hlt : leaves.length / 2 ^ height - 1 < leaves.length / 2 ^ height :=
    Nat.sub_one_lt fun hzero => by simp [hzero] at hodd
  -- The frontier was recorded over the shorter list, and its leaves were all given by then.
  have hfrontier : level.frontier =
      fullNode (leaves ++ [leaf]) height (leaves.length / 2 ^ height - 1) := by
    rw [fullNode_append [leaf] hlt]
    exact Option.some.inj ((h.getElem?_frontier hodd).symm.trans
      (h.getElem?_of_lt (hlt.trans_le (div_le_ceilDiv ..))))
  rw [div_two_pow_succ, ← fold_fullStep, fullStep_of_odd hodd, hfrontier]
  rfl

end Caches

end Level

/-! ## All levels -/

namespace MerkleTree

/-- Consecutive levels from a height on hold the nodes of their heights. -/
def CachesFrom (depth : Nat) (leaves : List Scalar) (height : Nat) (levels : List Level) : Prop :=
  ∀ (k : Nat) (level : Level), levels[k]? = some level → level.Caches depth leaves (height + k)

section Climb

variable {depth height : Nat} {leaves : List Scalar} {level : Level} {above : List Level}
  {position : Nat} {node : Scalar}

theorem cachesFrom_cons : CachesFrom depth leaves height (level :: above) ↔
    level.Caches depth leaves height ∧ CachesFrom depth leaves (height + 1) above := by
  constructor
  · intro h
    refine ⟨h 0 level rfl, fun k l hk => ?_⟩
    rw [Nat.add_right_comm]
    exact h (k + 1) l hk
  · rintro ⟨hlevel, habove⟩ k l hk
    cases k with
    | zero =>
      obtain rfl : level = l := by simpa using hk
      exact hlevel
    | succ k =>
      have := habove k l hk
      rwa [Nat.add_right_comm] at this

theorem climb_cons_of_even (h : position % 2 = 0) : climb (level :: above) position node =
    ({ level.store position node with frontier := node } ::
        (climb above (position / 2) (hash2 node level.empty)).1,
      (climb above (position / 2) (hash2 node level.empty)).2) := by
  simp only [climb, if_pos h, Level.empty_store]

theorem climb_cons_of_odd (h : position % 2 = 1) : climb (level :: above) position node =
    (level.store position node :: (climb above (position / 2) (hash2 level.frontier node)).1,
      (climb above (position / 2) (hash2 level.frontier node)).2) := by
  simp only [climb, h, Nat.one_ne_zero, if_false, Level.frontier_store]

theorem length_climb (levels : List Level) (position : Nat) (node : Scalar) :
    (climb levels position node).1.length = levels.length := by
  induction levels generalizing position node with
  | nil => rfl
  | cons level above ih =>
    rcases Nat.mod_two_eq_zero_or_one position with h | h
    · rw [climb_cons_of_even h, List.length_cons, ih, List.length_cons]
    · rw [climb_cons_of_odd h, List.length_cons, ih, List.length_cons]

/-- **The climb of a new leaf** from the node above it, at any height, leaves all levels above with
the nodes over the longer list, and ends at the node above the leaf behind the last of them. -/
theorem climb_caches (leaf : Scalar) (levels : List Level)
    (h : CachesFrom depth leaves height levels) :
    CachesFrom depth (leaves ++ [leaf]) height
        (climb levels (leaves.length / 2 ^ height)
          (fullNode (leaves ++ [leaf]) height (leaves.length / 2 ^ height))).1 ∧
      (climb levels (leaves.length / 2 ^ height)
          (fullNode (leaves ++ [leaf]) height (leaves.length / 2 ^ height))).2 =
        fullNode (leaves ++ [leaf]) (height + levels.length)
          (leaves.length / 2 ^ (height + levels.length)) := by
  -- Induction on the levels: the parent that one level passes on is the node the next one expects.
  induction levels generalizing height with
  | nil => exact ⟨fun k l hk => by simp [climb] at hk, rfl⟩
  | cons level above ih =>
    obtain ⟨hlevel, habove⟩ := cachesFrom_cons.mp h
    obtain ⟨ihlevels, ihroot⟩ := ih habove
    rw [List.length_cons, ← Nat.add_assoc, Nat.add_right_comm, ← ihroot]
    rcases Nat.mod_two_eq_zero_or_one (leaves.length / 2 ^ height) with hp | hp
    · rw [climb_cons_of_even hp, hlevel.hash2_empty hp, ← div_two_pow_succ]
      exact ⟨cachesFrom_cons.mpr ⟨hlevel.store_left hp, ihlevels⟩, rfl⟩
    · rw [climb_cons_of_odd hp, hlevel.hash2_frontier hp, ← div_two_pow_succ]
      exact ⟨cachesFrom_cons.mpr ⟨hlevel.store_right hp, ihlevels⟩, rfl⟩

end Climb

/-! ## The empty tree -/

theorem emptyRootsFrom_eq (height depth : Nat) : emptyRootsFrom (emptyRoot height) depth =
    (List.range' height (depth + 1)).map emptyRoot := by
  induction depth generalizing height with
  | zero => rfl
  | succ depth ih =>
    rw [List.range'_succ, List.map_cons, ← ih (height + 1)]
    rfl

theorem length_emptyRootsFrom (depth : Nat) :
    (emptyRootsFrom emptyLeaf depth).length = depth + 1 := by
  rw [show emptyLeaf = emptyRoot 0 from rfl, emptyRootsFrom_eq, List.length_map,
    List.length_range']

theorem getElem?_emptyRootsFrom {depth height : Nat} (h : height ≤ depth) :
    (emptyRootsFrom emptyLeaf depth)[height]? = some (emptyRoot height) := by
  have heq := emptyRootsFrom_eq 0 depth
  rw [show emptyLeaf = emptyRoot 0 from rfl, heq, List.getElem?_map,
    List.getElem?_range' (by omega)]
  simp

theorem isSupportedDepth_iff {depth : Nat} :
    isSupportedDepth depth = true ↔ minDepth ≤ depth ∧ depth ≤ maxDepth := by
  rw [isSupportedDepth, Bool.and_eq_true, decide_eq_true_eq, decide_eq_true_eq]

theorem create_eq_ok_iff {depth : Nat} {tree : MerkleTree} : create depth = .ok tree ↔
    (minDepth ≤ depth ∧ depth ≤ maxDepth) ∧
      tree = { levels := ((emptyRootsFrom emptyLeaf depth).take depth).map Level.vacant
               size := 0
               root := emptyRoot depth } := by
  simp only [create, isSupportedDepth_iff, List.getD_eq_getElem?_getD,
    getElem?_emptyRootsFrom le_rfl, Option.getD_some]
  by_cases hdepth : minDepth ≤ depth ∧ depth ≤ maxDepth
  · rw [if_pos hdepth, and_iff_right hdepth, Except.ok.injEq, eq_comm]
  · rw [if_neg hdepth]
    exact ⟨nofun, fun h => absurd h.1 hdepth⟩

theorem getElem?_zeros {tree : MerkleTree} {height : Nat} (h : height ≤ tree.depth) :
    tree.zeros[height]? = some (fullNode (List.replicate (2 ^ height) emptyLeaf) height 0) := by
  rw [zeros, getElem?_emptyRootsFrom h, fullNode_replicate]

theorem caches_vacant (depth height : Nat) :
    (Level.vacant (emptyRoot height)).Caches depth [] height where
  empty_eq := (fullNode_replicate _).symm
  size_nodes := (zero_ceilDiv _).symm
  getElem?_nodes := fun j hj => absurd hj (Nat.not_lt_zero j)
  frontier_eq := fun h => absurd rfl h

/-- The empty tree holds the full tree over no leaves. -/
theorem represents_create {depth : Nat} {tree : MerkleTree} (h : create depth = .ok tree) :
    tree.Represents depth [] := by
  obtain ⟨-, rfl⟩ := create_eq_ok_iff.mp h
  have hdepth :
      (((emptyRootsFrom emptyLeaf depth).take depth).map Level.vacant).length = depth := by
    rw [List.length_map, List.length_take, length_emptyRootsFrom,
      Nat.min_eq_left (Nat.le_succ depth)]
  refine ⟨hdepth, rfl, by rw [fullNode_padded, fullNode_nil], fun height level hlevel => ?_,
    fun height hle => getElem?_zeros (hle.trans hdepth.ge)⟩
  have hlt : height < depth := hdepth ▸ (List.getElem?_eq_some_iff.mp hlevel).1
  rw [List.getElem?_map, List.getElem?_take_of_lt hlt, getElem?_emptyRootsFrom hlt.le] at hlevel
  obtain rfl := Option.some.inj hlevel
  exact caches_vacant depth height

/-! ## Runs of insertions -/

section Runs

variable {depth : Nat} {leaves : List Scalar} {leaf : Scalar} {tree next : MerkleTree}

namespace Represents

theorem capacity_eq (h : tree.Represents depth leaves) : tree.capacity = 2 ^ depth := by
  rw [capacity, Nat.one_shiftLeft, h.depth_eq]

theorem cachesFrom (h : tree.Represents depth leaves) :
    CachesFrom depth leaves 0 tree.levels := fun k level hk => by
  rw [Nat.zero_add]
  exact h.caches k level hk

/-- **One insertion** into a tree that is not full is accepted at the next index, and the tree holds
the longer list of leaves. -/
theorem exists_insert (h : tree.Represents depth leaves) (hfit : leaves.length < 2 ^ depth)
    (leaf : Scalar) : ∃ next, tree.insert leaf = .ok (leaves.length, next) ∧
      next.Represents depth (leaves ++ [leaf]) := by
  -- At the lowest height the node above the new leaf is the leaf itself.
  obtain ⟨hlevels, hroot⟩ := climb_caches leaf tree.levels h.cachesFrom
  have hleaf : fullNode (leaves ++ [leaf]) 0 (leaves.length / 2 ^ 0) = leaf := by
    simp [fullNode_zero]
  rw [hleaf, pow_zero, Nat.div_one] at hlevels hroot
  refine ⟨_, by rw [insert, if_neg (by rw [h.size_eq, h.capacity_eq]; exact hfit.ne), h.size_eq],
    ?_⟩
  have hdepth : (climb tree.levels leaves.length leaf).1.length = depth := by
    rw [length_climb]
    exact h.depth_eq
  refine ⟨hdepth, by simp, ?_, fun height level hlevel => ?_,
    fun height hle => getElem?_zeros (hle.trans hdepth.ge)⟩
  · rw [fullNode_padded, hroot, Nat.zero_add, show tree.levels.length = depth from h.depth_eq,
      Nat.div_eq_of_lt hfit]
  · rw [← Nat.zero_add height]
    exact hlevels height level hlevel

theorem insert_eq_full (h : tree.Represents depth leaves) (hfull : leaves.length = 2 ^ depth) :
    tree.insert leaf = .error (.full (2 ^ depth)) := by
  rw [insert, if_pos (by rw [h.size_eq, h.capacity_eq, hfull]), h.capacity_eq]

end Represents

/-- **Every run of insertions** ends in a tree of a supported depth that holds the full tree over
the inserted leaves, and these fit. -/
theorem Reached.represents (h : Reached depth leaves tree) :
    (minDepth ≤ depth ∧ depth ≤ maxDepth) ∧ leaves.length ≤ 2 ^ depth ∧
      tree.Represents depth leaves := by
  -- Induction on the run: an insertion that was accepted started from a tree that was not full.
  induction h with
  | create created =>
    exact ⟨(create_eq_ok_iff.mp created).1, Nat.zero_le _, represents_create created⟩
  | @insert leaves tree next leaf index reached inserted ih =>
    obtain ⟨hdepth, hle, hrep⟩ := ih
    rcases hle.lt_or_eq with hlt | hfull
    · obtain ⟨next', heq, hrep'⟩ := hrep.exists_insert hlt leaf
      obtain ⟨-, rfl⟩ : leaves.length = index ∧ next' = next := by
        simpa using heq.symm.trans inserted
      refine ⟨hdepth, ?_, hrep'⟩
      rw [List.length_append, List.length_singleton]
      exact hlt
    · rw [hrep.insert_eq_full hfull] at inserted
      cases inserted

theorem Reached.exists_insertAll (h : Reached depth leaves tree) (more : List Scalar)
    (hfit : (leaves ++ more).length ≤ 2 ^ depth) :
    ∃ next, tree.insertAll more = .ok next ∧ Reached depth (leaves ++ more) next := by
  induction more generalizing leaves tree with
  | nil => exact ⟨tree, rfl, by rwa [List.append_nil]⟩
  | cons leaf more ih =>
    have hlt : leaves.length < 2 ^ depth := by
      simp only [List.length_append, List.length_cons] at hfit
      omega
    obtain ⟨next, heq, -⟩ := h.represents.2.2.exists_insert hlt leaf
    rw [List.append_cons] at hfit ⊢
    obtain ⟨last, hlast, hreached⟩ := ih (h.insert heq) hfit
    refine ⟨last, ?_, hreached⟩
    rw [insertAll, heq]
    exact hlast

/-- What leaves are inserted into is a run of insertions. -/
theorem Reached.of_insertAll (h : Reached depth leaves tree) {more : List Scalar}
    (hall : tree.insertAll more = .ok next) : Reached depth (leaves ++ more) next := by
  induction more generalizing leaves tree with
  | nil =>
    obtain rfl := Except.ok.inj hall
    rwa [List.append_nil]
  | cons leaf more ih =>
    obtain ⟨⟨index, grown⟩, hinsert, hrest⟩ := bind_eq_ok_iff.mp hall
    rw [List.append_cons]
    exact ih (h.insert hinsert) hrest

/-- A supported depth has an empty tree. -/
theorem exists_create (hmin : minDepth ≤ depth) (hmax : depth ≤ maxDepth) :
    ∃ tree, create depth = .ok tree :=
  ⟨_, create_eq_ok_iff.mpr ⟨⟨hmin, hmax⟩, rfl⟩⟩

/-- A list of leaves that fits a supported depth is inserted. -/
theorem exists_reached (depth : Nat) (leaves : List Scalar) (hmin : minDepth ≤ depth)
    (hmax : depth ≤ maxDepth) (hfit : leaves.length ≤ 2 ^ depth) :
    ∃ tree, (create depth >>= fun tree => tree.insertAll leaves) = .ok tree ∧
      Reached depth leaves tree := by
  obtain ⟨empty, hempty⟩ := exists_create hmin hmax
  obtain ⟨tree, htree, hreached⟩ := (Reached.create hempty).exists_insertAll leaves hfit
  refine ⟨tree, ?_, hreached⟩
  rw [hempty]
  exact htree

/-- **The tree of a list of leaves** that fits a supported depth is built, and every value that it
caches is that of the full tree. -/
theorem exists_insertAll_represents (hmin : 1 ≤ depth) (hmax : depth ≤ 32)
    (hfit : leaves.length ≤ 2 ^ depth) :
    ∃ tree, (create depth >>= fun tree => tree.insertAll leaves) = .ok tree ∧
      tree.Represents depth leaves := by
  obtain ⟨tree, htree, hreached⟩ := exists_reached depth leaves hmin hmax hfit
  exact ⟨tree, htree, hreached.represents.2.2⟩

/-- Five leaves at depth three: the last node of every level covers some empty leaf. -/
theorem exists_insertAll_represents_five :
    (1 ≤ 3 ∧ 3 ≤ 32 ∧ [5, 6, 7, 8, (9 : Scalar)].length ≤ 2 ^ 3) ∧
      ∃ tree, (create 3 >>= fun tree => tree.insertAll [5, 6, 7, 8, 9]) = .ok tree ∧
        tree.Represents 3 [5, 6, 7, 8, 9] :=
  ⟨by decide, exists_insertAll_represents (by decide) (by decide) (by decide)⟩

end Runs

end MerkleTree

end GroupSignal
