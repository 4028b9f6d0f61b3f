import GroupSignal.Proofs.Fallible
import GroupSignal.Proofs.Signal.Completeness

/-!
# Members without a group

The tree that holds a commitment alone has nothing but empty subtrees beside its path. The nodes of
the path are therefore hashes of the commitment with the roots of empty trees, whether they are read
off the proof, as the prover does, or off the tree, as the verifier does. Both see one root, and the
root tells the commitment, unless two nodes of a level collide.

## Main definitions

* `Authentication.node`: the nodes above a commitment that stands alone
* `Authentication.path`: the path from it

## Main results

* `Authentication.exists_tree`: the tree of a commitment, its proof and its root
* `Authentication.eq_or_collides`: what commitments with one root have in common
* `Authentication.generate_eq`, `Authentication.verify_eq`: the protocol along the path
* `Authentication.outcome`: refusals, completeness and binding
-/

namespace GroupSignal.Authentication

variable {depth : ℕ} {commitment : Scalar}

/-! ## The nodes above a leaf that stands alone -/

/-- The node of a level above a commitment, hashed with the roots of empty trees on the way. -/
def node (zeros : List Scalar) (commitment : Scalar) (level : ℕ) : Scalar :=
  (zeros.take level).foldl hash2 commitment

/-- The path from a commitment at index zero, with empty subtrees on its right. -/
def path (depth : ℕ) : MerkleProof where
  leafIndex := 0
  path := ((emptyRootsFrom emptyLeaf depth).take depth).map Branch.left

section Nodes

variable {zeros : List Scalar} {level : ℕ}

theorem node_succ {zero : Scalar} (h : zeros[level]? = some zero) :
    node zeros commitment (level + 1) = hash2 (node zeros commitment level) zero := by
  unfold node
  rw [List.take_add_one, h, List.foldl_append, Option.toList_some, List.foldl_cons, List.foldl_nil]

theorem node_succ_of_none (h : zeros[level]? = none) :
    node zeros commitment (level + 1) = node zeros commitment level := by
  unfold node
  rw [List.take_add_one, h, Option.toList_none, List.append_nil]

/-- **Commitments with one node above them** are the same, or two different nodes of a level below
have one hash with the root of the empty tree there. -/
theorem eq_or_collides {commitment commitment' : Scalar}
    (h : node zeros commitment level = node zeros commitment' level) :
    commitment = commitment' ∨ ∃ l < level, ∃ zero, zeros[l]? = some zero ∧
      node zeros commitment l ≠ node zeros commitment' l ∧
      hash2 (node zeros commitment l) zero = hash2 (node zeros commitment' l) zero := by
  -- Induction on the level: the nodes below either differ, and collide, or are equal again.
  induction level with
  | zero => exact .inl h
  | succ level ih =>
    have hbelow : node zeros commitment level = node zeros commitment' level →
        commitment = commitment' ∨ ∃ l < level + 1, ∃ zero, zeros[l]? = some zero ∧
          node zeros commitment l ≠ node zeros commitment' l ∧
          hash2 (node zeros commitment l) zero = hash2 (node zeros commitment' l) zero := by
      intro heq
      rcases ih heq with hsame | ⟨l, hl, hcollide⟩
      · exact .inl hsame
      · exact .inr ⟨l, hl.trans (Nat.lt_succ_self level), hcollide⟩
    rcases hzero : zeros[level]? with _ | zero
    · rw [node_succ_of_none hzero, node_succ_of_none hzero] at h
      exact hbelow h
    · rw [node_succ hzero, node_succ hzero] at h
      by_cases heq : node zeros commitment level = node zeros commitment' level
      · exact hbelow heq
      · exact .inr ⟨level, Nat.lt_succ_self level, zero, hzero, heq, h⟩

end Nodes

theorem root_path : (path depth).root commitment =
    node (emptyRootsFrom emptyLeaf depth) commitment depth := by
  unfold path MerkleProof.root node
  rw [List.foldl_map]
  rfl

theorem depth_path : (path depth).depth = depth := by
  unfold path MerkleProof.depth
  rw [List.length_map, List.length_take, MerkleTree.length_emptyRootsFrom]
  exact Nat.min_eq_left (Nat.le_succ depth)

/-- The path is that of the first leaf in the full tree over the commitment. -/
theorem fullProof_singleton : fullProof [commitment] depth 0 = path depth := by
  have hpath : fullPath [commitment] 0 0 depth = (path depth).path := by
    refine List.ext_getElem? fun level => ?_
    rcases Nat.lt_or_ge level depth with hlt | hge
    · -- The neighbour of the node at position zero has no given leaf below it.
      have hempty : fullNode [commitment] level 1 = emptyRoot level :=
        fullNode_of_ceilDiv_le (by
          rw [ceilDiv_le_iff_le_mul (Nat.two_pow_pos level), List.length_singleton, Nat.mul_one]
          exact Nat.one_le_two_pow)
      have hstep : fullStep [commitment] level (0 >>> level) = .left (emptyRoot level) := by
        rw [Nat.zero_shiftRight, fullStep_of_even rfl, hempty]
      unfold path
      rw [getElem?_fullPath hlt, hstep, List.getElem?_map, List.getElem?_take_of_lt hlt,
        MerkleTree.getElem?_emptyRootsFrom hlt.le]
      rfl
    · have hlength : (path depth).path.length = depth := depth_path
      rw [List.getElem?_eq_none (length_fullPath.trans_le hge),
        List.getElem?_eq_none (hlength.trans_le hge)]
  unfold fullProof
  exact congrArg (MerkleProof.mk 0) hpath

/-! ## The tree -/

theorem tree_of_unsupported (h : ¬(minDepth ≤ depth ∧ depth ≤ maxDepth)) :
    tree depth commitment = .error (.tree (.unsupportedDepth depth)) := by
  have hdepth : isSupportedDepth depth = false :=
    Bool.eq_false_iff.mpr fun hs => h (MerkleTree.isSupportedDepth_iff.mp hs)
  unfold tree MerkleTree.create
  rw [hdepth]
  rfl

/-- **The tree of a commitment** is there for every supported depth. Its proof is the path, and its
root the node above the commitment. -/
theorem exists_tree (commitment : Scalar) (hmin : minDepth ≤ depth) (hmax : depth ≤ maxDepth) :
    ∃ alone, tree depth commitment = .ok alone ∧ alone.proof 0 = .ok (path depth) ∧
      (path depth).isConsistent = true ∧
      alone.root = node (emptyRootsFrom emptyLeaf depth) commitment depth := by
  obtain ⟨empty, hempty⟩ := MerkleTree.exists_create hmin hmax
  have hcreated : MerkleTree.Reached depth [] empty := .create hempty
  obtain ⟨alone, hinsert, hrep⟩ :=
    hcreated.represents.2.2.exists_insert (Nat.two_pow_pos depth) commitment
  have hreached : MerkleTree.Reached depth [commitment] alone := hcreated.insert hinsert
  have hleaf : alone.leaf? 0 = some commitment := hrep.leaf?_eq hmin
  obtain ⟨hproof, hconsistent, hroot⟩ := hreached.proof_eq hleaf
  rw [fullProof_singleton] at hproof hconsistent hroot
  refine ⟨alone, ?_, hproof, hconsistent, ?_⟩
  · unfold tree
    rw [hempty]
    show Except.mapError _ (Except.map _ (empty.insert commitment)) = _
    rw [hinsert]
    rfl
  · rw [← hroot, root_path]

/-! ## The protocol -/

section Protocol

variable {identity : Identity} {externalNullifier signalHash nullifierHash : Scalar}
  {prover : Prover} {verifier : Verifier} {proof : Groth16.Proof}

theorem generate_of_unsupported (h : ¬(minDepth ≤ depth ∧ depth ≤ maxDepth)) :
    generate depth identity externalNullifier signalHash prover =
      .error (.tree (.unsupportedDepth depth)) := by
  unfold generate
  rw [tree_of_unsupported h]
  rfl

theorem verify_of_unsupported (h : ¬(minDepth ≤ depth ∧ depth ≤ maxDepth)) :
    verify depth commitment nullifierHash signalHash externalNullifier proof verifier =
      .error (.tree (.unsupportedDepth depth)) := by
  unfold verify
  rw [tree_of_unsupported h]
  rfl

variable (hmin : minDepth ≤ depth) (hmax : depth ≤ maxDepth)
include hmin hmax

/-- A signal without a group is one along the path. -/
theorem generate_eq : generate depth identity externalNullifier signalHash prover =
    SignalProof.generate identity externalNullifier signalHash (path depth) prover := by
  obtain ⟨alone, htree, hproof, -, -⟩ := exists_tree identity.commitment hmin hmax
  unfold generate
  rw [htree]
  show (Except.mapError _ (alone.proof 0) >>= _) = _
  rw [hproof]
  rfl

/-- The verifier is handed the node above the commitment. -/
theorem verify_eq :
    verify depth commitment nullifierHash signalHash externalNullifier proof verifier =
      (verifier proof [node (emptyRootsFrom emptyLeaf depth) commitment depth, nullifierHash,
        signalHash, externalNullifier]).mapError .proofSystem := by
  obtain ⟨alone, htree, -, -, hroot⟩ := exists_tree commitment hmin hmax
  unfold verify
  rw [htree]
  show verifySignal { root := alone.root, .. } proof verifier = _
  rw [hroot]
  rfl

theorem isSupportedDepth_path : isSupportedDepth (path depth).depth = true := by
  rw [depth_path]
  exact MerkleTree.isSupportedDepth_iff.mpr ⟨hmin, hmax⟩

/-- What goes wrong at a supported depth is no fault of the tree. -/
theorem generate_ne_tree {cause : TreeError} :
    generate depth identity externalNullifier signalHash prover ≠ .error (.tree cause) := by
  obtain ⟨-, -, -, hconsistent, -⟩ := exists_tree identity.commitment hmin hmax
  rw [generate_eq hmin hmax,
    SignalProof.generate_of_consistent (isSupportedDepth_path hmin hmax) hconsistent]
  rcases prover _ with cause' | ⟨proof, computed⟩
  · exact nofun
  · show (if agree computed _ then _ else _ : Except SignalError SignalProof) ≠ _
    split
    · exact nofun
    · exact nofun

theorem verify_ne_tree {cause : TreeError} :
    verify depth commitment nullifierHash signalHash externalNullifier proof verifier ≠
      .error (.tree cause) := by
  rw [verify_eq hmin hmax]
  cases verifier proof _ with
  | error cause' => exact nofun
  | ok verdict => exact nofun

/-- **A member is accepted** when prover and verifier are complete on the member's path. -/
theorem exists_generate (hcomplete : CompleteOn prover verifier
      (SignalProof.request identity externalNullifier signalHash (path depth))) :
    ∃ signal, generate depth identity externalNullifier signalHash prover = .ok signal ∧
      signal.values = { root := node (emptyRootsFrom emptyLeaf depth) identity.commitment depth
                        nullifierHash := identity.nullifierHash externalNullifier
                        signalHash, externalNullifier } ∧
      verify depth identity.commitment signal.values.nullifierHash signalHash externalNullifier
        signal.proof verifier = .ok true := by
  obtain ⟨proof, hprover, hverifier⟩ := hcomplete
  obtain ⟨-, -, -, hconsistent, -⟩ := exists_tree identity.commitment hmin hmax
  have hvalues : SignalProof.expectedValues identity externalNullifier signalHash (path depth) =
      { root := node (emptyRootsFrom emptyLeaf depth) identity.commitment depth
        nullifierHash := identity.nullifierHash externalNullifier
        signalHash, externalNullifier } := by
    rw [SignalProof.expectedValues, root_path]
  -- The values that prover and verifier agree on are the expected ones.
  rw [SignalProof.request, CircuitInput.publicValues_ofPath] at hprover hverifier
  refine ⟨_, (generate_eq hmin hmax).trans (SignalProof.generate_of_prover
    (isSupportedDepth_path hmin hmax) hconsistent hprover), hvalues, ?_⟩
  rw [hvalues] at hverifier ⊢
  rw [verify_eq hmin hmax]
  exact mapError_eq_ok_iff.mpr hverifier

end Protocol

/-- **Members without a group.** A depth is refused just if no tree has it, by both sides and
whatever prover and verifier do. At any other depth, a prover and a verifier that are complete on
the member's path make a signal whose root is the node above the commitment, and the signal is
accepted for this commitment. What the verifier is handed is this node with the other public
values; so if it is handed the same for two commitments, they are the same, or two different nodes
above them collide. -/
theorem outcome (depth : ℕ) (identity : Identity) (externalNullifier signalHash : Scalar)
    (prover : Prover) (verifier : Verifier) :
    let supported := 1 ≤ depth ∧ depth ≤ 32
    let zeros := emptyRootsFrom emptyLeaf depth
    let handed (commitment nullifierHash signalHash externalNullifier : Scalar) : List Scalar :=
      [node zeros commitment depth, nullifierHash, signalHash, externalNullifier]
    (∀ d, generate depth identity externalNullifier signalHash prover =
      .error (.tree (.unsupportedDepth d)) ↔ ¬supported ∧ d = depth) ∧
    (∀ commitment nullifierHash signalHash externalNullifier proof d,
      verify depth commitment nullifierHash signalHash externalNullifier proof verifier =
        .error (.tree (.unsupportedDepth d)) ↔ ¬supported ∧ d = depth) ∧
    (supported →
      CompleteOn prover verifier
        (SignalProof.request identity externalNullifier signalHash (path depth)) →
      ∃ signal, generate depth identity externalNullifier signalHash prover = .ok signal ∧
        signal.values = { root := node zeros identity.commitment depth
                          nullifierHash := identity.nullifierHash externalNullifier
                          signalHash, externalNullifier } ∧
        verify depth identity.commitment signal.values.nullifierHash signalHash externalNullifier
          signal.proof verifier = .ok true) ∧
    (supported → ∀ commitment nullifierHash signalHash externalNullifier proof verifier,
      verify depth commitment nullifierHash signalHash externalNullifier proof verifier =
        (verifier proof (handed commitment nullifierHash signalHash externalNullifier)).mapError
          .proofSystem) ∧
    ∀ c n s e c' n' s' e', handed c n s e = handed c' n' s' e' →
      c = c' ∨ ∃ l < depth, ∃ zero, zeros[l]? = some zero ∧ node zeros c l ≠ node zeros c' l ∧
        hash2 (node zeros c l) zero = hash2 (node zeros c' l) zero := by
  intro supported zeros handed
  refine ⟨fun d => ?_, fun commitment nullifierHash signalHash externalNullifier proof d => ?_,
    fun ⟨hmin, hmax⟩ hcomplete => exists_generate hmin hmax hcomplete,
    fun ⟨hmin, hmax⟩ _ _ _ _ _ _ => verify_eq hmin hmax, ?_⟩
  · by_cases hsupported : supported
    · obtain ⟨hmin, hmax⟩ := hsupported
      exact iff_of_false (generate_ne_tree hmin hmax) fun h => h.1 ⟨hmin, hmax⟩
    · rw [generate_of_unsupported hsupported]
      simp [hsupported, eq_comm]
  · by_cases hsupported : supported
    · obtain ⟨hmin, hmax⟩ := hsupported
      exact iff_of_false (verify_ne_tree hmin hmax) fun h => h.1 ⟨hmin, hmax⟩
    · rw [verify_of_unsupported hsupported]
      simp [hsupported, eq_comm]
  · intro c n s e c' n' s' e' heq
    exact eq_or_collides (List.cons.inj heq).1

/-- Two levels, with a prover that gives out one proof, and a verifier that accepts this proof for
the values of the member's input alone; and a depth that no tree has. -/
theorem outcome_two :
    let identity : Identity := { trapdoor := 3, nullifier := 4 }
    let only : Groth16.Proof := { a := .infinity, b := .infinity, c := .infinity }
    let input := SignalProof.request identity 1 2 (path 2)
    let verifier : Verifier := fun proof values =>
      .ok (proof = only ∧ values = input.publicValues.toList)
    (1 ≤ 2 ∧ 2 ≤ 32) ∧ CompleteOn (Prover.constant only) verifier input ∧
      (∃ signal, generate 2 identity 1 2 (Prover.constant only) = .ok signal ∧
        signal.values.root = hash2 (hash2 identity.commitment 0) (hash2 0 0) ∧
        verify 2 identity.commitment signal.values.nullifierHash 2 1 signal.proof verifier =
          .ok true) ∧
      generate 33 identity 1 2 (Prover.constant only) = .error (.tree (.unsupportedDepth 33)) := by
  intro identity only input verifier
  have hcomplete : CompleteOn (Prover.constant only) verifier input :=
    ⟨only, rfl, congrArg Except.ok (decide_eq_true ⟨rfl, rfl⟩)⟩
  obtain ⟨-, -, hsignal, -⟩ := outcome 2 identity 1 2 (Prover.constant only) verifier
  obtain ⟨hrefused, -⟩ := outcome 33 identity 1 2 (Prover.constant only) verifier
  obtain ⟨signal, hgenerate, hvalues, hverify⟩ := hsignal (by decide) hcomplete
  refine ⟨by decide, hcomplete, ⟨signal, hgenerate, ?_, hverify⟩,
    (hrefused 33).mpr ⟨by decide, rfl⟩⟩
  rw [hvalues]
  show node (emptyRootsFrom emptyLeaf 2) identity.commitment 2 = _
  rw [node_succ (MerkleTree.getElem?_emptyRootsFrom (by decide)),
    node_succ (MerkleTree.getElem?_emptyRootsFrom (by decide))]
  rfl

end GroupSignal.Authentication
