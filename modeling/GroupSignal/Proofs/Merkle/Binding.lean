import GroupSignal.Proofs.Merkle.Insertion

/-!
# A root binds its group

Two full trees of one depth are compared from their roots down. Equal nodes have equal children, or
their children are different pairs with one hash. So trees with one root have the same leaves, or
there is a place in both where the hash collides. The leaves of a full tree are a list of members up
to empty leaves behind the last one, and that is all that a root leaves open.

## Main definitions

* `CollideSomewhere`: two full trees have colliding children at the same place

## Main results

* `getD_eq_or_collides`: what is below equal nodes of two full trees
* `padded_eq_iff`: lists of members with the same leaves
* `MerkleTree.Reached.root_binds`: what trees with one root have in common
-/

namespace GroupSignal

/-- At some height and position below the roots, the children of two full trees of a depth are
different ordered pairs with one hash. -/
def CollideSomewhere (depth : ℕ) (xs ys : List Scalar) : Prop :=
  ∃ height < depth, ∃ position < 2 ^ (depth - (height + 1)),
    Collides (fullChildren xs height position) (fullChildren ys height position)

/-! ## Down from equal nodes -/

section Down

variable {xs ys : List Scalar} {height position : ℕ}

/-- **Equal nodes of two full trees** have the same leaves below them, or the children of a node
below them collide. -/
theorem getD_eq_or_collides (h : fullNode xs height position = fullNode ys height position) :
    (∀ i, i / 2 ^ height = position → xs.getD i emptyLeaf = ys.getD i emptyLeaf) ∨
      ∃ k < height, ∃ p, p / 2 ^ (height - (k + 1)) = position ∧
        Collides (fullChildren xs k p) (fullChildren ys k p) := by
  -- Induction on the height, from the node down to either child.
  induction height generalizing position with
  | zero =>
    refine .inl fun i hi => ?_
    rw [pow_zero, Nat.div_one] at hi
    rw [hi]
    exact h
  | succ height ih =>
    by_cases hchildren : fullChildren xs height position = fullChildren ys height position
    · -- A collision below a child is below the node.
      have below : ∀ child, child / 2 = position →
          (∃ k < height, ∃ p, p / 2 ^ (height - (k + 1)) = child ∧
            Collides (fullChildren xs k p) (fullChildren ys k p)) →
          ∃ k < height + 1, ∃ p, p / 2 ^ (height + 1 - (k + 1)) = position ∧
            Collides (fullChildren xs k p) (fullChildren ys k p) := by
        rintro child hchild ⟨k, hk, p, hp, hcollides⟩
        refine ⟨k, hk.trans (Nat.lt_succ_self height), p, ?_, hcollides⟩
        rw [Nat.succ_sub hk, div_two_pow_succ, hp, hchild]
      obtain ⟨hleft, hright⟩ := Prod.mk.inj hchildren
      rcases ih hleft with hleaves | hcollides
      · rcases ih hright with hleaves' | hcollides
        · refine .inl fun i hi => ?_
          rw [div_two_pow_succ] at hi
          rcases Nat.mod_two_eq_zero_or_one (i / 2 ^ height) with heven | hodd
          · exact hleaves i (by omega)
          · exact hleaves' i (by omega)
        · exact .inr (below _ (by omega) hcollides)
      · exact .inr (below _ (by omega) hcollides)
    · refine .inr ⟨height, Nat.lt_succ_self height, position, ?_, hchildren, ?_⟩
      · rw [Nat.sub_self, pow_zero, Nat.div_one]
      · rwa [fullNode_succ, fullNode_succ] at h

end Down

/-! ## Leaves and members -/

section Leaves

variable {depth : ℕ} {xs ys : List Scalar}

theorem length_padded (h : xs.length ≤ 2 ^ depth) : (padded depth xs).length = 2 ^ depth := by
  rw [padded, List.length_rightpad, Nat.max_eq_left h]

/-- The leaves of a full tree are those of another when they are at every index. -/
theorem padded_eq_iff_getD (hx : xs.length ≤ 2 ^ depth) (hy : ys.length ≤ 2 ^ depth) :
    padded depth xs = padded depth ys ↔
      ∀ i < 2 ^ depth, xs.getD i emptyLeaf = ys.getD i emptyLeaf := by
  constructor
  · intro h i _
    rw [← getD_padded depth, h, getD_padded]
  · intro h
    refine List.ext_getElem? fun i => ?_
    rcases Nat.lt_or_ge i (2 ^ depth) with hlt | hge
    · rw [getElem?_padded hlt, getElem?_padded hlt, h i hlt]
    · rw [List.getElem?_eq_none ((length_padded hx).trans_le hge),
        List.getElem?_eq_none ((length_padded hy).trans_le hge)]

theorem padded_append_replicate (xs : List Scalar) (n : ℕ)
    (h : (xs ++ List.replicate n emptyLeaf).length ≤ 2 ^ depth) :
    padded depth (xs ++ List.replicate n emptyLeaf) = padded depth xs := by
  have hxs : xs.length ≤ 2 ^ depth := by
    rw [List.length_append] at h
    omega
  rw [padded_eq_iff_getD h hxs]
  intro i _
  rcases Nat.lt_or_ge i xs.length with hlt | hge
  · rw [List.getD_append _ _ _ _ hlt]
  · rw [List.getD_append_right _ _ _ _ hge, List.getD_eq_default _ _ hge]
    rw [List.getD_eq_getElem?_getD, List.getElem?_replicate]
    split <;> rfl

/-- A shorter list with the same leaves lacks empty leaves at its end. -/
theorem exists_eq_append_replicate (hlength : xs.length ≤ ys.length) (hy : ys.length ≤ 2 ^ depth)
    (h : padded depth xs = padded depth ys) :
    ys = xs ++ List.replicate (ys.length - xs.length) emptyLeaf := by
  have hgetD := (padded_eq_iff_getD (hlength.trans hy) hy).mp h
  refine List.ext_getElem (by simp [hlength]) fun i hi _ => ?_
  have heq := hgetD i (hi.trans_le hy)
  rw [List.getD_eq_getElem _ _ hi] at heq
  rcases Nat.lt_or_ge i xs.length with hlt | hge
  · rw [List.getElem_append_left hlt, ← heq, List.getD_eq_getElem _ _ hlt]
  · rw [List.getElem_append_right hge, List.getElem_replicate, ← heq, List.getD_eq_default _ _ hge]

/-- **Lists of members with the same leaves** differ by empty leaves at the end of one of them. -/
theorem padded_eq_iff (hx : xs.length ≤ 2 ^ depth) (hy : ys.length ≤ 2 ^ depth) :
    padded depth xs = padded depth ys ↔
      ∃ n, ys = xs ++ List.replicate n emptyLeaf ∨ xs = ys ++ List.replicate n emptyLeaf := by
  constructor
  · intro h
    rcases Nat.le_total xs.length ys.length with hle | hle
    · exact ⟨_, .inl (exists_eq_append_replicate hle hy h)⟩
    · exact ⟨_, .inr (exists_eq_append_replicate hle hx h.symm)⟩
  · rintro ⟨n, rfl | rfl⟩
    · exact (padded_append_replicate xs n hy).symm
    · exact padded_append_replicate ys n hx

end Leaves

/-! ## Roots -/

namespace MerkleTree

variable {depth : ℕ} {xs ys : List Scalar} {tree other : MerkleTree}

/-- **A root binds its group.** Trees of one depth with the same leaves have one root. Trees with
one root have the same leaves, or collide somewhere; and where they do not collide, different
members are the same up to empty leaves at the end. -/
theorem Reached.root_binds (h : Reached depth xs tree) (h' : Reached depth ys other) :
    (padded depth xs = padded depth ys → tree.root = other.root) ∧
    (tree.root = other.root → padded depth xs = padded depth ys ∨
      CollideSomewhere depth (padded depth xs) (padded depth ys)) ∧
    (tree.root = other.root → ¬CollideSomewhere depth (padded depth xs) (padded depth ys) →
      xs ≠ ys → ∃ n, 0 < n ∧
        (ys = xs ++ List.replicate n emptyLeaf ∨ xs = ys ++ List.replicate n emptyLeaf)) := by
  obtain ⟨-, hx, hrep⟩ := h.represents
  obtain ⟨-, hy, hrep'⟩ := h'.represents
  have hbound : tree.root = other.root → padded depth xs = padded depth ys ∨
      CollideSomewhere depth (padded depth xs) (padded depth ys) := by
    intro hroot
    rw [hrep.root_eq, hrep'.root_eq] at hroot
    rcases getD_eq_or_collides hroot with hleaves | ⟨k, hk, p, hp, hcollides⟩
    · refine .inl ((padded_eq_iff_getD hx hy).mpr fun i hi => ?_)
      have hsame := hleaves i (Nat.div_eq_of_lt hi)
      rwa [getD_padded, getD_padded] at hsame
    · -- A position below the only node of the highest level is among those of its level.
      refine .inr ⟨k, hk, p, ?_, hcollides⟩
      exact (Nat.div_eq_zero_iff_lt (Nat.two_pow_pos _)).mp hp
  refine ⟨fun hleaves => by rw [hrep.root_eq, hrep'.root_eq, hleaves], hbound, ?_⟩
  intro hroot hfree hne
  obtain ⟨n, hn⟩ := (padded_eq_iff hx hy).mp ((hbound hroot).resolve_right hfree)
  refine ⟨n, Nat.pos_of_ne_zero ?_, hn⟩
  rintro rfl
  rcases hn with heq | heq
  · exact hne (by simpa using heq.symm)
  · exact hne (by simpa using heq)

/-- Two members have the root of the same two with an empty leaf behind them. -/
theorem Reached.root_binds_trailing : ∃ tree other, Reached 3 [5, 6] tree ∧
    Reached 3 [5, 6, emptyLeaf] other ∧ padded 3 [5, 6] = padded 3 [5, 6, emptyLeaf] ∧
      tree.root = other.root := by
  obtain ⟨tree, -, h⟩ := exists_reached 3 [5, 6] (by decide) (by decide) (by decide)
  obtain ⟨other, -, h'⟩ := exists_reached 3 [5, 6, emptyLeaf] (by decide) (by decide) (by decide)
  have hleaves : padded 3 [5, 6] = padded 3 [5, 6, emptyLeaf] := by decide
  exact ⟨tree, other, h, h', hleaves, (h.root_binds h').1 hleaves⟩

end MerkleTree

end GroupSignal
