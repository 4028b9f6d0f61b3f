import GroupSignal.Merkle.Proof
import Mathlib.Data.Nat.Bitwise

/-!
# What consistency of a Merkle proof says

The check shifts and masks a 64-bit index. Paths that are not longer than the deepest tree keep
every shift below the width of the index, so the check can be read on numbers: the index is below
`2 ^ depth`, and the step at a level has the side that the bit of the index says.

## Main definitions

* `MerkleProof.LeadsToLeaf`: the index fits the path, and the sides of the steps are its bits

## Main results

* `followsBits_cons`: the steps of a path carry the bits of the index
* `isConsistent_iff`: consistency on numbers
* `isConsistent_iff_leadsToLeaf`: the check of a path that is not too long
-/

namespace GroupSignal.MerkleProof

/-- No path that is short enough reaches the width of an index. -/
theorem maxDepth_lt_width : maxDepth < 64 := by decide

theorem toNat_shiftRight_ofNat (index : UInt64) {level : Nat} (h : level < 64) :
    (index >>> UInt64.ofNat level).toNat = index.toNat / 2 ^ level := by
  have hlt : level < UInt64.size := h.trans (by decide)
  rw [UInt64.toNat_shiftRight, UInt64.toNat_ofNat_of_lt' hlt, Nat.mod_eq_of_lt h,
    Nat.shiftRight_eq_div_pow]

/-- The bit at a level that a shift reaches is that of the number. -/
theorem toNat_bitAt (index : UInt64) {level : Nat} (h : level < 64) :
    ((index >>> UInt64.ofNat level) &&& 1).toNat = index.toNat / 2 ^ level % 2 := by
  rw [UInt64.toNat_and, toNat_shiftRight_ofNat index h]
  exact Nat.and_one_is_mod _

theorem followsBits_cons {index : UInt64} {level : Nat} {step : Branch} {rest : List Branch}
    (h : level < 64) : followsBits index level (step :: rest) = true ↔
      step.bit.toNat = index.toNat / 2 ^ level % 2 ∧ followsBits index (level + 1) rest = true := by
  rw [followsBits, Bool.and_eq_true, beq_iff_eq, ← UInt64.toNat_inj, toNat_bitAt index h, eq_comm]

theorem isConsistent_iff {proof : MerkleProof} : proof.isConsistent = true ↔
    proof.depth ≤ maxDepth ∧ proof.leafIndex.toNat < 2 ^ proof.depth ∧
      followsBits proof.leafIndex 0 proof.path = true := by
  unfold isConsistent
  by_cases hdepth : maxDepth < proof.depth
  · rw [if_pos hdepth]
    simp [hdepth]
  · have hlt : proof.depth < 64 := (Nat.le_of_not_lt hdepth).trans_lt maxDepth_lt_width
    -- With the shift in range, nothing is left of the index just when it is below the capacity.
    have hshift : proof.leafIndex >>> UInt64.ofNat proof.depth = 0 ↔
        proof.leafIndex.toNat < 2 ^ proof.depth := by
      rw [← UInt64.toNat_inj, toNat_shiftRight_ofNat _ hlt, UInt64.toNat_zero,
        Nat.div_eq_zero_iff_lt (Nat.two_pow_pos _)]
    rw [if_neg hdepth, ← hshift]
    by_cases hzero : proof.leafIndex >>> UInt64.ofNat proof.depth = 0
    · simp [hzero, Nat.le_of_not_lt hdepth]
    · simp [hzero]

/-- A path leads to the leaf that it names: the index of the leaf is below the number of leaves of a
tree that deep, and at every level the step stands on the side that the bit of the index says. -/
structure LeadsToLeaf (proof : MerkleProof) : Prop where
  index_lt : proof.leafIndex.toNat < 2 ^ proof.depth
  bit_eq : ∀ level step, proof.path[level]? = some step →
    step.bit.toNat = proof.leafIndex.toNat / 2 ^ level % 2

theorem followsBits_iff {index : UInt64} {level : Nat} {path : List Branch}
    (h : level + path.length ≤ 64) : followsBits index level path = true ↔
      ∀ k step, path[k]? = some step → step.bit.toNat = index.toNat / 2 ^ (level + k) % 2 := by
  -- Induction on the path, from every level: the first step stands at the level, the rest above it.
  induction path generalizing level with
  | nil => simp [followsBits]
  | cons first rest ih =>
    rw [List.length_cons] at h
    rw [followsBits_cons (by omega), ih (by omega)]
    constructor
    · rintro ⟨hfirst, hrest⟩ k step hstep
      cases k with
      | zero =>
        obtain rfl : first = step := by simpa using hstep
        exact hfirst
      | succ k =>
        rw [Nat.add_left_comm, Nat.add_comm k]
        exact hrest k step (by simpa using hstep)
    · intro hall
      refine ⟨hall 0 first rfl, fun k step hstep => ?_⟩
      rw [Nat.add_assoc, Nat.add_comm 1]
      exact hall (k + 1) step (by simpa using hstep)

/-- **The check of a path** that is not too long says that it leads to the leaf that it names. -/
theorem isConsistent_iff_leadsToLeaf {proof : MerkleProof} (h : proof.depth ≤ maxDepth) :
    proof.isConsistent = true ↔ proof.LeadsToLeaf := by
  have hwidth : 0 + proof.path.length ≤ 64 := by
    rw [Nat.zero_add]
    exact h.trans maxDepth_lt_width.le
  rw [isConsistent_iff, followsBits_iff hwidth]
  simp only [Nat.zero_add]
  exact ⟨fun hc => ⟨hc.2.1, hc.2.2⟩, fun hl => ⟨h, hl.index_lt, hl.bit_eq⟩⟩

end GroupSignal.MerkleProof
