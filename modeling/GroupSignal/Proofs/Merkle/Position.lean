import Mathlib.Algebra.BigOperators.Fin
import GroupSignal.Proofs.Merkle.Arrays

/-!
# The position that a path writes

The sides of the steps are the binary digits of a number, the lowest first. The check of a proof
compares them with the bits of the index one by one, and asks whether anything of the index is left
above them; together this says that the index is the number. So a path that is not too long has
exactly one index, and the check needs no shift that a word does not allow, because longer paths are
turned away before the first one.

## Main definitions

* `position`: the number that the sides of a path write
* `followsBits?`, `isConsistent?`: the check, with shifts that may break off

## Main results

* `eq_position_iff`: the position by its size and its bits
* `isConsistent_iff_eq_position`: the check says that the index is the position
* `isConsistent?_eq`: no shift of the check reaches the width of a word
* `consistent_position`: which indices the check accepts
-/

namespace GroupSignal.MerkleProof

/-- The number that the sides of the steps write in binary, the lowest digit first. -/
def position (path : List Branch) : ℕ :=
  ∑ level : Fin path.length, path[level].bit.toNat * 2 ^ level.val

/-! ## Positions and their bits -/

section Bits

variable {step : Branch} {path : List Branch} {n : ℕ}

theorem toNat_bit_lt (step : Branch) : step.bit.toNat < 2 := by
  cases step with
  | left => exact Nat.two_pos
  | right => exact Nat.one_lt_two

theorem position_nil : position [] = 0 := rfl

/-- The lowest step has the lowest bit, and those above it write the half. -/
theorem position_cons (step : Branch) (path : List Branch) :
    position (step :: path) = step.bit.toNat + 2 * position path := by
  have hrest : ∀ level : Fin path.length, path[level].bit.toNat * 2 ^ (level.val + 1) =
      2 * (path[level].bit.toNat * 2 ^ level.val) := by
    intro level
    rw [pow_succ, ← Nat.mul_assoc, Nat.mul_comm]
  calc position (step :: path)
      = step.bit.toNat * 2 ^ 0 +
          ∑ level : Fin path.length, path[level].bit.toNat * 2 ^ (level.val + 1) :=
        Fin.sum_univ_succ _
    _ = step.bit.toNat + 2 * position path := by
        rw [pow_zero, Nat.mul_one, position, Finset.mul_sum]
        simp only [hrest]

/-- The position is known from its parity and its half. -/
theorem eq_position_cons_iff :
    n = position (step :: path) ↔ step.bit.toNat = n % 2 ∧ n / 2 = position path := by
  have hbit := toNat_bit_lt step
  rw [position_cons]
  omega

/-- **The position of a path** is the number with as many binary digits whose bits are the sides of
the steps. -/
theorem eq_position_iff : n = position path ↔ n < 2 ^ path.length ∧
    ∀ level step, path[level]? = some step → step.bit.toNat = n / 2 ^ level % 2 := by
  -- Induction on the path, for every number: the steps above the first are compared with the half.
  induction path generalizing n with
  | nil => simp [position_nil]
  | cons first rest ih =>
    have hsize : n / 2 < 2 ^ rest.length ↔ n < 2 ^ (rest.length + 1) := by
      rw [Nat.div_lt_iff_lt_mul Nat.two_pos, pow_succ]
    have hbit : ∀ level, n / 2 / 2 ^ level = n / 2 ^ (level + 1) := by
      intro level
      rw [Nat.div_div_eq_div_mul, pow_succ']
    rw [eq_position_cons_iff, ih, hsize, List.length_cons]
    simp only [hbit]
    constructor
    · rintro ⟨hfirst, hlt, hrest⟩
      refine ⟨hlt, fun level step hstep => ?_⟩
      cases level with
      | zero =>
        obtain rfl : first = step := by simpa using hstep
        simpa using hfirst
      | succ level => exact hrest level step (by simpa using hstep)
    · rintro ⟨hlt, hall⟩
      refine ⟨?_, hlt, fun level step hstep => hall (level + 1) step (by simpa using hstep)⟩
      simpa using hall 0 first rfl

theorem position_lt (path : List Branch) : position path < 2 ^ path.length :=
  (eq_position_iff.mp rfl).1

end Bits

/-! ## The index of a path -/

section Index

variable {proof : MerkleProof} {path : List Branch}

/-- **The check of a proof** says that its path is not too long and that its index is the position
of the path. -/
theorem isConsistent_iff_eq_position : proof.isConsistent = true ↔
    proof.depth ≤ maxDepth ∧ proof.leafIndex.toNat = position proof.path := by
  by_cases hdepth : proof.depth ≤ maxDepth
  · rw [isConsistent_iff_leadsToLeaf hdepth, eq_position_iff, and_iff_right hdepth]
    exact ⟨fun h => ⟨h.index_lt, h.bit_eq⟩, fun h => ⟨h.1, h.2⟩⟩
  · rw [isConsistent_iff]
    exact iff_of_false (fun h => hdepth h.1) fun h => hdepth h.1

/-- The position of a path that is not too long is an index. -/
theorem toNat_ofNat_position (h : path.length ≤ maxDepth) :
    (UInt64.ofNat (position path)).toNat = position path := by
  have hpow : 2 ^ path.length ≤ 2 ^ maxDepth := Nat.pow_le_pow_right Nat.two_pos h
  exact UInt64.toNat_ofNat_of_lt' ((position_lt path).trans_le (hpow.trans (by decide)))

theorem isConsistent_ofNat_position (h : path.length ≤ maxDepth) :
    isConsistent ⟨UInt64.ofNat (position path), path⟩ = true :=
  isConsistent_iff_eq_position.mpr ⟨h, toNat_ofNat_position h⟩

/-- A path has no other index than its position. -/
theorem eq_ofNat_position_of_isConsistent {index : UInt64}
    (h : isConsistent ⟨index, path⟩ = true) : index = UInt64.ofNat (position path) := by
  obtain ⟨hdepth, hindex⟩ := isConsistent_iff_eq_position.mp h
  rw [← UInt64.toNat_inj, toNat_ofNat_position hdepth]
  exact hindex

end Index

/-! ## The shifts of the check -/

/-- Whether the steps from `level` on carry the bits of an index, with shifts that may break off. -/
def followsBits? (index level : ℕ) : List Branch → Option Bool
  | [] => some true
  | step :: rest => do
    let shifted ← Word.shiftRight? index level
    if shifted &&& 1 = step.bit.toNat then followsBits? index (level + 1) rest else return false

/-- The check of a proof, with shifts that may break off. -/
def isConsistent? (proof : MerkleProof) : Option Bool :=
  if maxDepth < proof.depth then some false
  else do
    let above ← Word.shiftRight? proof.leafIndex.toNat proof.depth
    if above ≠ 0 then return false else followsBits? proof.leafIndex.toNat 0 proof.path

section Shifts

variable {index : UInt64} {level : ℕ} {path : List Branch}

theorem shiftRight?_toNat (h : level < Word.width) :
    Word.shiftRight? index.toNat level = some (index >>> UInt64.ofNat level).toNat := by
  rw [Word.shiftRight?_eq h, toNat_shiftRight_ofNat index h]

/-- The steps of a path below the width are compared without breaking off. -/
theorem followsBits?_eq (h : level + path.length ≤ Word.width) :
    followsBits? index.toNat level path = some (followsBits index level path) := by
  induction path generalizing level with
  | nil => rfl
  | cons step rest ih =>
    rw [List.length_cons] at h
    have hbit : (index >>> UInt64.ofNat level).toNat &&& 1 = step.bit.toNat ↔
        ((index >>> UInt64.ofNat level) &&& 1 == step.bit) = true := by
      rw [beq_iff_eq, ← UInt64.toNat_inj, UInt64.toNat_and]
      rfl
    rw [followsBits?, shiftRight?_toNat (by omega), ih (by omega), followsBits]
    by_cases hstep : ((index >>> UInt64.ofNat level) &&& 1 == step.bit) = true
    · simp only [Option.bind_eq_bind, Option.bind_some, if_pos (hbit.mpr hstep), hstep,
        Bool.true_and]
    · simp only [Option.bind_eq_bind, Option.bind_some, if_neg (mt hbit.mp hstep),
        Bool.eq_false_of_not_eq_true hstep, Bool.false_and]
      rfl

/-- **No shift of the check** reaches the width of a word, whatever the index and the length of the
path. -/
theorem isConsistent?_eq (proof : MerkleProof) :
    proof.isConsistent? = some proof.isConsistent := by
  rw [isConsistent?, isConsistent]
  by_cases hdepth : maxDepth < proof.depth
  · rw [if_pos hdepth, if_pos hdepth]
  · have hle : proof.depth ≤ Word.width :=
      (Nat.le_of_not_lt hdepth).trans maxDepth_lt_width.le
    have hlt : proof.depth < Word.width := (Nat.le_of_not_lt hdepth).trans_lt maxDepth_lt_width
    have habove : (proof.leafIndex >>> UInt64.ofNat proof.depth).toNat ≠ 0 ↔
        proof.leafIndex >>> UInt64.ofNat proof.depth ≠ 0 := by
      rw [← UInt64.toNat_zero, ne_eq, UInt64.toNat_inj]
    rw [if_neg hdepth, if_neg hdepth, shiftRight?_toNat hlt,
      followsBits?_eq ((Nat.zero_add _).trans_le hle)]
    simp only [Option.bind_eq_bind, Option.bind_some, habove]
    split <;> rfl

end Shifts

/-- **Which indices are consistent.** The check accepts a path of at most 32 steps with the number
that its sides write in binary, and nothing else. So every such path has exactly one index and a
longer one has none, and no shift of the check reaches the width of a word. -/
theorem consistent_position :
    (∀ proof : MerkleProof, proof.isConsistent = true ↔ proof.depth ≤ 32 ∧
      proof.leafIndex.toNat =
        ∑ level : Fin proof.path.length, proof.path[level].bit.toNat * 2 ^ level.val) ∧
    (∀ path : List Branch, path.length ≤ 32 →
      ∃! index : UInt64, isConsistent ⟨index, path⟩ = true) ∧
    (∀ path : List Branch, 32 < path.length →
      ∀ index : UInt64, isConsistent ⟨index, path⟩ = false) ∧
    ∀ proof : MerkleProof, proof.isConsistent? = some proof.isConsistent := by
  refine ⟨fun proof => isConsistent_iff_eq_position, fun path hshort => ?_,
    fun path hlong index => ?_, isConsistent?_eq⟩
  · exact ⟨_, isConsistent_ofNat_position hshort, fun _ => eq_ofNat_position_of_isConsistent⟩
  · rw [Bool.eq_false_iff]
    exact fun h => hlong.not_ge (isConsistent_iff_eq_position.mp h).1

/-- Three steps write five, and 64 steps have no index, not even that of the first leaf. -/
theorem consistent_position_five :
    let path : List Branch := [.right 7, .left 8, .right 9]
    let overlong : List Branch := List.replicate 64 (.left 0)
    path.length ≤ 32 ∧ (∃! index : UInt64, isConsistent ⟨index, path⟩ = true) ∧
      isConsistent ⟨5, path⟩ = true ∧
      32 < overlong.length ∧ isConsistent ⟨0, overlong⟩ = false := by
  intro path overlong
  have hshort : path.length ≤ 32 := by decide
  have hlong : 32 < overlong.length := by decide
  obtain ⟨hiff, hunique, hnone, -⟩ := consistent_position
  exact ⟨hshort, hunique path hshort, (hiff _).mpr ⟨hshort, by decide⟩, hlong, hnone _ hlong 0⟩

end GroupSignal.MerkleProof
