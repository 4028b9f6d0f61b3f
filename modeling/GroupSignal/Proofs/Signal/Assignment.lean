import GroupSignal.Proofs.Field.Residue
import GroupSignal.Signal.Proof

/-!
# What the circuit computes

The protocol folds a path with its branches; the circuit is given the bits and the siblings of the
path as two lists of scalars, and folds these. Both lead to one root, so what the circuit computes
from the input of a member is what the protocol expects.

The circuit sees its input as lists of numbers under names. Its formulas are stated here on such
lists alone: the sides of a path are numbers that are compared with zero, and every other number
stands for its scalar. On the numbers of an input they give what the input gives, and on those of a
member with a path what the protocol expects, whether or not the path is consistent with its index.
The numbers lose nothing but the index, which the circuit has no use for.

## Main definitions

* `CircuitInput.evaluate`: the public values of named numbers

## Main results

* `CircuitInput.publicValues_ofPath`: the values computed from the input are the expected ones
* `CircuitInput.evaluate_assignment`: numbers and scalars give the same public values
* `CircuitInput.assignment_inj`, `CircuitInput.ofPath_inj`: what the numbers determine
* `CircuitInput.ofPath_evaluate`: both computations give the expected values
-/

namespace GroupSignal.CircuitInput

/-! ## The formulas on scalars -/

theorem ofNat_one_ne_zero : Residue.ofNat scalarModulus 1 ≠ 0 := by decide

/-- A bit and a sibling lead to the parent that their step leads to. -/
theorem climb_step (step : Branch) (node : Scalar) :
    climb node (step.sibling, Residue.ofNat scalarModulus step.bit.toNat) = step.fold node := by
  cases step with
  | left s => exact if_pos rfl
  | right s => exact if_neg ofNat_one_ne_zero

theorem zip_siblings_bits (proof : MerkleProof) :
    proof.siblings.zip (proof.bits.map fun bit => Residue.ofNat scalarModulus bit.toNat) =
      proof.path.map fun step => (step.sibling, Residue.ofNat scalarModulus step.bit.toNat) := by
  rw [MerkleProof.siblings, MerkleProof.bits, List.map_map, List.zip_map']
  rfl

/-- **The circuit computes the expected values** from the secrets of a member and any path. -/
theorem publicValues_ofPath (identity : Identity) (proof : MerkleProof)
    (externalNullifier signalHash : Scalar) :
    (ofPath identity.nullifier identity.trapdoor proof externalNullifier signalHash).publicValues =
      SignalProof.expectedValues identity externalNullifier signalHash proof := by
  have hroot : (proof.siblings.zip
        (proof.bits.map fun bit => Residue.ofNat scalarModulus bit.toNat)).foldl climb
        (hash2 identity.nullifier identity.trapdoor) = proof.root identity.commitment := by
    rw [zip_siblings_bits, List.foldl_map]
    simp only [climb_step]
    rfl
  rw [publicValues, SignalProof.expectedValues, ← hroot]
  rfl

/-! ## The formulas on numbers -/

/-- The parent of a node by a sibling and a bit that are given as numbers. -/
def climbNumbers (node : Scalar) (step : ℕ × ℕ) : Scalar :=
  let sibling := Residue.ofNat scalarModulus step.1
  if step.2 = 0 then hash2 node sibling else hash2 sibling node

/-- The public values of named numbers, if every name is there and has as many numbers as it
should. -/
def evaluate (named : List (String × List ℕ)) : Option (List Scalar) := do
  let [nullifier] ← named.lookup "identityNullifier" | none
  let [trapdoor] ← named.lookup "identityTrapdoor" | none
  let bits ← named.lookup "treePathIndices"
  let siblings ← named.lookup "treeSiblings"
  let [externalNullifier] ← named.lookup "externalNullifier" | none
  let [signalHash] ← named.lookup "signalHash" | none
  let scalar := Residue.ofNat scalarModulus
  return [(siblings.zip bits).foldl climbNumbers (hash2 (scalar nullifier) (scalar trapdoor)),
    hash2 (scalar externalNullifier) (scalar nullifier), scalar signalHash,
    scalar externalNullifier]

theorem climbNumbers_val (node sibling bit : Scalar) :
    climbNumbers node (sibling.val, bit.val) = climb node (sibling, bit) := by
  simp only [climbNumbers, climb, Residue.ofNat_val, Residue.val_eq_zero_iff]

/-- **Numbers and scalars give the same public values.** -/
theorem evaluate_assignment (input : CircuitInput) :
    evaluate input.assignment = some input.publicValues.toList := by
  have hroot : ∀ leaf, ((input.siblings.map Residue.val).zip
      (input.pathBits.map Residue.val)).foldl climbNumbers leaf =
      (input.siblings.zip input.pathBits).foldl climb leaf := by
    intro leaf
    rw [List.zip_map, List.foldl_map]
    exact congrArg (fun f => List.foldl f leaf _)
      (funext₂ fun node step => climbNumbers_val node _ _)
  -- Every name is looked up, and a number of a scalar stands for the scalar.
  have hevaluate : evaluate input.assignment = some
      [((input.siblings.map Residue.val).zip (input.pathBits.map Residue.val)).foldl climbNumbers
          (hash2 (Residue.ofNat scalarModulus input.identityNullifier.val)
            (Residue.ofNat scalarModulus input.identityTrapdoor.val)),
        hash2 (Residue.ofNat scalarModulus input.externalNullifier.val)
          (Residue.ofNat scalarModulus input.identityNullifier.val),
        Residue.ofNat scalarModulus input.signalHash.val,
        Residue.ofNat scalarModulus input.externalNullifier.val] := rfl
  rw [hevaluate, hroot]
  simp only [Residue.ofNat_val]
  rfl

/-! ## What the numbers determine -/

theorem lt_of_mem_assignment {input : CircuitInput} {entry : String × List ℕ}
    (hentry : entry ∈ input.assignment) {number : ℕ} (hnumber : number ∈ entry.2) :
    number < scalarModulus := by
  have hscalars : ∀ scalars : List Scalar, ∀ number ∈ scalars.map Residue.val,
      number < scalarModulus := by
    intro scalars number hnumber
    obtain ⟨scalar, -, rfl⟩ := List.mem_map.mp hnumber
    exact scalar.isLt
  simp only [assignment, List.mem_cons, List.not_mem_nil, or_false] at hentry
  rcases hentry with rfl | rfl | rfl | rfl | rfl | rfl
  · exact hscalars [_] number hnumber
  · exact hscalars [_] number hnumber
  · exact hscalars _ number hnumber
  · exact hscalars _ number hnumber
  · exact hscalars [_] number hnumber
  · exact hscalars [_] number hnumber

/-- **The numbers determine the input.** -/
theorem assignment_inj {a b : CircuitInput} :
    (∀ name, a.assignment.lookup name = b.assignment.lookup name) ↔ a = b := by
  constructor
  · intro h
    have hlists : Function.Injective (List.map (Residue.val (p := scalarModulus))) :=
      List.map_injective_iff.mpr fun _ _ => Residue.ext
    have hone : ∀ {x y : Scalar}, some [x.val] = some [y.val] → x = y := by
      intro x y hxy
      exact List.singleton_inj.mp (hlists (Option.some.inj hxy))
    have hnullifier := hone (h "identityNullifier")
    have htrapdoor := hone (h "identityTrapdoor")
    have hbits := hlists (Option.some.inj (h "treePathIndices"))
    have hsiblings := hlists (Option.some.inj (h "treeSiblings"))
    have htopic := hone (h "externalNullifier")
    have hsignal := hone (h "signalHash")
    cases a
    cases b
    cases hnullifier
    cases htrapdoor
    cases hbits
    cases hsiblings
    cases htopic
    cases hsignal
    rfl
  · rintro rfl name
    rfl

/-- A step is its sibling and its bit. -/
theorem step_injective : Function.Injective fun step : Branch =>
    (step.sibling, Residue.ofNat scalarModulus step.bit.toNat) := by
  intro step step' h
  obtain ⟨hsibling, hbit⟩ := Prod.mk.inj h
  cases step with
  | left s =>
    cases step' with
    | left s' => exact congrArg Branch.left hsibling
    | right s' => exact absurd hbit.symm ofNat_one_ne_zero
  | right s =>
    cases step' with
    | left s' => exact absurd hbit ofNat_one_ne_zero
    | right s' => exact congrArg Branch.right hsibling

section Inputs

variable {nullifier trapdoor externalNullifier signalHash : Scalar} {proof : MerkleProof}
  {nullifier' trapdoor' externalNullifier' signalHash' : Scalar} {proof' : MerkleProof}

/-- An input determines the secrets, the path, the topic and the signal. -/
theorem ofPath_inj :
    ofPath nullifier' trapdoor' proof' externalNullifier' signalHash' =
      ofPath nullifier trapdoor proof externalNullifier signalHash ↔
    nullifier' = nullifier ∧ trapdoor' = trapdoor ∧ proof'.path = proof.path ∧
      externalNullifier' = externalNullifier ∧ signalHash' = signalHash := by
  constructor
  · intro h
    obtain ⟨hnullifier, htrapdoor, hbits, hsiblings, htopic, hsignal⟩ := CircuitInput.mk.inj h
    have hpath : proof'.path = proof.path := by
      apply List.map_injective_iff.mpr step_injective
      rw [← zip_siblings_bits, ← zip_siblings_bits, hbits, hsiblings]
    exact ⟨hnullifier, htrapdoor, hpath, htopic, hsignal⟩
  · rintro ⟨rfl, rfl, hpath, rfl, rfl⟩
    simp only [ofPath, MerkleProof.bits, MerkleProof.siblings, hpath]

end Inputs

/-- The bits of a path are zero and one, so as numbers they are the same. -/
theorem map_val_bits (proof : MerkleProof) :
    (proof.bits.map fun bit => Residue.ofNat scalarModulus bit.toNat).map Residue.val =
      proof.bits.map UInt64.toNat := by
  simp only [MerkleProof.bits, List.map_map]
  refine List.map_congr_left fun step _ => ?_
  cases step with
  | left s => rfl
  | right s => rfl

/-- **Both computations give the expected values**, from the secrets of a member and any path: the
one on scalars, and the formulas on the named numbers. The numbers are below the modulus, those of
the path are as many as its steps, and together they determine all but the leaf index. -/
theorem ofPath_evaluate (nullifier trapdoor : Scalar) (proof : MerkleProof)
    (externalNullifier signalHash : Scalar) :
    let input := ofPath nullifier trapdoor proof externalNullifier signalHash
    let values := [proof.root (hash2 nullifier trapdoor), hash2 externalNullifier nullifier,
      signalHash, externalNullifier]
    input.publicValues.toList = values ∧ evaluate input.assignment = some values ∧
    (∀ entry ∈ input.assignment, ∀ number ∈ entry.2, number < scalarModulus) ∧
    (input.assignment.lookup "treePathIndices" = some (proof.bits.map UInt64.toNat) ∧
      proof.bits.length = proof.depth) ∧
    (input.assignment.lookup "treeSiblings" = some (proof.siblings.map Residue.val) ∧
      proof.siblings.length = proof.depth) ∧
    ∀ nullifier' trapdoor' proof' externalNullifier' signalHash',
      (∀ name, (ofPath nullifier' trapdoor' proof' externalNullifier' signalHash').assignment.lookup
          name = input.assignment.lookup name) ↔
        nullifier' = nullifier ∧ trapdoor' = trapdoor ∧ proof'.path = proof.path ∧
          externalNullifier' = externalNullifier ∧ signalHash' = signalHash := by
  intro input values
  have hvalues : input.publicValues.toList = values :=
    congrArg PublicValues.toList
      (publicValues_ofPath { trapdoor, nullifier } proof externalNullifier signalHash)
  refine ⟨hvalues, ?_, ?_, ⟨?_, List.length_map _⟩, ⟨rfl, List.length_map _⟩, ?_⟩
  · rw [evaluate_assignment, hvalues]
  · exact fun entry hentry number hnumber => lt_of_mem_assignment hentry hnumber
  · rw [← map_val_bits]
    rfl
  · intro nullifier' trapdoor' proof' externalNullifier' signalHash'
    rw [assignment_inj, ofPath_inj]

/-- A path that is not the one of its index. -/
theorem ofPath_evaluate_inconsistent :
    let proof : MerkleProof := ⟨5, [.left 7, .right 8]⟩
    let input := ofPath 1 2 proof 3 4
    proof.isConsistent = false ∧ ("treeSiblings", [7, 8]) ∈ input.assignment ∧
      8 ∈ [7, 8] ∧ 8 < scalarModulus ∧
      evaluate input.assignment = some [proof.root (hash2 1 2), hash2 3 1, 4, 3] := by
  intro proof input
  have hmem : ("treeSiblings", [7, 8]) ∈ input.assignment := by decide
  obtain ⟨-, hvalues, hlt, -⟩ := ofPath_evaluate 1 2 proof 3 4
  exact ⟨by decide, hmem, by decide, hlt _ hmem 8 (by decide), hvalues⟩

end GroupSignal.CircuitInput
