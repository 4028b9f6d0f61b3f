import GroupSignal.Proofs.Document.Refusals
import GroupSignal.Proofs.Groth16.KeyText
import GroupSignal.Proofs.Session.Refusals

/-!
# The wording of failures

A message about a failed call shows names of arguments, numbers, what it quotes, and the path of a
file, which came from memory and so has no null character. None of it can therefore end the message
before its end, whatever texts the caller passed.

What the file system and the provers say of their failures is not worded here, so it is assumed to
have no null character.

## Main definitions

* `FileSystem.PlainlyWorded`, `CircuitLoader.PlainlyWorded`: what is assumed of others

## Main results

* `Failed.isPlain`: no message about a failed call has a null character
-/

namespace GroupSignal

open Text (NullFree)

/-! ## Messages of others -/

/-- What the file system says of its failures has no null character. -/
def FileSystem.PlainlyWorded (files : FileSystem Id) : Prop :=
  ∀ path wording, (files.read path).run = .error (.other wording) → NullFree wording

/-- What the provers of a loader say of their failures has no null character. -/
def CircuitLoader.PlainlyWorded (loader : CircuitLoader) : Prop :=
  ∀ zkey graph prover input e, loader.prover? zkey graph = some prover →
    prover input = .error e → NullFree e.message

theorem FileError.nullFree_message {e : FileError}
    (h : ∀ wording, e = .other wording → NullFree wording) : NullFree e.message := by
  cases e with
  | other wording => exact h wording rfl
  | _ => decide

/-- The message has no null character. -/
abbrev ProofSystemError.IsPlain (e : ProofSystemError) : Prop := NullFree e.message

@[inherit_doc ProofSystemError.IsPlain]
abbrev SignalError.IsPlain (e : SignalError) : Prop := NullFree e.message

@[inherit_doc ProofSystemError.IsPlain]
abbrev CallError.IsPlain (e : CallError) : Prop := NullFree e.message

section Parts

variable {files : FileSystem Id} {loader : CircuitLoader} {path : String}

/-- A message about a file shows the path and the cause. -/
theorem ProofSystemError.isPlain_unreadable {cause : FileError} (hpath : NullFree path)
    (hcause : NullFree cause.message) : (unreadable path cause).IsPlain :=
  .append (.append (.append (by decide) hpath) (by decide)) hcause

theorem FileSystem.PlainlyWorded.refusesOnly_readText (h : files.PlainlyWorded) (path : String) :
    RefusesOnly (fun e => NullFree e.message) (files.readText path).run := by
  have hread : RefusesOnly (fun e => NullFree e.message) (files.read path).run := fun e he =>
    FileError.nullFree_message fun wording heq => h path wording (heq ▸ he)
  rw [FileSystem.readText_run]
  refine hread.bind fun b _ => ?_
  cases Bytes.toText? b with
  | none => exact refusesOnly_error (by decide)
  | some s => exact refusesOnly_ok s

theorem FileSystem.PlainlyWorded.refusesOnly_load (h : files.PlainlyWorded)
    (hpath : NullFree path) : RefusesOnly ProofSystemError.IsPlain
    (Groth16.CircuitKey.load files path).run := by
  have hread := h.refusesOnly_readText path
  rw [Groth16.CircuitKey.load_run]
  refine RefusesOnly.bind (RefusesOnly.mapError fun cause hcause => ?_) fun s _ => ?_
  · exact ProofSystemError.isPlain_unreadable hpath (hread cause hcause)
  · exact Groth16.CircuitKey.refusesOnly_ofText s

theorem CircuitLoader.ofFiles_run {graphPath : String} :
    (loader.ofFiles files path graphPath).run =
    if !(files.isFile path).run then .error (.unreadable path .noFile)
    else if !(files.isFile graphPath).run then .error (.unreadable graphPath .noFile)
    else match (files.read path).run, (files.read graphPath).run with
      | .ok zkey, .ok graph => loader.ofBytes zkey graph
      | _, _ => .error .malformedArtifact :=
  rfl

theorem CircuitLoader.refusesOnly_ofFiles (loader : CircuitLoader) (files : FileSystem Id)
    {path graphPath : String} (hpath : NullFree path) (hgraphPath : NullFree graphPath) :
    RefusesOnly ProofSystemError.IsPlain (loader.ofFiles files path graphPath).run := by
  have hnoFile : NullFree FileError.noFile.message := by decide
  have hbytes : ∀ zkey graph, RefusesOnly ProofSystemError.IsPlain (loader.ofBytes zkey graph) := by
    intro zkey graph
    unfold CircuitLoader.ofBytes
    split
    · exact refusesOnly_ok _
    · exact refusesOnly_error (by decide)
  rw [CircuitLoader.ofFiles_run]
  split
  · exact refusesOnly_error (ProofSystemError.isPlain_unreadable hpath hnoFile)
  split
  · exact refusesOnly_error (ProofSystemError.isPlain_unreadable hgraphPath hnoFile)
  split
  · exact hbytes _ _
  · exact refusesOnly_error (by decide)

theorem CircuitLoader.PlainlyWorded.of_ofFiles (h : loader.PlainlyWorded) {graphPath : String}
    {prover : Prover} (hprover : (loader.ofFiles files path graphPath).run = .ok prover)
    (input : CircuitInput) : RefusesOnly ProofSystemError.IsPlain (prover input) := by
  rw [CircuitLoader.ofFiles_run] at hprover
  split at hprover
  · cases hprover
  split at hprover
  · cases hprover
  split at hprover
  · rename_i zkey graph _ _
    unfold CircuitLoader.ofBytes at hprover
    split at hprover
    · rename_i prover' hmade
      cases hprover
      exact fun e => h zkey graph prover input e hmade
    · cases hprover
  · cases hprover

theorem SignalProof.refusesOnly_generateFor {prover : Prover}
    (hprover : ∀ input, RefusesOnly ProofSystemError.IsPlain (prover input))
    (identity : Identity) (topic signal : Bytes) (path : MerkleProof) :
    RefusesOnly SignalError.IsPlain (generateFor identity topic signal path prover) := by
  unfold generateFor generate
  split
  · exact refusesOnly_error (TreeError.nullFree_message _)
  split
  · exact refusesOnly_error (.append (by decide) (Text.nullFree_toString _))
  · dsimp only
    split
    · exact refusesOnly_error (hprover _ _ ‹_›)
    · split
      · exact refusesOnly_ok _
      · exact refusesOnly_error (by decide)

theorem Groth16.Proof.refusesOnly_ofText (s : String) :
    RefusesOnly (fun e => NullFree e.message) (ofText s) := by
  unfold ofText
  split
  · exact refusesOnly_error (by decide)
  · exact RefusesOnly.mapError fun cause _ => cause.nullFree_message

end Parts

/-! ## Messages about calls -/

/-- The names of arguments have no null character. -/
theorem Call.nullFree_name {l : Ledger} {c : Call} {argument : Argument}
    (h : argument ∈ c.arguments l) : NullFree argument.name := by
  have hnames : ∀ argument ∈ c.arguments l, NullFree argument.name := by
    cases c <;> simp only [arguments, List.forall_mem_cons, Argument.name] <;> decide
  exact hnames argument h

theorem Call.isPlain_of_fault? {l : Ledger} {c : Call} {e : CallError} (h : c.fault? l = some e) :
    e.IsPlain := by
  obtain ⟨argument, hmem, rfl | rfl⟩ := exists_of_fault? h
  · exact .append (.append (by decide) (nullFree_name hmem)) (by decide)
  · exact .append (.append (by decide) (nullFree_name hmem)) (by decide)

/-- What the library refuses is plainly worded if what it uses is. The paths that may be shown came
from memory. -/
theorem Refused.isPlain {files : FileSystem Id} {loader : CircuitLoader} {l : Ledger} {c : Call}
    {cause : SignalError} (h : Refused files loader l c cause) (hfiles : files.PlainlyWorded)
    (hloader : loader.PlainlyWorded) : cause.IsPlain := by
  cases h with
  | @newIdentity seed _ h =>
    rw [Identity.ofSeed] at h
    split at h <;> cases h
    decide
  | createTree => exact TreeError.nullFree_message _
  | insertLeaf => exact TreeError.nullFree_message _
  | merkleProof => exact TreeError.nullFree_message _
  | loadCircuit _ _ _ _ hzkey hgraph h =>
    exact loader.refusesOnly_ofFiles files (Memory.nullFree_of_text? hzkey)
      (Memory.nullFree_of_text? hgraph) _ h
  | generateProof _ _ _ _ _ _ hprover h =>
    exact SignalProof.refusesOnly_generateFor (hloader.of_ofFiles hprover) _ _ _ _ _ h
  | proofOfText _ h => exact Groth16.Proof.refusesOnly_ofText _ _ h
  | verifyProof _ _ _ _ _ hpath h =>
    cases h with
    | root => exact ValueError.nullFree_message _
    | nullifierHash => exact ValueError.nullFree_message _
    | key _ _ h => exact hfiles.refusesOnly_load (Memory.nullFree_of_text? hpath) _ h

/-- **The wording of a failure** has no null character, whatever a call is given. -/
theorem Failed.isPlain {files : FileSystem Id} {loader : CircuitLoader} {l : Ledger} {c : Call}
    {e : CallError} (h : Failed files loader l c e) (hfiles : files.PlainlyWorded)
    (hloader : loader.PlainlyWorded) : e.IsPlain := by
  rcases h with hfault | ⟨-, hrefused⟩
  · exact Call.isPlain_of_fault? hfault
  · exact hrefused.isPlain hfiles hloader

end GroupSignal
