import GroupSignal.Proofs.Fallible
import GroupSignal.Proofs.Text.NullFree
import GroupSignal.Session.Basic
import Mathlib.Data.List.TakeWhile
import Mathlib.Logic.Function.Basic

/-!
# Arguments from outside

A table is a function from handles to values: what a call does to it changes the function in one
place, and a handle that is given out was dead before. Memory holds the bytes before its first null
byte, and a text if these are UTF-8. A handle is taken as an argument if it is live, and memory if
it holds bytes, or a text where one is needed.

The two calls with many arguments are described by what these stand for: a proof is generated, and a
verdict is reached, when every argument is taken and every operation on the values succeeds.

## Main definitions

* `Memory.bytes?`, `Memory.text?`: the bytes and the text that memory holds
* `Verdict`, `Proves`: the verdict on a proof, and the proof that is generated, for arguments

## Main results

* `Table.get?_insert`, `Table.get?_set`, `Table.get?_release`: tables as functions
* `Holdings.value_eq_ok_iff`, `Holdings.bytes_eq_ok_iff`, `Holdings.text_eq_ok_iff`: when an
  argument is taken
* `Holdings.giveText_eq`: a text that is handed out
* `Memory.text?_ofText`: a text that was handed out can be passed back
* `Holdings.verdict_eq_ok_iff`, `Holdings.prove_eq_ok_iff`: when there is a verdict or a proof
* `Groth16.CircuitKey.exists_verifySignalFor`: a key of the circuit always gives a verdict
-/

namespace GroupSignal

open Text (NullFree)

/-! ## Tables -/

namespace Table

variable {α : Type} (table : Table α) (a : α) (h : Handle α)

/-- The handle that is given out next is dead. -/
theorem get?_next : table.get? (table.insert a).1 = none := by
  show (table.places[table.places.length]?).join = none
  rw [List.getElem?_eq_none le_rfl]
  rfl

theorem get?_insert : (table.insert a).2.get? =
    Function.update table.get? (table.insert a).1 (some a) := by
  funext k
  show ((table.places ++ [some a])[k.index]?).join = _
  by_cases hk : k = (table.insert a).1
  · subst hk
    rw [Function.update_self]
    show ((table.places ++ [some a])[table.places.length]?).join = some a
    rw [List.getElem?_concat_length]
    rfl
  · rw [Function.update_of_ne hk]
    have hne : k.index ≠ table.places.length := fun heq => hk (Handle.ext heq)
    rcases Nat.lt_or_gt_of_ne hne with hlt | hgt
    · rw [List.getElem?_append_left hlt]
      rfl
    · -- Behind the new place there is none, as there was none before.
      show _ = (table.places[k.index]?).join
      rw [List.getElem?_eq_none (by simpa using Nat.succ_le_of_lt hgt),
        List.getElem?_eq_none hgt.le]

variable {table a h}

theorem index_lt_of_live (hlive : table.get? h = some a) : h.index < table.places.length := by
  by_contra hge
  rw [get?, List.getElem?_eq_none (Nat.le_of_not_lt hge)] at hlive
  cases hlive

theorem get?_set {b : α} (hlive : table.get? h = some b) :
    (table.set h a).get? = Function.update table.get? h (some a) := by
  funext k
  show ((table.places.set h.index (some a))[k.index]?).join = _
  by_cases hk : k = h
  · rw [hk, Function.update_self, List.getElem?_set_self (index_lt_of_live hlive)]
    rfl
  · have hne : h.index ≠ k.index := fun heq => hk (Handle.ext heq.symm)
    rw [Function.update_of_ne hk, List.getElem?_set_ne hne]
    rfl

theorem get?_release : (table.release h).get? = Function.update table.get? h none := by
  funext k
  show ((table.places.set h.index none)[k.index]?).join = _
  by_cases hk : k = h
  · rw [hk, Function.update_self, List.getElem?_set, if_pos rfl]
    split <;> rfl
  · have hne : h.index ≠ k.index := fun heq => hk (Handle.ext heq.symm)
    rw [Function.update_of_ne hk, List.getElem?_set_ne hne]
    rfl

end Table

/-! ## Memory -/

namespace Memory

/-- The bytes that memory holds. -/
def bytes? (memory : Memory) : Option Bytes := memory.map fun b => b.takeWhile (· ≠ 0)

/-- The text that memory holds. -/
def text? (memory : Memory) : Option String := memory.bytes?.bind Bytes.toText?

/-- Bytes without a null byte are all that memory with them holds. -/
theorem bytes?_some {b : Bytes} (hb : 0 ∉ b) : bytes? (some b) = some b := by
  have htaken : b.takeWhile (· ≠ 0) = b := List.takeWhile_eq_self_iff.mpr fun x hx => by
    rw [decide_eq_true_eq]
    rintro rfl
    exact hb hx
  rw [bytes?, Option.map_some, htaken]

theorem zero_notMem_of_bytes? {memory : Memory} {b : Bytes} (h : memory.bytes? = some b) :
    0 ∉ b := by
  obtain ⟨held, -, rfl⟩ := Option.map_eq_some_iff.mp h
  intro hmem
  have hne := List.mem_takeWhile_imp hmem
  rw [decide_eq_true_eq] at hne
  exact hne rfl

theorem nullFree_of_text? {memory : Memory} {s : String} (h : memory.text? = some s) :
    NullFree s := by
  obtain ⟨b, hb, hs⟩ := Option.bind_eq_some_iff.mp h
  exact Bytes.nullFree_of_toText? hs (zero_notMem_of_bytes? hb)

/-- **A text that can be handed out** can be passed back. -/
theorem text?_ofText {s : String} (h : NullFree s) : text? (some (Bytes.ofText s)) = some s := by
  have hzero : 0 ∉ Bytes.ofText s := fun hmem => Bytes.zero_mem_ofText_iff.mp hmem h
  rw [text?, bytes?_some hzero]
  exact Bytes.toText?_ofText s

end Memory

/-! ## What a call takes and gives -/

namespace Holdings

variable {α : Type} {table : Table α} {name : String} {memory : Memory}

theorem value_eq_ok_iff {h : Option (Handle α)} {a : α} :
    value table name h = .ok a ↔ h.bind table.get? = some a := by
  unfold value
  split
  · rename_i a' heq
    rw [heq, Except.ok.injEq, Option.some.injEq]
  · rename_i heq
    rw [heq]
    exact iff_of_false nofun nofun

theorem bytes_eq_ok_iff {b : Bytes} : bytes name memory = .ok b ↔ memory.bytes? = some b := by
  cases memory with
  | none => exact iff_of_false nofun nofun
  | some held =>
    show Except.ok _ = Except.ok b ↔ some _ = some b
    rw [Except.ok.injEq, Option.some.injEq]

theorem text_eq_ok_iff {s : String} : text name memory = .ok s ↔ memory.text? = some s := by
  rw [text, bind_eq_ok_iff, Memory.text?, Option.bind_eq_some_iff]
  refine exists_congr fun b => and_congr bytes_eq_ok_iff ?_
  split
  · rename_i s' heq
    rw [heq, Option.some.injEq]
    exact Except.ok.injEq s' s ▸ Iff.rfl
  · rename_i heq
    rw [heq]
    exact iff_of_false nofun nofun

/-- **A text without the null character** is handed out under a new handle. -/
theorem giveText_eq {s : String} (h : NullFree s) (held : Holdings) :
    held.giveText s = .ok (.text (some ((held.texts.insert s).1, s)),
      { held with texts := (held.texts.insert s).2 }) := by
  rw [giveText, Text.contains_null_eq_false_iff.mpr h]
  rfl

end Holdings

/-! ## Proofs and verdicts for arguments -/

/-- The verdict on the proof that arguments stand for, when `proofs` are the live proofs. -/
inductive Verdict (proofs : Handle Groth16.Proof → Option Groth16.Proof) (files : FileSystem Id)
    (root topic signal nullifierHash : Memory) (proof : Option (Handle Groth16.Proof))
    (keyPath : Memory) (valid : Bool) : Prop
  | intro {rootText hashText path topicBytes signalBytes proof' root' hash key}
    (hroot : root.text? = some rootText) (htopic : topic.bytes? = some topicBytes)
    (hsignal : signal.bytes? = some signalBytes) (hhash : nullifierHash.text? = some hashText)
    (hproof : proof.bind proofs = some proof') (hpath : keyPath.text? = some path)
    (hrootText : Scalar.ofText rootText = .ok root')
    (hhashText : Scalar.ofText hashText = .ok hash)
    (hkey : (Groth16.CircuitKey.load files path).run = .ok key)
    (hvalid : verifySignalFor root' hash signalBytes topicBytes proof' key.verify = .ok valid)

/-- The proof that is generated for arguments, when `identities` and `paths` are the live identities
and Merkle proofs. -/
inductive Proves (identities : Handle Identity → Option Identity)
    (paths : Handle MerkleProof → Option MerkleProof) (files : FileSystem Id)
    (loader : CircuitLoader) (identity : Option (Handle Identity)) (topic signal : Memory)
    (path : Option (Handle MerkleProof)) (zkeyPath graphPath : Memory) (proof : Groth16.Proof) :
    Prop
  | intro {identity' topicBytes signalBytes path' zkey graph prover generated}
    (hidentity : identity.bind identities = some identity')
    (htopic : topic.bytes? = some topicBytes) (hsignal : signal.bytes? = some signalBytes)
    (hpath : path.bind paths = some path') (hzkey : zkeyPath.text? = some zkey)
    (hgraph : graphPath.text? = some graph)
    (hprover : (loader.ofFiles files zkey graph).run = .ok prover)
    (hgenerated : SignalProof.generateFor identity' topicBytes signalBytes path' prover =
      .ok generated)
    (hproof : generated.proof = proof)

namespace Holdings

variable {held : Holdings} {files : FileSystem Id} {loader : CircuitLoader}

theorem attempt_eq_ok_iff {α : Type} {x : Except SignalError α} {a : α} :
    attempt x = .ok a ↔ x = .ok a :=
  mapError_eq_ok_iff

theorem scalar_eq_ok_iff {s : String} {x : Scalar} : scalar s = .ok x ↔ Scalar.ofText s = .ok x :=
  mapError_eq_ok_iff.trans mapError_eq_ok_iff

theorem verdict_eq_ok_iff {root topic signal nullifierHash : Memory}
    {proof : Option (Handle Groth16.Proof)} {keyPath : Memory} {valid : Bool} :
    held.verdict files root topic signal nullifierHash proof keyPath = .ok valid ↔
      Verdict held.proofs.get? files root topic signal nullifierHash proof keyPath valid := by
  simp only [verdict, bind_eq_ok_iff, text_eq_ok_iff, bytes_eq_ok_iff, value_eq_ok_iff,
    scalar_eq_ok_iff, attempt_eq_ok_iff, mapError_eq_ok_iff]
  constructor
  · rintro ⟨_, hroot, _, htopic, _, hsignal, _, hhash, _, hproof, _, hpath, _, hrootText, _,
      hhashText, _, hkey, hvalid⟩
    exact ⟨hroot, htopic, hsignal, hhash, hproof, hpath, hrootText, hhashText, hkey, hvalid⟩
  · rintro ⟨hroot, htopic, hsignal, hhash, hproof, hpath, hrootText, hhashText, hkey, hvalid⟩
    exact ⟨_, hroot, _, htopic, _, hsignal, _, hhash, _, hproof, _, hpath, _, hrootText, _,
      hhashText, _, hkey, hvalid⟩

theorem prove_eq_ok_iff {identity : Option (Handle Identity)} {topic signal : Memory}
    {path : Option (Handle MerkleProof)} {zkeyPath graphPath : Memory} {proof : Groth16.Proof} :
    held.prove files loader identity topic signal path zkeyPath graphPath = .ok proof ↔
      Proves held.identities.get? held.merkleProofs.get? files loader identity topic signal path
        zkeyPath graphPath proof := by
  simp only [prove, bind_eq_ok_iff, text_eq_ok_iff, bytes_eq_ok_iff, value_eq_ok_iff,
    attempt_eq_ok_iff, mapError_eq_ok_iff]
  constructor
  · rintro ⟨_, hidentity, _, htopic, _, hsignal, _, hpath, _, hzkey, _, hgraph, _, hprover, _,
      hgenerated, hproof⟩
    exact ⟨hidentity, htopic, hsignal, hpath, hzkey, hgraph, hprover, hgenerated,
      Except.ok.inj hproof⟩
  · rintro ⟨hidentity, htopic, hsignal, hpath, hzkey, hgraph, hprover, hgenerated, rfl⟩
    exact ⟨_, hidentity, _, htopic, _, hsignal, _, hpath, _, hzkey, _, hgraph, _, hprover, _,
      hgenerated, rfl⟩

end Holdings

/-- A key of the circuit gives a verdict on a proof for as many values as the circuit has. -/
theorem Groth16.CircuitKey.verify_eq (key : CircuitKey) (proof : Proof) {values : List Scalar}
    (h : values.length = publicValueCount) :
    key.verify proof values = .ok (key.key.accepts proof values) := by
  obtain ⟨key, hkey⟩ := key
  have hbases : key.bases ≠ [] := by
    intro hempty
    rw [VerifyingKey.publicValues, hempty] at hkey
    cases hkey
  rw [verify, VerifyingKey.verify, if_neg (not_not.mpr (h.trans hkey.symm)), if_neg hbases]

theorem Groth16.CircuitKey.exists_verifySignalFor (key : CircuitKey) (root nullifierHash : Scalar)
    (signal topic : Bytes) (proof : Proof) :
    ∃ valid, verifySignalFor root nullifierHash signal topic proof key.verify = .ok valid := by
  rw [verifySignalFor, verifySignal, key.verify_eq proof (PublicValues.length_toList _)]
  exact ⟨_, rfl⟩

end GroupSignal
