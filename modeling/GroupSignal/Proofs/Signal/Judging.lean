import GroupSignal.Proofs.Fallible
import GroupSignal.Proofs.Groth16.KeyText
import GroupSignal.Signal.Proof

/-!
# Every valid proof is judged

The pairing equation is checked by a library, which prepares a key once and may refuse to look at a
proof. All that is asked of it is that it refuses a valid proof only for the count of its public
values. The count is looked at when a key is admitted, and again before the library is asked, and a
signal has as many values as the circuit. So whatever a verifier says of a valid proof is a verdict,
unless the values are too many or too few for the key, which it then says.

## Main definitions

* `Groth16.Library`, `Library.Lawful`: libraries for the pairing equation, and what they promise
* `Library.ofKey`, `Library.verify`: keys of the circuit and verdicts, with a library
* `Library.direct`: the library that prepares nothing

## Main results

* `Library.lawful_direct`, `Library.verify_direct`: verdicts without a library are those with this
  one
* `Library.Lawful.verify_eq_error_iff`, `Library.Lawful.exists_verify`: verdicts on lists of values
* `Library.Lawful.exists_verifySignal`: verdicts on signals
* `Library.valid_judged`: every valid proof is judged
-/

namespace GroupSignal.Groth16

/-- A library for the pairing equation. -/
structure Library where
  /-- The keys as they are prepared. -/
  Prepared : Type
  prepare : VerifyingKey → Prepared
  /-- The key that was prepared. -/
  key : Prepared → VerifyingKey
  /-- Whether the equation holds for a proof and public values, or why this is not looked at. -/
  check : Prepared → Proof → List Scalar → Except String Bool

namespace Library

/-- A library keeps the key with what it prepares, and refuses a valid proof only if there are not
as many values as the key has bases besides that of the constant one. -/
structure Lawful (library : Library) : Prop where
  key_prepare : ∀ key, library.key (library.prepare key) = key
  length_ne : ∀ {prepared proof values reason}, proof.Valid →
    library.check prepared proof values = .error reason →
      values.length + 1 ≠ (library.key prepared).bases.length

/-- The key of the circuit, prepared, if the key fits the circuit. -/
def ofKey (library : Library) (key : VerifyingKey) : Except ProofSystemError library.Prepared :=
  if key.publicValues = publicValueCount then .ok (library.prepare key)
  else .error (.invalidKey (.publicValues key.publicValues))

/-- The verdict of a prepared key. The library is asked only if the count of values is right. -/
def verify (library : Library) (prepared : library.Prepared) : Verifier := fun proof values =>
  let expected := (library.key prepared).publicValues
  if values.length ≠ expected then .error (.publicValueCount expected values.length)
  else (library.check prepared proof values).mapError .verifier

/-! ## Without preparation -/

/-- The library that prepares nothing. It looks at the count and then at the equation. -/
def direct : Library where
  Prepared := VerifyingKey
  prepare key := key
  key key := key
  check key proof values :=
    if values.length + 1 ≠ key.bases.length then .error "malformed verifying key"
    else .ok (key.accepts proof values)

theorem lawful_direct : direct.Lawful where
  key_prepare _ := rfl
  length_ne {key proof values reason} _ h := by
    change ite (values.length + 1 ≠ key.bases.length) _ _ = _ at h
    split at h
    case isTrue hne => exact hne
    case isFalse => cases h

/-- With the right count of values, a key without bases is the one case that is left to refuse. -/
theorem verify_direct (key : VerifyingKey) : direct.verify key = key.verify := by
  funext proof values
  change (if values.length ≠ key.publicValues then _ else
    Except.mapError _ (ite (values.length + 1 ≠ key.bases.length) _ _)) = _
  rw [VerifyingKey.verify]
  split
  case isTrue => rfl
  case isFalse h =>
    have hempty : values.length + 1 ≠ key.bases.length ↔ key.bases = [] := by
      rw [VerifyingKey.publicValues, not_not] at h
      rw [← List.length_eq_zero_iff]
      omega
    by_cases hbases : key.bases = []
    · rw [if_pos (hempty.mpr hbases), if_pos hbases]
      rfl
    · rw [if_neg (mt hempty.mp hbases), if_neg hbases]
      rfl

theorem ofKey_direct (key : VerifyingKey) :
    direct.ofKey key = (CircuitKey.ofKey key).map CircuitKey.key := by
  rw [ofKey, CircuitKey.ofKey]
  split <;> rfl

/-! ## Verdicts -/

variable {library : Library} {prepared : library.Prepared} {key : VerifyingKey} {proof : Proof}
  {values : List Scalar}

theorem ofKey_eq_ok_iff : library.ofKey key = .ok prepared ↔
    key.publicValues = publicValueCount ∧ library.prepare key = prepared := by
  rw [ofKey]
  split
  case isTrue h => exact ⟨fun heq => ⟨h, Except.ok.inj heq⟩, fun heq => congrArg _ heq.2⟩
  case isFalse h => exact iff_of_false nofun fun heq => h heq.1

theorem verify_of_length_ne (h : values.length ≠ (library.key prepared).publicValues) :
    library.verify prepared proof values =
      .error (.publicValueCount (library.key prepared).publicValues values.length) :=
  if_pos h

namespace Lawful

variable (hlawful : library.Lawful) (hvalid : proof.Valid)
include hlawful hvalid

/-- **The right count of values** gets a verdict. -/
theorem exists_verify (hbases : 1 ≤ (library.key prepared).bases.length)
    (h : values.length = (library.key prepared).publicValues) :
    ∃ verdict, library.verify prepared proof values = .ok verdict := by
  have hasked : library.verify prepared proof values =
      (library.check prepared proof values).mapError .verifier := if_neg (not_not.mpr h)
  rw [hasked]
  cases hcheck : library.check prepared proof values with
  | error reason =>
    -- The library would refuse the count that the key was made for.
    refine absurd ?_ (hlawful.length_ne hvalid hcheck)
    rw [VerifyingKey.publicValues] at h
    omega
  | ok verdict => exact ⟨verdict, rfl⟩

/-- **Another count of values** is refused, and nothing else is for this cause. -/
theorem verify_eq_error_iff (hbases : 1 ≤ (library.key prepared).bases.length) :
    library.verify prepared proof values =
        .error (.publicValueCount (library.key prepared).publicValues values.length) ↔
      values.length ≠ (library.key prepared).publicValues := by
  refine ⟨fun h heq => ?_, verify_of_length_ne⟩
  obtain ⟨verdict, hverdict⟩ := hlawful.exists_verify hvalid hbases heq
  rw [hverdict] at h
  cases h

/-- **Signals** get a verdict with the key of the circuit. -/
theorem exists_verifySignal (h : library.ofKey key = .ok prepared) (signal : PublicValues) :
    ∃ verdict, verifySignal signal proof (library.verify prepared) = .ok verdict := by
  obtain ⟨hcount, rfl⟩ := ofKey_eq_ok_iff.mp h
  have hkey : library.key (library.prepare key) = key := hlawful.key_prepare key
  have hbases : 1 ≤ (library.key (library.prepare key)).bases.length := by
    rw [hkey]
    rw [VerifyingKey.publicValues, publicValueCount] at hcount
    omega
  have hlength : signal.toList.length = (library.key (library.prepare key)).publicValues := by
    rw [hkey, hcount]
    rfl
  obtain ⟨verdict, hverdict⟩ := hlawful.exists_verify hvalid hbases hlength
  exact ⟨verdict, mapError_eq_ok_iff.mpr hverdict⟩

end Lawful

/-- **Every valid proof is judged.** The keys that are used are judged with the library that
prepares nothing, which keeps what libraries promise. With any library that does, a prepared key
with some number of bases judges a valid proof for a list of values, one less than there are bases;
any other list is refused, and the refusal names both numbers. So a key that fits the circuit, once
prepared, judges every signal with a valid proof, whether its values are given as they are or as
byte strings. -/
theorem valid_judged :
    (direct.Lawful ∧ ∀ key, direct.verify key = key.verify ∧
      direct.ofKey key = (CircuitKey.ofKey key).map CircuitKey.key) ∧
    ∀ library : Library, library.Lawful →
      (∀ prepared proof, ∀ values : List Scalar, proof.Valid →
        let k := (library.key prepared).bases.length
        1 ≤ k →
          (library.verify prepared proof values =
              .error (.publicValueCount (k - 1) values.length) ↔ values.length ≠ k - 1) ∧
          (values.length = k - 1 →
            ∃ verdict, library.verify prepared proof values = .ok verdict)) ∧
      ∀ key prepared, library.ofKey key = .ok prepared →
        ∀ signal : SignalProof, signal.proof.Valid →
          (∃ verdict, signal.verify (library.verify prepared) = .ok verdict) ∧
          (∃ verdict,
            verifySignal signal.values signal.proof (library.verify prepared) = .ok verdict) ∧
          ∀ data topic : Bytes, ∃ verdict,
            verifySignalFor signal.values.root signal.values.nullifierHash data topic signal.proof
              (library.verify prepared) = .ok verdict := by
  refine ⟨⟨lawful_direct, fun key => ⟨verify_direct key, ofKey_direct key⟩⟩,
    fun library hlawful => ⟨?_, ?_⟩⟩
  · intro prepared proof values hvalid k hbases
    exact ⟨hlawful.verify_eq_error_iff hvalid hbases, hlawful.exists_verify hvalid hbases⟩
  · intro key prepared hkey signal hvalid
    have hverdict := hlawful.exists_verifySignal hvalid hkey
    exact ⟨hverdict signal.values, hverdict signal.values, fun data topic => hverdict _⟩

/-- The sample proof, with a key of the circuit and without preparation: three values are refused,
and four values, as a list and as a signal, get a verdict. -/
theorem valid_judged_sample :
    let key := VerifyingKey.sample 5
    let signal : SignalProof := ⟨⟨1, 2, 3, 4⟩, Proof.sample⟩
    direct.Lawful ∧ signal.proof.Valid ∧ 1 ≤ key.bases.length ∧ direct.ofKey key = .ok key ∧
      key.verify signal.proof [1, 2, 3] = .error (.publicValueCount 4 3) ∧
      (∃ verdict, key.verify signal.proof [1, 2, 3, 4] = .ok verdict) ∧
      (∃ verdict, signal.verify key.verify = .ok verdict) ∧
      ∃ verdict, verifySignalFor 1 2 [3] [4] signal.proof key.verify = .ok verdict := by
  intro key signal
  obtain ⟨⟨hlawful, hdirect⟩, hjudged⟩ := valid_judged
  obtain ⟨hlists, hsignals⟩ := hjudged direct hlawful
  have hvalid : signal.proof.Valid := Proof.valid_sample
  have hbases : 1 ≤ key.bases.length := by decide
  have hkey : direct.ofKey key = .ok key := rfl
  have hrefused := (hlists key signal.proof [1, 2, 3] hvalid hbases).1.mpr (by decide)
  have hgiven := (hlists key signal.proof [1, 2, 3, 4] hvalid hbases).2 rfl
  obtain ⟨hsignal, -, hdata⟩ := hsignals key key hkey signal hvalid
  rw [(hdirect key).1] at hrefused hgiven hsignal hdata
  exact ⟨hlawful, hvalid, hbases, hkey, hrefused, hgiven, hsignal, hdata [3] [4]⟩

end Library

end GroupSignal.Groth16
