import GroupSignal.Identity
import GroupSignal.Proofs.Field.Bytes
import GroupSignal.Proofs.Hex

/-!
# Secrets are derived apart from each other

A secret comes from the digests of two messages. A message is put together without marks between its
parts: the digest of the seed in hexadecimal, the label of the secret and one byte. The first part
has 64 characters for every seed and the last is one byte, so the label in between is found whatever
its length, and no two messages are the same unless all of their parts are. What two seeds, or two
secrets of one seed, have in common is then due to the hash, or to the reduction of its digests.

## Main definitions

* `Identity.secret`: the secrets of an identity by their names
* `Identity.messages`: what is hashed for the secrets of a seed
* `DigestsCollide`: two messages with one digest
* `Coincide`: two numbers that are reduced to one scalar

## Main results

* `Identity.message_inj`: the parts of a message are read off it
* `Identity.derive_eq_iff`: which secrets are the same
* `Identity.ofSeed_separates`: what it means that secrets of identities are the same
-/

namespace GroupSignal

/-- Two different messages have one digest. -/
structure DigestsCollide (m m' : Bytes) : Prop where
  ne : m ≠ m'
  keccak256_eq : keccak256 m = keccak256 m'

/-- Two byte strings write different numbers with the same remainder. -/
structure Coincide (w w' : Bytes) : Prop where
  ne : w.toNat ≠ w'.toNat
  modEq : w.toNat ≡ w'.toNat [MOD scalarModulus]

namespace Identity

/-- A secret of an identity, by its name. -/
def secret (identity : Identity) : Secret → Scalar
  | .trapdoor => identity.trapdoor
  | .nullifier => identity.nullifier

/-- The numbers of the two halves of a secret. -/
def halves : List UInt8 := [0, 1]

variable {seed seed' : Bytes} {secret secret' : Secret} {half half' : UInt8}

theorem forall_mem_halves {P : UInt8 → Prop} : (∀ half ∈ halves, P half) ↔ P 0 ∧ P 1 := by
  simp [halves]

/-! ## Messages -/

/-- The four messages that are hashed for the secrets of a seed. -/
def messages (seed : Bytes) : List Bytes :=
  [message seed .trapdoor 0, message seed .trapdoor 1,
    message seed .nullifier 0, message seed .nullifier 1]

theorem Secret.label_injective : Function.Injective Secret.label := by
  have hne : Secret.trapdoor.label ≠ Secret.nullifier.label := by decide
  intro secret secret' h
  match secret, secret' with
  | .trapdoor, .trapdoor => rfl
  | .trapdoor, .nullifier => exact absurd h hne
  | .nullifier, .trapdoor => exact absurd h.symm hne
  | .nullifier, .nullifier => rfl

theorem length_ofText_encode_keccak256 (seed : Bytes) :
    (Bytes.ofText (Hex.encode (keccak256 seed))).length = 64 := by
  rw [Hex.length_ofText_encode, length_keccak256]

/-- **The parts of a message** are read off it: the digest at the front and the number of the half
at the end, and the label between them. -/
theorem message_inj : message seed secret half = message seed' secret' half' ↔
    secret = secret' ∧ half = half' ∧ keccak256 seed = keccak256 seed' := by
  constructor
  · intro h
    -- The labels may differ in length, so the byte at the end is taken off first.
    obtain ⟨hfront, hhalf⟩ := List.append_inj' h rfl
    obtain ⟨hdigest, hlabel⟩ := List.append_inj hfront
      ((length_ofText_encode_keccak256 seed).trans (length_ofText_encode_keccak256 seed').symm)
    exact ⟨Secret.label_injective (Bytes.ofText_injective hlabel), (List.cons.inj hhalf).1,
      Hex.encode_injective (Bytes.ofText_injective hdigest)⟩
  · rintro ⟨rfl, rfl, h⟩
    rw [message, message, h]

theorem nodup_messages (seed : Bytes) : (messages seed).Nodup := by
  simp [messages, message_inj]

/-! ## Secrets -/

theorem secret_mk (f : Secret → Scalar) (secret : Secret) :
    (⟨f .trapdoor, f .nullifier⟩ : Identity).secret secret = f secret := by
  cases secret <;> rfl

/-- The secrets of the identity of a seed. -/
theorem exists_ofSeed (h : seed ≠ []) :
    ∃ identity, ofSeed seed = .ok identity ∧
      ∀ secret, identity.secret secret = derive seed secret :=
  ⟨_, if_neg h, secret_mk (derive seed)⟩

theorem wideSecret_eq_iff : wideSecret seed secret = wideSecret seed' secret' ↔
    ∀ half ∈ halves,
      keccak256 (message seed secret half) = keccak256 (message seed' secret' half) := by
  rw [forall_mem_halves]
  constructor
  · intro h
    exact List.append_inj h ((length_keccak256 _).trans (length_keccak256 _).symm)
  · rintro ⟨h₀, h₁⟩
    rw [wideSecret, wideSecret, h₀, h₁]

theorem length_wideSecret (seed : Bytes) (secret : Secret) :
    (wideSecret seed secret).length = 64 := by
  rw [wideSecret, List.length_append, length_keccak256, length_keccak256]

theorem derive_eq_derive_iff : derive seed secret = derive seed' secret' ↔
    (wideSecret seed secret).toNat ≡ (wideSecret seed' secret').toNat [MOD scalarModulus] := by
  rw [derive, derive, Scalar.reduceBytes_eq, Scalar.reduceBytes_eq, Residue.ext_iff]
  rfl

/-- **Which secrets are the same**, of those that are derived from different messages. -/
theorem derive_eq_iff (h : secret ≠ secret' ∨ keccak256 seed ≠ keccak256 seed') :
    derive seed secret = derive seed' secret' ↔
      (∀ half ∈ halves,
        DigestsCollide (message seed secret half) (message seed' secret' half)) ∨
      Coincide (wideSecret seed secret) (wideSecret seed' secret') := by
  have hne : ∀ half, message seed secret half ≠ message seed' secret' half := by
    intro half heq
    obtain ⟨hsecret, -, hdigest⟩ := message_inj.mp heq
    exact h.elim (· hsecret) (· hdigest)
  rw [derive_eq_derive_iff]
  constructor
  · intro hmod
    by_cases hwide : (wideSecret seed secret).toNat = (wideSecret seed' secret').toNat
    · -- Nothing was lost by the reduction, so the digests themselves are the same.
      have hbytes : wideSecret seed secret = wideSecret seed' secret' := by
        rw [← Bytes.ofNat_toNat (length_wideSecret seed secret), hwide,
          Bytes.ofNat_toNat (length_wideSecret seed' secret')]
      exact .inl fun half hhalf => ⟨hne half, wideSecret_eq_iff.mp hbytes half hhalf⟩
    · exact .inr ⟨hwide, hmod⟩
  · rintro (hcollide | hcoincide)
    · rw [wideSecret_eq_iff.mpr fun half hhalf => (hcollide half hhalf).keccak256_eq]
    · exact hcoincide.modEq

/-- **Secrets are derived apart from each other.** The four messages of a seed differ, and a message
of one seed is a message of another only for the same secret, the same half and the same digest of
the seeds. So if secrets with different names, or of seeds with different digests, are the same,
then the hash collides on both messages of the one and of the other, or their wide forms differ and
are reduced to one scalar; and if one of these is so, they are the same. -/
theorem ofSeed_separates (hseed : seed ≠ []) (hseed' : seed' ≠ []) :
    (messages seed).Nodup ∧
    (∀ secret secret' half half', message seed secret half = message seed' secret' half' ↔
      secret = secret' ∧ half = half' ∧ keccak256 seed = keccak256 seed') ∧
    ∃ identity identity', ofSeed seed = .ok identity ∧ ofSeed seed' = .ok identity' ∧
      (∀ secret, identity.secret secret = Scalar.reduceBytes
        (keccak256 (message seed secret 0) ++ keccak256 (message seed secret 1))) ∧
      ∀ secret secret', secret ≠ secret' ∨ keccak256 seed ≠ keccak256 seed' →
        (identity.secret secret = identity'.secret secret' ↔
          (∀ half ∈ halves,
            DigestsCollide (message seed secret half) (message seed' secret' half)) ∨
          Coincide (wideSecret seed secret) (wideSecret seed' secret')) := by
  obtain ⟨identity, hidentity, hsecret⟩ := exists_ofSeed hseed
  obtain ⟨identity', hidentity', hsecret'⟩ := exists_ofSeed hseed'
  refine ⟨nodup_messages seed, fun _ _ _ _ => message_inj, identity, identity', hidentity,
    hidentity', hsecret, fun secret secret' h => ?_⟩
  rw [hsecret, hsecret']
  exact derive_eq_iff h

/-- The trapdoor of one seed and the nullifier of another. -/
theorem ofSeed_separates_one_two :
    ([1] : Bytes) ≠ [] ∧ ([2] : Bytes) ≠ [] ∧ Secret.trapdoor ≠ Secret.nullifier ∧
      message [1] .trapdoor 0 ≠ message [2] .nullifier 0 ∧
      ∃ identity identity', ofSeed [1] = .ok identity ∧ ofSeed [2] = .ok identity' ∧
        (identity.trapdoor = identity'.nullifier ↔
          (∀ half ∈ halves,
            DigestsCollide (message [1] .trapdoor half) (message [2] .nullifier half)) ∨
          Coincide (wideSecret [1] .trapdoor) (wideSecret [2] .nullifier)) := by
  have hone : ([1] : Bytes) ≠ [] := by decide
  have htwo : ([2] : Bytes) ≠ [] := by decide
  have hsecret : Secret.trapdoor ≠ Secret.nullifier := by decide
  obtain ⟨-, hmessage, identity, identity', hidentity, hidentity', -, hsame⟩ :=
    ofSeed_separates hone htwo
  exact ⟨hone, htwo, hsecret, fun h => hsecret ((hmessage _ _ _ _).mp h).1, identity, identity',
    hidentity, hidentity', hsame .trapdoor .nullifier (.inl hsecret)⟩

end Identity

end GroupSignal
