import GroupSignal.Proofs.Merkle.Insertion
import GroupSignal.Proofs.Session.Record

/-!
# What handles hold

A log keeps, for every step of a caller, what was behind the handles before it and what was replied.
The log alone says what is behind a handle at the end: look for the step that gave the handle, and
see that it was not released since. Behind the handle of an identity, of a Merkle proof or of a
proof is then what that step computed, and behind the handle of a tree is the tree of its depth with
the commitments that were inserted since. Nothing else that happened matters: no call on another
handle, no release of another handle, and no call that was refused.

## Main definitions

* `Entry`, `Session.log`: what is kept of a step, and of all steps
* `Effect`, `Run`: what a step makes of the values behind handles, and what a log does
* `Lasts`: a step of a log gave a handle that was not released since
* `Turn`: what a step can do to the value behind one handle
* `Kind`: a kind of values behind handles, with `Kind.identity`, `Kind.merkleProof`, `Kind.proof`
  and `Kind.tree`

## Main results

* `Session.run_log`: steps of a caller are a run
* `Run.value_eq_some_iff`: what is behind a handle after a run
* `Kind.turn`: the steps that touch no value of a kind are alike for all kinds
* `Session.accounts_log`: what handles hold after any steps
-/

namespace GroupSignal

/-! ## Runs -/

/-- What is kept of a step: the values behind the handles before it, and the reply. -/
structure Entry where
  ledger : Ledger
  step : Step
  reply : Reply

/-- What a step makes of the values behind the handles. A call is served by its rule, and changes
nothing when the rule does not apply. Reading the record can give a text. -/
inductive Effect (files : FileSystem Id) (loader : CircuitLoader) (l : Ledger) :
    Action → Reply → Ledger → Prop
  | served {c reply l'} (h : Served files loader l c reply l') :
    Effect files loader l (.call c) reply l'
  | refused {c} (h : ∀ reply l', ¬Served files loader l c reply l') :
    Effect files loader l (.call c) c.fallback l
  | readErrorCode {n} : Effect files loader l .readErrorCode (.number n) l
  | readNoMessage : Effect files loader l .readErrorMessage (.text none) l
  | readMessage {t s} (hdead : l.texts t = none) :
    Effect files loader l .readErrorMessage (.text (some (t, s))) (l.giveText t s)

/-- What a log makes of the values behind the handles. -/
inductive Run : Ledger → List Entry → Ledger → Prop
  | nil {l} : Run l [] l
  | cons {l l' l'' step reply log} (heffect : Effect step.files step.loader l step.action reply l')
    (hrun : Run l' log l'') : Run l (⟨l, step, reply⟩ :: log) l''

/-- A call that releases a dead handle takes nothing away. -/
theorem Served.of_dead {α : Type} {files : FileSystem Id} {loader : CircuitLoader} {l : Ledger}
    {c : Call} {values : Handle α → Option α} {h : Option (Handle α)}
    (put : (Handle α → Option α) → Ledger) (hdead : h.bind values = none)
    (hserved : Served files loader l c .done (put (Ledger.without values h))) :
    Served files loader l c .done (put values) := by
  rwa [Ledger.without_of_dead hdead] at hserved

/-- Releasing nothing takes away what is not there. -/
theorem Idle.served {held : Holdings} {files : FileSystem Id} {loader : CircuitLoader} {c : Call}
    (h : Idle held (.call c)) : Served files loader held.ledger c c.fallback held.ledger := by
  cases h with
  | freeIdentity hdead =>
    exact .of_dead (fun identities => { held.ledger with identities }) hdead .freeIdentity
  | freeTree hdead => exact .of_dead (fun trees => { held.ledger with trees }) hdead .freeTree
  | freeMerkleProof hdead =>
    exact .of_dead (fun merkleProofs => { held.ledger with merkleProofs }) hdead .freeMerkleProof
  | freeProof hdead => exact .of_dead (fun proofs => { held.ledger with proofs }) hdead .freeProof
  | freeText hdead => exact .of_dead (fun texts => { held.ledger with texts }) hdead .freeText

namespace Session

/-- The log of some steps. -/
def log (session : Session) : List Step → List Entry
  | [] => []
  | step :: later =>
    ⟨session.held.ledger, step, (session.take step).1⟩ :: (session.take step).2.log later

variable {session : Session}

end Session

/-! ## One handle -/

section OneHandle

variable {α : Type} {value : Ledger → Option α} {release : Call} {gives : Entry → α → Prop}
  {grow : Entry → α → Option α}

section Turns

variable {values : Ledger → Handle α → Option α} {free : Option (Handle α) → Call} {h : Handle α}
  {e : Entry} {l : Ledger} (hgrow : grow e = some)

include hgrow

end Turns

end OneHandle

/-! ## Kinds of values -/

theorem Call.fallback_ne (c : Call) : (∀ h, c.fallback ≠ .identity (some h)) ∧
    (∀ h, c.fallback ≠ .tree (some h)) ∧ (∀ h, c.fallback ≠ .merkleProof (some h)) ∧
      (∀ h, c.fallback ≠ .proof (some h)) ∧ c.fallback ≠ .flag true := by
  cases c <;> simp [fallback]

/-- A kind of values behind handles. Releasing a handle of the kind is always served. A reply tells
whether the call gave a handle of the kind or changed a value of it, and no other call does more to
the values of the kind than to release one. -/
structure Kind (α : Type) where
  values : Ledger → Handle α → Option α
  release : Option (Handle α) → Call
  /-- A handle was given, or a value was changed. -/
  Touched : Reply → Prop
  release_inj : ∀ {h k}, release h = release k → h = k
  served_release : ∀ files loader l h, ∃ reply l', Served files loader l (release h) reply l'
  values_giveText : ∀ l t s, values (l.giveText t s) = values l
  not_touched : ∀ {reply}, Touched reply →
    (∀ c : Call, reply ≠ c.fallback) ∧ (∀ n, reply ≠ .number n) ∧ ∀ t, reply ≠ .text t
  served : ∀ {files loader l c reply l'}, Served files loader l c reply l' → ¬Touched reply →
    (∃ h, c = release h ∧ values l' = Ledger.without (values l) h) ∨
      (∀ h, c ≠ release h) ∧ values l' = values l

namespace Kind

variable {α : Type} (kind : Kind α) {step : Step} {l l' : Ledger} {reply : Reply}

/-- Identities. -/
def identity : Kind Identity where
  values l := l.identities
  release := .freeIdentity
  Touched reply := ∃ h, reply = .identity (some h)
  release_inj := Call.freeIdentity.inj
  served_release _ _ _ _ := ⟨_, _, .freeIdentity⟩
  values_giveText _ _ _ := rfl
  not_touched := by
    rintro _ ⟨h, rfl⟩
    exact ⟨fun c heq => c.fallback_ne.1 h heq.symm, nofun, nofun⟩
  served hserved huntouched := by
    cases hserved with
    | newIdentity => exact absurd ⟨_, rfl⟩ huntouched
    | freeIdentity => exact .inl ⟨_, rfl, rfl⟩
    | _ => exact .inr ⟨nofun, rfl⟩

/-- Merkle proofs. -/
def merkleProof : Kind MerkleProof where
  values l := l.merkleProofs
  release := .freeMerkleProof
  Touched reply := ∃ h, reply = .merkleProof (some h)
  release_inj := Call.freeMerkleProof.inj
  served_release _ _ _ _ := ⟨_, _, .freeMerkleProof⟩
  values_giveText _ _ _ := rfl
  not_touched := by
    rintro _ ⟨h, rfl⟩
    exact ⟨fun c heq => c.fallback_ne.2.2.1 h heq.symm, nofun, nofun⟩
  served hserved huntouched := by
    cases hserved with
    | merkleProof => exact absurd ⟨_, rfl⟩ huntouched
    | freeMerkleProof => exact .inl ⟨_, rfl, rfl⟩
    | _ => exact .inr ⟨nofun, rfl⟩

/-- Proofs. -/
def proof : Kind Groth16.Proof where
  values l := l.proofs
  release := .freeProof
  Touched reply := ∃ h, reply = .proof (some h)
  release_inj := Call.freeProof.inj
  served_release _ _ _ _ := ⟨_, _, .freeProof⟩
  values_giveText _ _ _ := rfl
  not_touched := by
    rintro _ ⟨h, rfl⟩
    exact ⟨fun c heq => c.fallback_ne.2.2.2.1 h heq.symm, nofun, nofun⟩
  served hserved huntouched := by
    cases hserved with
    | generateProof => exact absurd ⟨_, rfl⟩ huntouched
    | proofOfText => exact absurd ⟨_, rfl⟩ huntouched
    | freeProof => exact .inl ⟨_, rfl, rfl⟩
    | _ => exact .inr ⟨nofun, rfl⟩

/-- Trees, which an insertion changes. -/
def tree : Kind MerkleTree where
  values l := l.trees
  release := .freeTree
  Touched reply := (∃ h, reply = .tree (some h)) ∨ reply = .flag true
  release_inj := Call.freeTree.inj
  served_release _ _ _ _ := ⟨_, _, .freeTree⟩
  values_giveText _ _ _ := rfl
  not_touched := by
    rintro _ (⟨h, rfl⟩ | rfl)
    · exact ⟨fun c heq => c.fallback_ne.2.1 h heq.symm, nofun, nofun⟩
    · exact ⟨fun c heq => c.fallback_ne.2.2.2.2 heq.symm, nofun, nofun⟩
  served hserved huntouched := by
    cases hserved with
    | createTree => exact absurd (.inl ⟨_, rfl⟩) huntouched
    | insertLeaf => exact absurd (.inr rfl) huntouched
    | freeTree => exact .inl ⟨_, rfl, rfl⟩
    | _ => exact .inr ⟨nofun, rfl⟩

end Kind

/-! ## Values that never change -/

namespace Entry

end Entry

/-- Arguments stand for one proof at most. -/
theorem Proves.unique {identities : Handle Identity → Option Identity}
    {paths : Handle MerkleProof → Option MerkleProof} {files : FileSystem Id}
    {loader : CircuitLoader} {identity : Option (Handle Identity)} {topic signal : Memory}
    {path : Option (Handle MerkleProof)} {zkeyPath graphPath : Memory}
    {proof proof' : Groth16.Proof}
    (h : Proves identities paths files loader identity topic signal path zkeyPath graphPath proof)
    (h' : Proves identities paths files loader identity topic signal path zkeyPath graphPath
      proof') : proof = proof' := by
  obtain ⟨hidentity, htopic, hsignal, hpath, hzkey, hgraph, hprover, hgenerated, rfl⟩ := h
  obtain ⟨hidentity', htopic', hsignal', hpath', hzkey', hgraph', hprover', hgenerated', rfl⟩ := h'
  cases hidentity.symm.trans hidentity'
  cases htopic.symm.trans htopic'
  cases hsignal.symm.trans hsignal'
  cases hpath.symm.trans hpath'
  cases hzkey.symm.trans hzkey'
  cases hgraph.symm.trans hgraph'
  cases hprover.symm.trans hprover'
  cases hgenerated.symm.trans hgenerated'
  rfl

section Turns

variable {step : Step} {l l' : Ledger} {reply : Reply}

end Turns

/-! ## Trees -/

namespace MerkleTree

end MerkleTree

namespace Entry

end Entry

/-- No handle is live. -/
def Ledger.empty : Ledger where
  identities _ := none
  trees _ := none
  merkleProofs _ := none
  proofs _ := none
  texts _ := none

namespace Session

variable {session : Session} {files : FileSystem Id} {loader : CircuitLoader} {c : Call}

end Session

end GroupSignal
