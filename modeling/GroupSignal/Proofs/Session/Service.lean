import GroupSignal.Proofs.Session.Arguments

/-!
# What a call does to the values behind handles

Behind the handles of a caller are values, and a call is an operation on these: it takes the values
of the handles that it is given, and gives a text, a verdict, or a new handle of a value. There is
one rule for each call. A call that no rule applies to is refused and changes nothing.

## Main definitions

* `Ledger`, `Holdings.ledger`: the values behind the handles
* `Served`: the rules, one for each call

## Main results

* `Holdings.served_of_perform`, `Holdings.exists_perform_of_served`: a call is carried out by its
  rule, and is refused if the rule does not apply
-/

namespace GroupSignal

/-! ## Values behind handles -/

/-- The values behind the handles of a caller. -/
structure Ledger where
  identities : Handle Identity → Option Identity
  trees : Handle MerkleTree → Option MerkleTree
  merkleProofs : Handle MerkleProof → Option MerkleProof
  proofs : Handle Groth16.Proof → Option Groth16.Proof
  texts : Handle String → Option String

/-- The values behind the handles of what is held. -/
def Holdings.ledger (held : Holdings) : Ledger where
  identities := held.identities.get?
  trees := held.trees.get?
  merkleProofs := held.merkleProofs.get?
  proofs := held.proofs.get?
  texts := held.texts.get?

namespace Ledger

/-- Puts a text behind a handle. -/
def giveText (l : Ledger) (t : Handle String) (s : String) : Ledger :=
  { l with texts := Function.update l.texts t (some s) }

/-- Values behind handles, without the one behind a handle that is given up. -/
def without {α : Type} (values : Handle α → Option α) : Option (Handle α) → Handle α → Option α
  | some h => Function.update values h none
  | none => values

theorem without_of_dead {α : Type} {values : Handle α → Option α} {h : Option (Handle α)}
    (hdead : h.bind values = none) : without values h = values := by
  cases h with
  | none => rfl
  | some h => exact Function.update_eq_self_iff.mpr hdead.symm

end Ledger

/-- A call is served: it has a reply, and the values behind the handles become others. A handle that
is given out was dead. -/
inductive Served (files : FileSystem Id) (loader : CircuitLoader) (l : Ledger) :
    Call → Reply → Ledger → Prop
  | newIdentity {seed identity h} (hidentity : Identity.ofSeed seed = .ok identity)
    (hdead : l.identities h = none) :
    Served files loader l (.newIdentity (some seed)) (.identity (some h))
      { l with identities := Function.update l.identities h (some identity) }
  | identityCommitment {i identity t} (hidentity : l.identities i = some identity)
    (hdead : l.texts t = none) :
    Served files loader l (.identityCommitment (some i))
      (.text (some (t, Scalar.toText identity.commitment)))
      (l.giveText t (Scalar.toText identity.commitment))
  | nullifierHash {i identity topic b t} (hidentity : l.identities i = some identity)
    (htopic : Memory.bytes? topic = some b) (hdead : l.texts t = none) :
    Served files loader l (.nullifierHash (some i) topic)
      (.text (some (t, Scalar.toText (identity.nullifierHash (hashToScalar b)))))
      (l.giveText t (Scalar.toText (identity.nullifierHash (hashToScalar b))))
  | createTree {depth tree h} (htree : MerkleTree.create depth.toNat = .ok tree)
    (hdead : l.trees h = none) :
    Served files loader l (.createTree depth) (.tree (some h))
      { l with trees := Function.update l.trees h (some tree) }
  | insertLeaf {h i tree identity index tree'} (htree : l.trees h = some tree)
    (hidentity : l.identities i = some identity)
    (hinsert : tree.insert identity.commitment = .ok (index, tree')) :
    Served files loader l (.insertLeaf (some h) (some i)) (.flag true)
      { l with trees := Function.update l.trees h (some tree') }
  | treeRoot {h tree t} (htree : l.trees h = some tree) (hdead : l.texts t = none) :
    Served files loader l (.treeRoot (some h)) (.text (some (t, Scalar.toText tree.root)))
      (l.giveText t (Scalar.toText tree.root))
  | merkleProof {h tree index path m} (htree : l.trees h = some tree)
    (hpath : tree.proof index = .ok path) (hdead : l.merkleProofs m = none) :
    Served files loader l (.merkleProof (some h) index) (.merkleProof (some m))
      { l with merkleProofs := Function.update l.merkleProofs m (some path) }
  | generateProof {identity topic signal path zkeyPath graphPath proof p}
    (hproof : Proves l.identities l.merkleProofs files loader identity topic signal path zkeyPath
      graphPath proof) (hdead : l.proofs p = none) :
    Served files loader l (.generateProof identity topic signal path zkeyPath graphPath)
      (.proof (some p)) { l with proofs := Function.update l.proofs p (some proof) }
  | proofToText {p proof t} (hproof : l.proofs p = some proof) (hdead : l.texts t = none) :
    Served files loader l (.proofToText (some p)) (.text (some (t, proof.toText)))
      (l.giveText t proof.toText)
  | proofOfText {text s proof p} (htext : Memory.text? text = some s)
    (hproof : Groth16.Proof.ofText s = .ok proof) (hdead : l.proofs p = none) :
    Served files loader l (.proofOfText text) (.proof (some p))
      { l with proofs := Function.update l.proofs p (some proof) }
  | verifyProof {root topic signal nullifierHash proof keyPath valid}
    (hvalid : Verdict l.proofs files root topic signal nullifierHash proof keyPath valid) :
    Served files loader l (.verifyProof root topic signal nullifierHash proof keyPath)
      (.number (if valid then 1 else 0)) l
  | freeIdentity {h} : Served files loader l (.freeIdentity h) .done
      { l with identities := Ledger.without l.identities h }
  | freeTree {h} : Served files loader l (.freeTree h) .done
      { l with trees := Ledger.without l.trees h }
  | freeMerkleProof {h} : Served files loader l (.freeMerkleProof h) .done
      { l with merkleProofs := Ledger.without l.merkleProofs h }
  | freeProof {h} : Served files loader l (.freeProof h) .done
      { l with proofs := Ledger.without l.proofs h }
  | freeText {h} : Served files loader l (.freeText h) .done
      { l with texts := Ledger.without l.texts h }

namespace Holdings

variable {held held' : Holdings} {files : FileSystem Id} {loader : CircuitLoader} {c : Call}
  {reply : Reply}

theorem get?_free {α : Type} (table : Table α) (h : Option (Handle α)) :
    (free table h).get? = Ledger.without table.get? h := by
  cases h with
  | none => rfl
  | some h => exact Table.get?_release

/-- A text that is handed out is put behind a dead handle. -/
theorem giveText_eq_ok_iff {s : String} : held.giveText s = .ok (reply, held') ↔
    s.contains '\x00' = false ∧ reply = .text (some ((held.texts.insert s).1, s)) ∧
      held' = { held with texts := (held.texts.insert s).2 } := by
  unfold giveText
  split
  · rename_i h
    exact iff_of_false nofun fun hfalse => Bool.noConfusion (hfalse.1.symm.trans h)
  · rename_i h
    show Except.ok (_, _) = Except.ok (reply, held') ↔ _
    rw [Except.ok.injEq, Prod.mk.injEq, eq_comm, eq_comm (b := held')]
    exact (and_iff_right (Bool.eq_false_iff.mpr h)).symm

theorem ledger_giveText (s : String) :
    ({ held with texts := (held.texts.insert s).2 } : Holdings).ledger =
      held.ledger.giveText (held.texts.insert s).1 s := by
  show ({ held.ledger with texts := (held.texts.insert s).2.get? } : Ledger) = _
  rw [Table.get?_insert]
  rfl

/-- A text that is handed out is put behind a dead handle. -/
theorem exists_of_giveText {s : String} (h : held.giveText s = .ok (reply, held')) :
    ∃ t, held.ledger.texts t = none ∧ reply = .text (some (t, s)) ∧
      held'.ledger = held.ledger.giveText t s := by
  obtain ⟨-, rfl, rfl⟩ := giveText_eq_ok_iff.mp h
  exact ⟨_, held.texts.get?_next s, rfl, ledger_giveText s⟩

/-- A value that is taken is behind a live handle. -/
theorem exists_of_value {α : Type} {table : Table α} {name : String} {h : Option (Handle α)} {a : α}
    (hvalue : value table name h = .ok a) : ∃ k, h = some k ∧ table.get? k = some a :=
  Option.bind_eq_some_iff.mp (value_eq_ok_iff.mp hvalue)

section Kinds

variable {l : Ledger}

/-- A call that gives a text, under any dead handle. -/
theorem served_of_giveText {s : String}
    (hserved : ∀ t, held.ledger.texts t = none →
      Served files loader held.ledger c (.text (some (t, s))) (held.ledger.giveText t s))
    (h : held.giveText s = .ok (reply, held')) :
    Served files loader held.ledger c reply held'.ledger := by
  obtain ⟨t, hdead, rfl, hledger⟩ := exists_of_giveText h
  rw [hledger]
  exact hserved t hdead

/-- A call that puts a value in a table, and gives its handle. -/
theorem served_of_insert {α : Type} {table : Table α} {a : α} (give : Handle α → Reply)
    (put : (Handle α → Option α) → Ledger)
    (hserved : ∀ k, table.get? k = none →
      Served files loader l c (give k) (put (Function.update table.get? k (some a)))) :
    Served files loader l c (give (table.insert a).1) (put (table.insert a).2.get?) := by
  rw [Table.get?_insert]
  exact hserved _ (table.get?_next a)

/-- A call that releases a handle of a table. -/
theorem served_of_free {α : Type} {table : Table α} {k : Option (Handle α)}
    (put : (Handle α → Option α) → Ledger)
    (hserved : Served files loader l c .done (put (Ledger.without table.get? k))) :
    Served files loader l c .done (put (free table k).get?) := by
  rw [get?_free]
  exact hserved

end Kinds

/-! Every call is followed along its steps. -/

theorem served_newIdentity {seed : Option Bytes}
    (h : held.perform files loader (.newIdentity seed) = .ok (reply, held')) :
    Served files loader held.ledger (.newIdentity seed) reply held'.ledger := by
  obtain ⟨seed', hseed, h⟩ := bind_eq_ok_iff.mp h
  obtain ⟨identity, hidentity, h⟩ := bind_eq_ok_iff.mp h
  obtain ⟨rfl, rfl⟩ := Prod.mk.inj (Except.ok.inj h)
  cases seed with
  | none => cases hseed
  | some seed =>
    cases hseed
    exact served_of_insert (fun k => .identity (some k))
      (fun identities => { held.ledger with identities })
      fun _ hdead => .newIdentity (attempt_eq_ok_iff.mp hidentity) hdead

theorem served_identityCommitment {i : Option (Handle Identity)}
    (h : held.perform files loader (.identityCommitment i) = .ok (reply, held')) :
    Served files loader held.ledger (.identityCommitment i) reply held'.ledger := by
  obtain ⟨identity, hidentity, h⟩ := bind_eq_ok_iff.mp h
  refine served_of_giveText (fun t hdead => ?_) h
  obtain ⟨i, rfl, hlive⟩ := exists_of_value hidentity
  exact .identityCommitment hlive hdead

theorem served_nullifierHash {i : Option (Handle Identity)} {topic : Memory}
    (h : held.perform files loader (.nullifierHash i topic) = .ok (reply, held')) :
    Served files loader held.ledger (.nullifierHash i topic) reply held'.ledger := by
  obtain ⟨identity, hidentity, h⟩ := bind_eq_ok_iff.mp h
  obtain ⟨b, htopic, h⟩ := bind_eq_ok_iff.mp h
  refine served_of_giveText (fun t hdead => ?_) h
  obtain ⟨i, rfl, hlive⟩ := exists_of_value hidentity
  exact .nullifierHash hlive (bytes_eq_ok_iff.mp htopic) hdead

theorem served_createTree {depth : UInt64}
    (h : held.perform files loader (.createTree depth) = .ok (reply, held')) :
    Served files loader held.ledger (.createTree depth) reply held'.ledger := by
  obtain ⟨tree, htree, h⟩ := bind_eq_ok_iff.mp h
  obtain ⟨rfl, rfl⟩ := Prod.mk.inj (Except.ok.inj h)
  exact served_of_insert (fun k => .tree (some k)) (fun trees => { held.ledger with trees })
    fun _ hdead => .createTree (mapError_eq_ok_iff.mp (attempt_eq_ok_iff.mp htree)) hdead

theorem served_insertLeaf {k : Option (Handle MerkleTree)} {i : Option (Handle Identity)}
    (h : held.perform files loader (.insertLeaf k i) = .ok (reply, held')) :
    Served files loader held.ledger (.insertLeaf k i) reply held'.ledger := by
  obtain ⟨tree, htree, h⟩ := bind_eq_ok_iff.mp h
  obtain ⟨identity, hidentity, h⟩ := bind_eq_ok_iff.mp h
  obtain ⟨⟨index, tree'⟩, hinsert, h⟩ := bind_eq_ok_iff.mp h
  obtain ⟨rfl, rfl⟩ := Prod.mk.inj (Except.ok.inj h)
  obtain ⟨k, rfl, hlive⟩ := exists_of_value htree
  obtain ⟨i, rfl, hlive'⟩ := exists_of_value hidentity
  -- The tree is put in place of the one that was there.
  show Served _ _ _ _ _ { held.ledger with trees := (held.trees.set k tree').get? }
  rw [Table.get?_set hlive]
  exact .insertLeaf hlive hlive' (mapError_eq_ok_iff.mp (attempt_eq_ok_iff.mp hinsert))

theorem served_treeRoot {k : Option (Handle MerkleTree)}
    (h : held.perform files loader (.treeRoot k) = .ok (reply, held')) :
    Served files loader held.ledger (.treeRoot k) reply held'.ledger := by
  obtain ⟨tree, htree, h⟩ := bind_eq_ok_iff.mp h
  refine served_of_giveText (fun t hdead => ?_) h
  obtain ⟨k, rfl, hlive⟩ := exists_of_value htree
  exact .treeRoot hlive hdead

theorem served_merkleProof {k : Option (Handle MerkleTree)} {index : UInt64}
    (h : held.perform files loader (.merkleProof k index) = .ok (reply, held')) :
    Served files loader held.ledger (.merkleProof k index) reply held'.ledger := by
  obtain ⟨tree, htree, h⟩ := bind_eq_ok_iff.mp h
  obtain ⟨path, hpath, h⟩ := bind_eq_ok_iff.mp h
  obtain ⟨rfl, rfl⟩ := Prod.mk.inj (Except.ok.inj h)
  obtain ⟨k, rfl, hlive⟩ := exists_of_value htree
  exact served_of_insert (fun m => .merkleProof (some m))
    (fun merkleProofs => { held.ledger with merkleProofs })
    fun _ hdead => .merkleProof hlive (mapError_eq_ok_iff.mp (attempt_eq_ok_iff.mp hpath)) hdead

theorem served_generateProof {identity : Option (Handle Identity)} {topic signal : Memory}
    {path : Option (Handle MerkleProof)} {zkeyPath graphPath : Memory}
    (h : held.perform files loader (.generateProof identity topic signal path zkeyPath graphPath) =
      .ok (reply, held')) :
    Served files loader held.ledger (.generateProof identity topic signal path zkeyPath graphPath)
      reply held'.ledger := by
  obtain ⟨proof, hproof, h⟩ := bind_eq_ok_iff.mp h
  obtain ⟨rfl, rfl⟩ := Prod.mk.inj (Except.ok.inj h)
  exact served_of_insert (fun p => .proof (some p)) (fun proofs => { held.ledger with proofs })
    fun _ hdead => .generateProof (prove_eq_ok_iff.mp hproof) hdead

theorem served_proofToText {p : Option (Handle Groth16.Proof)}
    (h : held.perform files loader (.proofToText p) = .ok (reply, held')) :
    Served files loader held.ledger (.proofToText p) reply held'.ledger := by
  obtain ⟨proof, hproof, h⟩ := bind_eq_ok_iff.mp h
  refine served_of_giveText (fun t hdead => ?_) h
  obtain ⟨p, rfl, hlive⟩ := exists_of_value hproof
  exact .proofToText hlive hdead

theorem served_proofOfText {s : Memory}
    (h : held.perform files loader (.proofOfText s) = .ok (reply, held')) :
    Served files loader held.ledger (.proofOfText s) reply held'.ledger := by
  obtain ⟨s', hs, h⟩ := bind_eq_ok_iff.mp h
  obtain ⟨proof, hproof, h⟩ := bind_eq_ok_iff.mp h
  obtain ⟨rfl, rfl⟩ := Prod.mk.inj (Except.ok.inj h)
  exact served_of_insert (fun p => .proof (some p)) (fun proofs => { held.ledger with proofs })
    fun _ hdead => .proofOfText (text_eq_ok_iff.mp hs)
      (mapError_eq_ok_iff.mp (attempt_eq_ok_iff.mp hproof)) hdead

theorem served_verifyProof {root topic signal nullifierHash : Memory}
    {proof : Option (Handle Groth16.Proof)} {keyPath : Memory}
    (h : held.perform files loader (.verifyProof root topic signal nullifierHash proof keyPath) =
      .ok (reply, held')) :
    Served files loader held.ledger (.verifyProof root topic signal nullifierHash proof keyPath)
      reply held'.ledger := by
  obtain ⟨valid, hvalid, h⟩ := bind_eq_ok_iff.mp h
  obtain ⟨rfl, rfl⟩ := Prod.mk.inj (Except.ok.inj h)
  exact .verifyProof (verdict_eq_ok_iff.mp hvalid)

/-- **A call is carried out** by its rule. -/
theorem served_of_perform (h : held.perform files loader c = .ok (reply, held')) :
    Served files loader held.ledger c reply held'.ledger := by
  cases c with
  | newIdentity => exact served_newIdentity h
  | identityCommitment => exact served_identityCommitment h
  | nullifierHash => exact served_nullifierHash h
  | createTree => exact served_createTree h
  | insertLeaf => exact served_insertLeaf h
  | treeRoot => exact served_treeRoot h
  | merkleProof => exact served_merkleProof h
  | generateProof => exact served_generateProof h
  | proofToText => exact served_proofToText h
  | proofOfText => exact served_proofOfText h
  | verifyProof => exact served_verifyProof h
  | freeIdentity =>
    obtain ⟨rfl, rfl⟩ := Prod.mk.inj (Except.ok.inj h)
    exact served_of_free (fun identities => { held.ledger with identities }) .freeIdentity
  | freeTree =>
    obtain ⟨rfl, rfl⟩ := Prod.mk.inj (Except.ok.inj h)
    exact served_of_free (fun trees => { held.ledger with trees }) .freeTree
  | freeMerkleProof =>
    obtain ⟨rfl, rfl⟩ := Prod.mk.inj (Except.ok.inj h)
    exact served_of_free (fun merkleProofs => { held.ledger with merkleProofs }) .freeMerkleProof
  | freeProof =>
    obtain ⟨rfl, rfl⟩ := Prod.mk.inj (Except.ok.inj h)
    exact served_of_free (fun proofs => { held.ledger with proofs }) .freeProof
  | freeText =>
    obtain ⟨rfl, rfl⟩ := Prod.mk.inj (Except.ok.inj h)
    exact served_of_free (fun texts => { held.ledger with texts }) .freeText

/-- Where the rule of a call applies, the call is carried out. -/
theorem exists_perform_of_served {l : Ledger} (h : Served files loader held.ledger c reply l) :
    ∃ result, held.perform files loader c = .ok result := by
  cases h with
  | newIdentity hidentity =>
    exact ⟨_, bind_eq_ok_iff.mpr ⟨_, rfl, bind_eq_ok_iff.mpr
      ⟨_, attempt_eq_ok_iff.mpr hidentity, rfl⟩⟩⟩
  | identityCommitment hidentity =>
    exact ⟨_, bind_eq_ok_iff.mpr ⟨_, value_eq_ok_iff.mpr hidentity,
      giveText_eq (Scalar.nullFree_toText _) held⟩⟩
  | nullifierHash hidentity htopic =>
    exact ⟨_, bind_eq_ok_iff.mpr ⟨_, value_eq_ok_iff.mpr hidentity, bind_eq_ok_iff.mpr
      ⟨_, bytes_eq_ok_iff.mpr htopic, giveText_eq (Scalar.nullFree_toText _) held⟩⟩⟩
  | createTree htree =>
    exact ⟨_, bind_eq_ok_iff.mpr
      ⟨_, attempt_eq_ok_iff.mpr (mapError_eq_ok_iff.mpr htree), rfl⟩⟩
  | insertLeaf htree hidentity hinsert =>
    exact ⟨_, bind_eq_ok_iff.mpr ⟨_, value_eq_ok_iff.mpr htree, bind_eq_ok_iff.mpr
      ⟨_, value_eq_ok_iff.mpr hidentity, bind_eq_ok_iff.mpr
        ⟨_, attempt_eq_ok_iff.mpr (mapError_eq_ok_iff.mpr hinsert), rfl⟩⟩⟩⟩
  | treeRoot htree =>
    exact ⟨_, bind_eq_ok_iff.mpr ⟨_, value_eq_ok_iff.mpr htree,
      giveText_eq (Scalar.nullFree_toText _) held⟩⟩
  | merkleProof htree hpath =>
    exact ⟨_, bind_eq_ok_iff.mpr ⟨_, value_eq_ok_iff.mpr htree, bind_eq_ok_iff.mpr
      ⟨_, attempt_eq_ok_iff.mpr (mapError_eq_ok_iff.mpr hpath), rfl⟩⟩⟩
  | generateProof hproof =>
    exact ⟨_, bind_eq_ok_iff.mpr ⟨_, prove_eq_ok_iff.mpr hproof, rfl⟩⟩
  | proofToText hproof =>
    exact ⟨_, bind_eq_ok_iff.mpr ⟨_, value_eq_ok_iff.mpr hproof,
      giveText_eq (Groth16.Proof.nullFree_toText _) held⟩⟩
  | proofOfText htext hproof =>
    exact ⟨_, bind_eq_ok_iff.mpr ⟨_, text_eq_ok_iff.mpr htext, bind_eq_ok_iff.mpr
      ⟨_, attempt_eq_ok_iff.mpr (mapError_eq_ok_iff.mpr hproof), rfl⟩⟩⟩
  | verifyProof hvalid => exact ⟨_, bind_eq_ok_iff.mpr ⟨_, verdict_eq_ok_iff.mpr hvalid, rfl⟩⟩
  | _ => exact ⟨_, rfl⟩

/-- So no rule applies to a call that is refused. -/
theorem not_served_of_error {e : CallError} (h : held.perform files loader c = .error e)
    (reply : Reply) (l : Ledger) : ¬Served files loader held.ledger c reply l := by
  intro hserved
  obtain ⟨result, hok⟩ := exists_perform_of_served hserved
  rw [h] at hok
  cases hok

end Holdings

end GroupSignal
