import GroupSignal.Config
import GroupSignal.Document.Values
import GroupSignal.Proofs.Document.Records
import GroupSignal.Proofs.Field.Bytes
import GroupSignal.Proofs.Groth16.Text
import GroupSignal.Proofs.Hex
import GroupSignal.Proofs.Numeral.Bounded

/-!
# Values are read from their documents

The reader of every type takes the document of a value, in both forms, and gives the value back.

## Main results

* `Reader.takes_hexBytes`, `Reader.takes_hexInteger`: byte strings and integers
* `Scalar.takes_read`, `Branch.takes_read`, `MerkleProof.takes_read`,
  `Groth16.EncodedProof.takes_read`, `SignalProof.takes_read`, `Config.takes_read`: the types
-/

namespace GroupSignal

open Reader

variable {fmt : Format}

/-! ## Behind `0x` -/

theorem Reader.takes_hexBytes (b : Bytes) :
    Takes (hexBytes fmt) ((Document.bytes b).events fmt) b := by
  cases fmt with
  | json => exact (takes_text .json _).ofExcept _ (Hex.decodePrefixed_prefixed b)
  | cbor => exact takes_byteString b

theorem Reader.takes_hexInteger (n : UInt64) :
    Takes hexInteger ((Document.hexInteger n).events fmt) n := by
  have hprefix : Numeral.dropPrefix (Numeral.hex n.toNat).toList = Nat.toDigits 16 n.toNat := by
    rw [Numeral.hex, String.toList_ofList]
    rfl
  have hread : Numeral.readBounded 16 UInt64.size (Nat.toDigits 16 n.toNat) = .ok n.toNat :=
    Numeral.readBounded_toDigits (by decide) (by decide) n.toNat_lt
  -- What is read is the number of the digits, of which the word keeps all.
  have hvalue : Takes (do
      let n ← Reader.ofExcept ReadError.invalidHexInteger
        (Numeral.readBounded 16 UInt64.size (Nat.toDigits 16 n.toNat))
      return UInt64.ofNat n) [] n := by
    have h := (takes_ofExcept ReadError.invalidHexInteger hread).bind_pure (f := UInt64.ofNat)
    rwa [UInt64.ofNat_toNat] at h
  rw [← hprefix] at hvalue
  exact (takes_text fmt (Numeral.hex n.toNat)).bind hvalue

/-! ## The types -/

theorem Scalar.takes_read (x : Scalar) : Takes (read fmt) ((document fmt x).events fmt) x := by
  cases fmt with
  | json => exact (takes_text .json _).ofExcept _ (ofText_toText x)
  | cbor =>
    -- The length is looked at first, and the number that the bytes write is below the modulus.
    have hlength : (toBytes x).length = 32 := Bytes.length_ofNat 32 x.val
    have hread : Takes (do
        if (toBytes x).length ≠ 32 then Reader.fail .wrongByteCount
        Reader.ofExcept ReadError.value (ofBytes (toBytes x))) [] x := by
      rw [if_neg (not_not.mpr hlength)]
      exact takes_ofExcept _ (ofBytes_toBytes x)
    exact (takes_byteString (toBytes x)).bind hread

theorem Branch.takes_read (step : Branch) :
    Takes (read fmt) ((document fmt step).events fmt) step := by
  cases step with
  | left s => exact takes_variant rfl (Scalar.takes_read s).map
  | right s => exact takes_variant rfl (Scalar.takes_read s).map

theorem MerkleProof.takes_read (proof : MerkleProof) :
    Takes (read fmt) ((document fmt proof).events fmt) proof := by
  have hindex : Takes hexInteger ((Document.hexInteger proof.leafIndex).events fmt)
      proof.leafIndex := takes_hexInteger proof.leafIndex
  have hpath : Takes (Reader.list (Branch.read fmt))
      ((Document.seq (proof.path.map (Branch.document fmt))).events fmt) proof.path :=
    takes_list fun step _ => step.takes_read
  have hwritten : (members fmt).Written _ (proof.leafIndex, proof.path, ()) :=
    .cons hindex (.cons hpath .nil)
  have hnames : ["leaf_index", "path"].Nodup := by decide
  exact (hwritten.takes_read hnames fmt).bind_pure

theorem Groth16.EncodedProof.takes_read {e : ProofEncoding} (w : EncodedProof e) :
    Takes (read e fmt) (w.document.events fmt) w :=
  (takes_hexBytes w.toBytes).ofExcept _ (ofBytes_toBytes w)

theorem SignalProof.takes_read {signal : SignalProof} (h : signal.proof.Valid) :
    Takes (read fmt) ((document fmt signal).events fmt) signal := by
  obtain ⟨⟨root, nullifierHash, signalHash, externalNullifier⟩, proof⟩ := signal
  have hwritten : (members fmt).Written _
      (root, nullifierHash, signalHash, externalNullifier, proof, ()) :=
    .cons root.takes_read (.cons nullifierHash.takes_read (.cons signalHash.takes_read
      (.cons externalNullifier.takes_read (.cons (Groth16.Proof.takes_read h) .nil))))
  have hnames : ["root", "nullifier_hash", "signal_hash", "external_nullifier", "proof"].Nodup := by
    decide
  exact (hwritten.takes_read hnames fmt).bind_pure

theorem Config.takes_read (config : Config) :
    Takes (read fmt) (config.document.events fmt) config := by
  obtain ⟨treeDepth, zkeyPath, graphPath, verifyingKeyPath⟩ := config
  have hwritten : members.Written _ (treeDepth, zkeyPath, graphPath, verifyingKeyPath, ()) :=
    .cons (takes_natural fmt treeDepth) (.cons (takes_text fmt zkeyPath)
      (.cons (takes_text fmt graphPath) (.cons (takes_text fmt verifyingKeyPath) .nil)))
  have hnames : ["tree_depth", "zkey_path", "graph_path", "verifying_key_path"].Nodup := by decide
  exact (hwritten.takes_read hnames fmt).bind_pure

end GroupSignal
