import GroupSignal.Field.Scalar
import GroupSignal.Merkle.Tree
import GroupSignal.Pairing.Ate
import GroupSignal.Document.Basic
import GroupSignal.Json.Token
import GroupSignal.Json.Event
import GroupSignal.Json.Writer
import GroupSignal.Cbor
import GroupSignal.Document.Record
import GroupSignal.Document.Values
import GroupSignal.Groth16.Compression
import GroupSignal.Config
import GroupSignal.Groth16.KeyDocument
import GroupSignal.Session.Basic
import GroupSignal.Rehearsal
import GroupSignal.Command.Run
import GroupSignal.Main
import GroupSignal.Proofs.Signal.Completeness
import GroupSignal.Proofs.Signal.Generation
import GroupSignal.Proofs.Field.Prime
import GroupSignal.Proofs.Field.Quadratic
import GroupSignal.Proofs.Curve.SquareRoot
import GroupSignal.Proofs.Curve.Group
import GroupSignal.Proofs.Curve.Subgroup
import GroupSignal.Proofs.Groth16.Canonical
import GroupSignal.Proofs.Groth16.Packing
import GroupSignal.Proofs.Numeral.Canonical
import GroupSignal.Proofs.Field.Text
import GroupSignal.Proofs.Document.Reading
import GroupSignal.Proofs.Document.Records
import GroupSignal.Proofs.Hex
import GroupSignal.Proofs.Numeral.Bounded
import GroupSignal.Proofs.Json.Arranging
import GroupSignal.Proofs.Groth16.Text
import GroupSignal.Proofs.Document.Values
import GroupSignal.Proofs.Json.RoundTrip
import GroupSignal.Proofs.Cbor.Reading
import GroupSignal.Proofs.Cbor.RoundTrip
import GroupSignal.Proofs.Poseidon.Permutation
import GroupSignal.Proofs.Signal.Assignment
import GroupSignal.Proofs.Signal.Authentication
import GroupSignal.Proofs.Document.Refusals
import GroupSignal.Proofs.Merkle.LifeCycle
import GroupSignal.Proofs.Session.Arguments
import GroupSignal.Proofs.Session.Record
import GroupSignal.Proofs.Session.Handles
import GroupSignal.Proofs.Groth16.KeyText
import GroupSignal.Proofs.Session.Verification
import GroupSignal.Proofs.Merkle.Binding
import GroupSignal.Proofs.Command.Arguments
import GroupSignal.Proofs.Command.Verdict
import GroupSignal.Proofs.Command.Group
import GroupSignal.Poseidon.Texts
import GroupSignal.Proofs.Poseidon.Tables
import GroupSignal.Proofs.Merkle.Arrays
import GroupSignal.Proofs.Session.Guarded
import GroupSignal.Proofs.Session.Untimely
import GroupSignal.Proofs.Merkle.PathUpdate
import GroupSignal.Proofs.Poseidon.Schedule
import GroupSignal.Proofs.Merkle.Position
import GroupSignal.Proofs.Field.Bytes
import GroupSignal.Proofs.Field.Digest
import GroupSignal.Proofs.Document.Hexadecimal
import GroupSignal.Proofs.Document.Stopping
import GroupSignal.Proofs.Groth16.KeyReadBack
import GroupSignal.Proofs.Identity.Derivation
import GroupSignal.Proofs.Identity.Uniformity
import GroupSignal.Proofs.Field.HexDigits
import GroupSignal.Proofs.Signal.Judging
