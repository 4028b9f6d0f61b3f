import GroupSignal.Document.Record
import GroupSignal.InputError
import GroupSignal.Json.Event
import GroupSignal.Json.Writer
import GroupSignal.Merkle.Proof

/-!
# Configurations

What a prover and a verifier agree on: the depth of the tree that the circuit was made for, and
where the files of the circuit are. A configuration is valid if group trees can have its depth. The
depth may be left out of the document of a configuration and is then the usual one.

## Main definitions

* `Config`, `Config.create`: configurations, and the valid ones
* `Config.document`, `Config.read`: their documents
* `Config.ofText`: the valid configuration of a JSON text
-/

namespace GroupSignal

/-- The tree depth of the usual circuit. -/
def defaultDepth : UInt64 := 20

/-- The tree depth and the files of a circuit. -/
structure Config where
  treeDepth : UInt64
  zkeyPath : String
  graphPath : String
  verifyingKeyPath : String
  deriving DecidableEq, Repr

namespace Config

/-- The configuration itself, if it is valid. -/
def validate (config : Config) : Except ValueError Config :=
  let depth := config.treeDepth.toNat
  if minDepth ≤ depth ∧ depth ≤ maxDepth then .ok config else .error (.treeDepth depth)

/-- The valid configuration of a depth and three paths. -/
def create (treeDepth : UInt64) (zkeyPath graphPath verifyingKeyPath : String) :
    Except ValueError Config :=
  validate { treeDepth, zkeyPath, graphPath, verifyingKeyPath }

/-- The document of a configuration. -/
def document (config : Config) : Document :=
  .record [
    ("tree_depth", .natural config.treeDepth),
    ("zkey_path", .text config.zkeyPath),
    ("graph_path", .text config.graphPath),
    ("verifying_key_path", .text config.verifyingKeyPath)]

/-- The members of a configuration. -/
def members : Members [UInt64, String, String, String] :=
  .optional "tree_depth" defaultDepth Reader.natural
    (.required "zkey_path" Reader.text
      (.required "graph_path" Reader.text
        (.required "verifying_key_path" Reader.text .nil)))

/-- Reads a configuration, valid or not. -/
def read (fmt : Format) : Reader Config := do
  let (treeDepth, zkeyPath, graphPath, verifyingKeyPath, ()) ← members.read fmt
  return { treeDepth, zkeyPath, graphPath, verifyingKeyPath }

/-- The valid configuration of a JSON text. -/
def ofText (s : String) : Except InputError Config :=
  match Reader.runJson (read .json) (Json.events s) with
  | .error cause => .error (.malformedConfig cause)
  | .ok config => config.validate.mapError .value

end Config

end GroupSignal
