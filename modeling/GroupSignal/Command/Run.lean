import GroupSignal.Command.Arguments
import GroupSignal.Config
import GroupSignal.Groth16.KeyDocument
import GroupSignal.Document.Values
import GroupSignal.Signal.Proof

/-!
# Running a request

What the program does with a request: what it prints, and whether it succeeds. A signal that does
not verify is a printed verdict and no failure, but the exit code tells it from a good one. The
world around the program is a parameter, so that a request can be run on any files and any input.

## Main definitions

* `World`: what the program needs of the world
* `Failure`, `Failure.message`: why a request fails
* `Group.tree`: the tree of a group
* `Request.run`: runs a request
* `respond`: what the program writes for its arguments, and its exit code
-/

namespace GroupSignal.Command

/-- What the program needs of the world. -/
structure World (m : Type → Type) where
  files : FileSystem m
  input : m Bytes
  /-- How the files of a circuit become a prover. -/
  loader : CircuitLoader

/-! ## Failures -/

/-- Why a request fails. -/
inductive Failure where
  /-- A request needs a configuration and there is none. -/
  | noConfig
  | configUnreadable (path : String) (cause : FileError)
  | configRefused (cause : InputError)
  /-- The signal cannot be read, from the standard input where there is no path. -/
  | signalUnreadable (path : Option String) (cause : FileError)
  | signalRefused (cause : ReadError)
  | keyRefused (cause : ProofSystemError)
  | materialRefused (cause : ProofSystemError)
  /-- The group that a signal is proven for lacks the one who signals. -/
  | notMember
  | refused (cause : SignalError)
  deriving DecidableEq, Repr

namespace Failure

/-- The wording of a failure, without its cause. -/
def message : Failure → String
  | noConfig => "this command needs --config or " ++ Surroundings.configVariable
  | configUnreadable path _ => "while reading config " ++ path
  | configRefused _ => "while parsing config"
  | signalUnreadable (some path) _ => "while reading proof " ++ path
  | signalUnreadable none _ => "while reading proof from stdin"
  | signalRefused _ => "while parsing proof"
  | keyRefused _ => "while loading verifying key"
  | materialRefused _ => "while loading proving material"
  | notMember => "the identity is not a member of the group"
  | refused cause => cause.message

/-- The wording of the cause of a failure, if it has one. -/
def cause? : Failure → Option String
  | configUnreadable _ cause => some cause.message
  | configRefused cause => some cause.message
  | signalUnreadable _ cause => some cause.message
  | signalRefused cause => cause.message?
  | keyRefused cause => some cause.message
  | materialRefused cause => some cause.message
  | noConfig => none
  | notMember => none
  | refused _ => none

/-- The report of a failure. -/
def report (failure : Failure) : String :=
  let cause := match failure.cause? with
    | some cause => "\n\nCaused by:\n    " ++ cause
    | none => ""
  "Error: " ++ failure.message ++ cause ++ "\n"

end Failure

/-! ## Groups -/

namespace Group

/-- The depth of the tree of a group: its own, else the one of the configuration, else the usual
one. -/
def resolvedDepth (group : Group) (config : Option Config) : Nat :=
  group.depth.getD ((config.map Config.treeDepth).getD defaultDepth).toNat

/-- The tree of a group. -/
def tree (group : Group) (config : Option Config) : Except TreeError MerkleTree := do
  (← MerkleTree.create (group.resolvedDepth config)).insertAll group.members

/-- The index of a member. -/
def index? (group : Group) (commitment : Scalar) : Option Nat := group.members.idxOf? commitment

end Group

/-! ## Inputs -/

section

variable {m : Type → Type} [Monad m]

/-- The configuration at a path. -/
def loadConfig (files : FileSystem m) (path : Option String) : m (Except Failure Config) := do
  match path with
  | none => return .error .noConfig
  | some path =>
    match ← files.readText path with
    | .error cause => return .error (.configUnreadable path cause)
    | .ok s => return (Config.ofText s).mapError .configRefused

/-- Whether a path stands for the standard input: a hyphen, whatever steps that stay in place
follow. -/
def isInput (path : String) : Bool :=
  match FileSystem.names path with
  | "-" :: names => names.all fun name => name = "" || name = "."
  | _ => false

/-- The text at a path, or on the standard input. -/
def readSignalText (world : World m) (path : String) : m (Except Failure String) := do
  if isInput path then
    return (Bytes.toText? (← world.input)).elim (.error (.signalUnreadable none .notText)) .ok
  else
    return (← world.files.readText path).mapError (.signalUnreadable (some path))

/-- The signal of a text. -/
def parseSignal (s : String) : Except Failure SignalProof :=
  (Reader.runJson (SignalProof.read .json) (Json.events s)).mapError .signalRefused

/-! ## Requests -/

/-- What a request comes to. -/
structure Outcome where
  /-- What is printed, on a line. -/
  line : String
  /-- Whether the exit code is the one of success. -/
  success : Bool := true
  deriving DecidableEq

/-- A verdict on a signal. -/
def Outcome.verdict (accepted : Bool) : Outcome :=
  { line := if accepted then "valid" else "invalid", success := accepted }

/-- Whether a scalar is the hash of a text, if there is one. -/
def matchesHash (text : Option String) (hash : Scalar) : Bool :=
  text.all fun s => hashToScalar (Bytes.ofText s) = hash

/-- The identity of a seed. -/
def identityOf (seed : String) : Except Failure Identity :=
  (Identity.ofSeed (Bytes.ofText seed)).mapError .refused

/-- The path on which a member proves, in the tree that holds the group. -/
def memberPath (group : Group) (config : Config) (identity : Identity) :
    Except Failure MerkleProof := do
  let tree ← (group.tree (some config)).mapError (.refused ∘ .tree)
  match group.index? identity.commitment with
  | none => throw .notMember
  | some index => (tree.proof (UInt64.ofNat index)).mapError (.refused ∘ .tree)

/-- Proves the signal of a member. -/
def prove (world : World m) (configPath : Option String) (seed : String) (group : Group)
    (topic signal : String) : m (Except Failure Outcome) := ExceptT.run do
  let config ← ExceptT.mk (loadConfig world.files configPath)
  let identity ← ExceptT.mk (pure (identityOf seed))
  let path ← ExceptT.mk (pure (memberPath group config identity))
  let prover ← ExceptT.mk (return (← world.loader.ofFiles world.files config.zkeyPath
    config.graphPath).mapError .materialRefused)
  let proof ← ExceptT.mk (pure ((SignalProof.generateFor identity (Bytes.ofText topic)
    (Bytes.ofText signal) path prover).mapError .refused))
  return { line := Json.indented (proof.document .json) }

/-- Judges a signal. Whether it is for the given text and topic comes before the key. -/
def verify (world : World m) (configPath : Option String) (proofPath : String)
    (text topic : Option String) : m (Except Failure Outcome) := ExceptT.run do
  let config ← ExceptT.mk (loadConfig world.files configPath)
  let signal ← ExceptT.mk (return (← readSignalText world proofPath).bind parseSignal)
  if !(matchesHash text signal.values.signalHash &&
      matchesHash topic signal.values.externalNullifier) then
    return .verdict false
  let key ← ExceptT.mk (return (← Groth16.CircuitKey.load world.files
    config.verifyingKeyPath).mapError .keyRefused)
  let accepted ← ExceptT.mk (pure ((signal.verify key.verify).mapError .refused))
  return .verdict accepted

namespace Request

/-- Runs a request. -/
def run (world : World m) : Request → m (Except Failure Outcome)
  | commitment seed => return (identityOf seed).map fun identity =>
      { line := Scalar.toText identity.commitment }
  | nullifierHash seed topic => return (identityOf seed).map fun identity =>
      { line := Scalar.toText (identity.nullifierHash (hashToScalar (Bytes.ofText topic))) }
  | root group => return ((group.tree none).mapError (.refused ∘ .tree)).map fun tree =>
      { line := Scalar.toText tree.root }
  | .prove config seed group topic signal => Command.prove world config seed group topic signal
  | .verify config proof signal topic => Command.verify world config proof signal topic

end Request

/-! ## The program -/

/-- What the program leaves behind. -/
structure Response where
  code : UInt32
  /-- What it writes on the standard output. -/
  output : String
  /-- What it writes on the standard error output. -/
  errors : String
  deriving DecidableEq

/-- The line that tells the version of the program. -/
def versionLine : String := "semaphore 0.1.0\n"

/-- How the program is used. -/
def usage : String :=
  String.join (([
    "Usage: semaphore [--config <CONFIG>] <COMMAND>",
    "",
    "Commands:",
    "  commitment --seed <SEED>",
    "  nullifier-hash --seed <SEED> --external-nullifier <TOPIC>",
    "  root [--depth <DEPTH>] [--member <MEMBERS>]...",
    "  prove --seed <SEED> [--depth <DEPTH>] [--member <MEMBERS>]...",
    "        --external-nullifier <TOPIC> --signal <SIGNAL>",
    "  verify [--proof <PROOF>] [--signal <SIGNAL>] [--external-nullifier <TOPIC>]"]).map
    (· ++ "\n"))

/-- Does what the arguments ask for. -/
def respond (world : World m) (around : Surroundings) (args : List String) : m Response := do
  match Request.ofArguments around args with
  | .error .version => return { code := 0, output := versionLine, errors := "" }
  | .error .help => return { code := 0, output := usage, errors := "" }
  | .error .misuse => return { code := 2, output := "", errors := usage }
  | .ok request =>
    match ← request.run world with
    | .error failure => return { code := 1, output := "", errors := failure.report }
    | .ok outcome =>
      return { code := if outcome.success then 0 else 1, output := outcome.line ++ "\n"
               errors := "" }

end

end GroupSignal.Command
