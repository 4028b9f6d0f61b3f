import GroupSignal.Field.Scalar

/-!
# Command lines

What the arguments of the program ask for. A command line is the name of a command with options on
either side: in front of it only the configuration, behind it the options of the command and the
configuration again, which then wins. The value of an option follows it, as an argument of its own
that does not look like an option or behind an equals sign. Only members may be given several times.

Two options can also come from the environment, where the command line does not give them.

## Main definitions

* `Parameter`, `Given`: the options, and the values that are given for them
* `Group`, `Request`: what a command works on, and what the program is asked to do
* `Request.ofArguments`: the request of a command line
* `NoRequest`: why a command line names no request
-/

namespace GroupSignal.Command

/-- The options. -/
inductive Parameter where
  | config
  | seed
  | depth
  | member
  | topic
  | signal
  | proof
  deriving DecidableEq, Repr

namespace Parameter

/-- The name of an option. -/
def name : Parameter → String
  | config => "config"
  | seed => "seed"
  | depth => "depth"
  | member => "member"
  | topic => "external-nullifier"
  | signal => "signal"
  | proof => "proof"

end Parameter

/-- The commands. -/
inductive Name where
  | commitment
  | nullifierHash
  | root
  | prove
  | verify
  deriving DecidableEq, Repr

namespace Name

/-- The command of a name. -/
def ofText? : String → Option Name
  | "commitment" => some commitment
  | "nullifier-hash" => some nullifierHash
  | "root" => some root
  | "prove" => some prove
  | "verify" => some verify
  | _ => none

/-- The options that a command takes. -/
def parameters : Name → List Parameter
  | commitment => [.config, .seed]
  | nullifierHash => [.config, .seed, .topic]
  | root => [.config, .depth, .member]
  | prove => [.config, .seed, .depth, .member, .topic, .signal]
  | verify => [.config, .proof, .signal, .topic]

end Name

/-! ## Values of options -/

/-- The values that are given for options. -/
structure Given where
  config : Option String := none
  seed : Option String := none
  depth : Option Nat := none
  members : List Scalar := []
  topic : Option String := none
  signal : Option String := none
  proof : Option String := none
  deriving DecidableEq

/-- Fills a place that is still free. -/
def fill {α : Type} (place : Option α) (value : Option α) : Option (Option α) :=
  if place.isSome then none else value.map some

/-- A path, which is never empty. -/
def path? (s : String) : Option String := if s = "" then none else some s

/-- A depth, which is a numeral that fits 64 bits. -/
def depth? (s : String) : Option Nat := (Numeral.readBounded 10 UInt64.size s.toList).toOption

/-- Members, with commas between them. -/
def members? (s : String) : Option (List Scalar) :=
  (s.toList.splitOn ',').mapM fun member => (Scalar.ofText (String.ofList member)).toOption

namespace Given

/-- Gives one more value, if it is one that the option can have and the option is still free. -/
def put (given : Given) (p : Parameter) (s : String) : Option Given :=
  match p with
  | .config => (fill given.config (path? s)).map fun v => { given with config := v }
  | .seed => (fill given.seed (some s)).map fun v => { given with seed := v }
  | .depth => (fill given.depth (depth? s)).map fun v => { given with depth := v }
  | .member => (members? s).map fun v => { given with members := given.members ++ v }
  | .topic => (fill given.topic (some s)).map fun v => { given with topic := v }
  | .signal => (fill given.signal (some s)).map fun v => { given with signal := v }
  | .proof => (fill given.proof (path? s)).map fun v => { given with proof := v }

end Given

/-! ## Arguments -/

/-- Why a command line names no request. -/
inductive NoRequest where
  | help
  | version
  /-- It is not one. -/
  | misuse
  deriving DecidableEq, Repr

/-- What an argument looks like. -/
inductive Shape where
  /-- A plain word, such as the name of a command or a value. -/
  | word
  /-- The mark behind which everything is a word. -/
  | endOfOptions
  /-- An option by its name, perhaps with its value attached. -/
  | long (name : String) (value : Option String)
  /-- An option by the first letter of its name. -/
  | short (letter : Char)
  deriving DecidableEq, Repr

/-- What an argument looks like. -/
def shape (s : String) : Shape :=
  match s.toList with
  | ['-', '-'] => .endOfOptions
  | '-' :: '-' :: cs =>
    let name := cs.takeWhile (· ≠ '=')
    .long (String.ofList name)
      (if name.length < cs.length then some (String.ofList (cs.drop (name.length + 1))) else none)
  | '-' :: c :: _ => .short c
  | _ => .word

/-- The values that are given by the options at the head of some arguments, and the arguments behind
them. Where `program` is set, the options are those of the program and not of a command.

A value that is an argument of its own is looked at when the next option is read. So there are no
values where the last option has one that it cannot have, and what is behind the options may be read
before that is reported. -/
def readOptions (program : Bool) (known : List Parameter) :
    List String → Option Given → Except NoRequest (Option Given × List String)
  | [], given => .ok (given, [])
  | arg :: rest, given =>
    match shape arg, given with
    | .word, given => .ok (given, arg :: rest)
    | .endOfOptions, given => .ok (given, arg :: rest)
    | _, none => .error .misuse
    | .short 'h', _ => .error .help
    | .short 'V', _ => .error (if program then .version else .misuse)
    | .short _, _ => .error .misuse
    | .long "help" none, _ => .error .help
    | .long "version" none, _ => .error (if program then .version else .misuse)
    | .long name value, some given =>
      match known.find? (·.name = name) with
      | none => .error .misuse
      | some p =>
        match value, rest with
        | some v, rest =>
          match given.put p v with
          | some given => readOptions program known rest (some given)
          | none => .error .misuse
        | none, v :: rest =>
          match shape v with
          | .word => readOptions program known rest (given.put p v)
          | _ => .error .misuse
        | none, [] => .error .misuse

/-- The values that are given by arguments which are all options. -/
def readAllOptions (known : List Parameter) (args : List String) : Except NoRequest Given := do
  match ← readOptions false known args (some {}) with
  | (some given, []) => return given
  | (some given, ["--"]) => return given
  | _ => throw .misuse

/-! ## Requests -/

/-- A group as a command line describes it. -/
structure Group where
  /-- The depth of the tree, unless it is left to the configuration. -/
  depth : Option Nat
  /-- The commitments of the members, in the order of insertion. -/
  members : List Scalar
  deriving DecidableEq

/-- What the program is asked to do. -/
inductive Request where
  | commitment (seed : String)
  | nullifierHash (seed topic : String)
  | root (group : Group)
  /-- To print a signal of a member. -/
  | prove (config : Option String) (seed : String) (group : Group) (topic signal : String)
  /-- To judge a signal, which must be for the given text and topic if there are some. -/
  | verify (config : Option String) (proof : String) (signal topic : Option String)
  deriving DecidableEq

/-- The values that the environment has for options. -/
structure Surroundings where
  config : Option String := none
  seed : Option String := none

namespace Surroundings

/-- The name of the variable that holds the path of the configuration. -/
def configVariable : String := "SEMAPHORE_CONFIG"

/-- The name of the variable that holds the seed. -/
def seedVariable : String := "SEMAPHORE_SEED"

/-- Completes what is given by what is around. A value from around must be one that the option can
have, but it matters only for options that are known and still free. -/
def complete (around : Surroundings) (known : List Parameter) (given : Given) :
    Except NoRequest Given := do
  let add (p : Parameter) (isFree : Bool) (value : Option String) (given : Given) :=
    match value with
    | some v =>
      if p ∈ known ∧ isFree then (given.put p v).elim (.error .misuse) .ok else .ok given
    | none => .ok given
  add .seed given.seed.isNone around.seed (← add .config given.config.isNone around.config given)

end Surroundings

namespace Request

/-- The request of a command with the values that are given for its options. -/
def ofGiven? (name : Name) (given : Given) : Option Request :=
  let group : Group := { depth := given.depth, members := given.members }
  match name with
  | .commitment => return commitment (← given.seed)
  | .nullifierHash => return nullifierHash (← given.seed) (← given.topic)
  | .root => return root group
  | .prove => return prove given.config (← given.seed) group (← given.topic) (← given.signal)
  | .verify => return verify given.config (given.proof.getD "-") given.signal given.topic

/-- What asks for the usage of the program, or of the one command that is named behind. -/
def helpOn : (names : List String) → NoRequest
  | [] => .help
  | [name] => if name = "help" ∨ (Name.ofText? name).isSome then .help else .misuse
  | _ => .misuse

/-- The request of a command line. -/
def ofArguments (around : Surroundings) (args : List String) : Except NoRequest Request := do
  let (outer?, rest) ← readOptions true [.config] args (some {})
  let (name, rest) ← match rest with
    | "help" :: names => throw (helpOn names)
    | word :: rest => match Name.ofText? word with
      | some name => pure (name, rest)
      | none => throw .misuse
    | [] => throw .misuse
  let inner ← readAllOptions name.parameters rest
  let outer ← outer?.elim (throw .misuse) pure
  let outerValues ← around.complete [.config] outer
  let innerValues ← around.complete name.parameters inner
  let config := inner.config <|> outerValues.config
  match ofGiven? name { innerValues with config } with
  | some request => return request
  | none => throw .misuse

end Request

end GroupSignal.Command
