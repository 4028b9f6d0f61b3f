import GroupSignal.Command.Run
import GroupSignal.Proofs.Command.Arguments
import GroupSignal.Proofs.Json.RoundTrip
import GroupSignal.Proofs.Session.Verification

/-!
# The verdict that is printed

A request for a verdict is answered in one of three ways, and which one it is can be told from the
inputs. A signal is valid when it is for the given text and topic and the key of the configuration
accepts its proof for its four public values. It is invalid when it is for another text or topic,
whatever is known of the key, or when the key is there and rejects it. Everything else is an error
report: it says nothing about the signal.

## Main definitions

* `Response.valid`, `Response.invalid`: the two verdicts
* `Presents`: the configuration and the signal that a request is about
* `Judges`: the key of a configuration accepts a signal or rejects it
* `IsFor`: a signal is for the text and the topic that are given

## Main results

* `verify_run`: the steps to a verdict
* `respond_verify`: when a signal is valid, when it is invalid, and when neither is said
-/

namespace GroupSignal.Command

/-- The answer that a signal is valid, with the exit code of success. -/
def Response.valid : Response := { code := 0, output := "valid\n", errors := "" }

/-- The answer that a signal is invalid, with the exit code of a failure. -/
def Response.invalid : Response := { code := 1, output := "invalid\n", errors := "" }

/-- The report of a failure, with nothing on the standard output. -/
def Response.report (failure : Failure) : Response :=
  { code := 1, output := "", errors := failure.report }

/-- The inputs of a request for a verdict hold a configuration and a signal: there is a file of the
configuration, whose text is one, and the text on the standard input or of the file of the signal is
a signal. -/
structure Presents (world : World Id) (configPath : Option String) (proofPath : String)
    (config : Config) (signal : SignalProof) : Prop where
  config_eq : ∃ path s, configPath = some path ∧ (world.files.readText path).run = .ok s ∧
    Config.ofText s = .ok config
  signal_eq : ∃ s, (if isInput proofPath then Bytes.toText? world.input.run = some s
      else (world.files.readText proofPath).run = .ok s) ∧
    Reader.runJson (SignalProof.read .json) (Json.events s) = .ok signal

/-- The key of a configuration judges a proof for its four public values. -/
def Judges (world : World Id) (config : Config) (signal : SignalProof) (accepted : Bool) : Prop :=
  ∃ key, (Groth16.CircuitKey.load world.files config.verifyingKeyPath).run = .ok key ∧
    key.verify signal.proof [signal.values.root, signal.values.nullifierHash,
      signal.values.signalHash, signal.values.externalNullifier] = .ok accepted

/-- A signal is for the text and the topic that are given, if any: their hashes are its values. -/
structure IsFor (signal : SignalProof) (text topic : Option String) : Prop where
  text_eq : ∀ s ∈ text, hashToScalar (Bytes.ofText s) = signal.values.signalHash
  topic_eq : ∀ s ∈ topic, hashToScalar (Bytes.ofText s) = signal.values.externalNullifier

/-! ## Steps -/

/-- A chain of readings of a world that is at hand is a chain of steps. -/
theorem run_mk_bind {ε α β : Type} (x : Id (Except ε α)) (f : α → ExceptT ε Id β) :
    (ExceptT.mk x >>= f).run.run = x.run >>= fun a => (f a).run.run := by
  cases hx : x.run with
  | error e =>
    have hx : x = pure (.error e) := hx
    rw [hx]
    rfl
  | ok a =>
    have hx : x = pure (.ok a) := hx
    rw [hx]
    rfl

theorem loadConfig_run {files : FileSystem Id} {path : String} :
    (loadConfig files (some path)).run =
      ((files.readText path).run.mapError (Failure.configUnreadable path) >>= fun s =>
        (Config.ofText s).mapError Failure.configRefused) := by
  rw [loadConfig]
  cases hread : (files.readText path).run with
  | error cause =>
    have hread : files.readText path = pure (.error cause) := hread
    rw [hread]
    rfl
  | ok s =>
    have hread : files.readText path = pure (.ok s) := hread
    rw [hread]
    rfl

theorem Outcome.verdict_injective : Function.Injective verdict := by
  intro accepted accepted' h
  exact congrArg success h

theorem matchesHash_iff {text : Option String} {hash : Scalar} :
    matchesHash text hash = true ↔ ∀ s ∈ text, hashToScalar (Bytes.ofText s) = hash := by
  cases text <;> simp [matchesHash]

section Inputs

variable {world : World Id} {configPath : Option String} {proofPath : String}
  {text topic : Option String} {config : Config} {signal : SignalProof}

theorem loadConfig_eq_ok_iff {files : FileSystem Id} :
    (loadConfig files configPath).run = .ok config ↔
      ∃ path s, configPath = some path ∧ (files.readText path).run = .ok s ∧
        Config.ofText s = .ok config := by
  cases configPath with
  | none => exact iff_of_false nofun fun ⟨_, _, h, _⟩ => nomatch h
  | some path =>
    simp only [loadConfig_run, bind_eq_ok_iff, mapError_eq_ok_iff, Option.some.injEq]
    constructor
    · rintro ⟨s, hs, hconfig⟩
      exact ⟨path, s, rfl, hs, hconfig⟩
    · rintro ⟨_, s, rfl, hs, hconfig⟩
      exact ⟨s, hs, hconfig⟩

theorem readSignalText_eq_ok_iff {s : String} : (readSignalText world proofPath).run = .ok s ↔
    if isInput proofPath then Bytes.toText? world.input.run = some s
    else (world.files.readText proofPath).run = .ok s := by
  unfold readSignalText
  split
  · show (Bytes.toText? world.input.run).elim _ _ = _ ↔ _
    cases Bytes.toText? world.input.run <;> simp
  · exact mapError_eq_ok_iff

theorem presents_iff : Presents world configPath proofPath config signal ↔
    (loadConfig world.files configPath).run = .ok config ∧
      ((readSignalText world proofPath).run.bind parseSignal) = .ok signal := by
  have hsignal : ((readSignalText world proofPath).run.bind parseSignal) = .ok signal ↔
      ∃ s, (if isInput proofPath then Bytes.toText? world.input.run = some s
          else (world.files.readText proofPath).run = .ok s) ∧
        Reader.runJson (SignalProof.read .json) (Json.events s) = .ok signal := by
    refine bind_eq_ok_iff.trans (exists_congr fun s => ?_)
    rw [readSignalText_eq_ok_iff, parseSignal, mapError_eq_ok_iff]
  rw [loadConfig_eq_ok_iff, hsignal]
  exact ⟨fun ⟨h, h'⟩ => ⟨h, h'⟩, fun ⟨h, h'⟩ => ⟨h, h'⟩⟩

/-- The two inputs of a request are one configuration and one signal at most. -/
theorem Presents.unique {config' : Config} {signal' : SignalProof}
    (h : Presents world configPath proofPath config signal)
    (h' : Presents world configPath proofPath config' signal') :
    config = config' ∧ signal = signal' := by
  obtain ⟨hconfig, hsignal⟩ := presents_iff.mp h
  obtain ⟨hconfig', hsignal'⟩ := presents_iff.mp h'
  exact ⟨Except.ok.inj (hconfig.symm.trans hconfig'), Except.ok.inj (hsignal.symm.trans hsignal')⟩

end Inputs

section Verdict

variable {world : World Id} {configPath : Option String} {proofPath : String}
  {text topic : Option String} {config : Config} {signal : SignalProof}

/-- **The steps to a verdict.** Whether the signal is for the text and the topic comes before the
key. -/
theorem verify_run : (verify world configPath proofPath text topic).run = (do
    let config ← (loadConfig world.files configPath).run
    let signal ← (readSignalText world proofPath).run.bind parseSignal
    if matchesHash text signal.values.signalHash &&
        matchesHash topic signal.values.externalNullifier then
      let key ← (Groth16.CircuitKey.load world.files config.verifyingKeyPath).run.mapError
        Failure.keyRefused
      (signal.verify key.verify).mapError Failure.refused >>= fun accepted =>
        .ok (.verdict accepted)
    else .ok (.verdict false)) := by
  refine (run_mk_bind _ _).trans (congrArg _ (funext fun config => ?_))
  refine (run_mk_bind _ _).trans (congrArg _ (funext fun signal => ?_))
  cases matchesHash text signal.values.signalHash &&
    matchesHash topic signal.values.externalNullifier with
  | false => rfl
  | true =>
    refine (run_mk_bind _ _).trans (congrArg _ (funext fun key => ?_))
    refine (run_mk_bind _ _).trans ?_
    rfl

theorem judges_iff {accepted : Bool} : Judges world config signal accepted ↔
    ((Groth16.CircuitKey.load world.files config.verifyingKeyPath).run.mapError Failure.keyRefused
      >>= fun key => (signal.verify key.verify).mapError Failure.refused) = .ok accepted := by
  simp only [bind_eq_ok_iff, mapError_eq_ok_iff, SignalProof.verify, verifySignal]
  rfl

theorem isFor_iff : IsFor signal text topic ↔
    (matchesHash text signal.values.signalHash &&
      matchesHash topic signal.values.externalNullifier) = true := by
  rw [Bool.and_eq_true, matchesHash_iff, matchesHash_iff]
  exact ⟨fun ⟨h, h'⟩ => ⟨h, h'⟩, fun ⟨h, h'⟩ => ⟨h, h'⟩⟩

/-- **When there is a verdict:** that of the key on a signal that is for the text and the topic, and
a rejection of any other signal. -/
theorem verify_eq_ok_iff {outcome : Outcome} :
    (verify world configPath proofPath text topic).run = .ok outcome ↔
      ∃ config signal, Presents world configPath proofPath config signal ∧
        (IsFor signal text topic ∧ (∃ accepted, Judges world config signal accepted ∧
            outcome = .verdict accepted) ∨
          ¬IsFor signal text topic ∧ outcome = .verdict false) := by
  rw [verify_run]
  refine bind_eq_ok_iff.trans (exists_congr fun config => ?_)
  rw [bind_eq_ok_iff, ← exists_and_left]
  refine exists_congr fun signal => ?_
  rw [presents_iff, isFor_iff, and_assoc]
  refine and_congr_right' (and_congr_right' ?_)
  cases matchesHash text signal.values.signalHash &&
    matchesHash topic signal.values.externalNullifier with
  | false => simp [eq_comm]
  | true =>
    rw [if_pos rfl, ← bind_assoc, bind_eq_ok_iff]
    simp [judges_iff, eq_comm]

theorem verify_eq_valid_iff :
    (verify world configPath proofPath text topic).run = .ok (.verdict true) ↔
      ∃ config signal, Presents world configPath proofPath config signal ∧
        IsFor signal text topic ∧ Judges world config signal true := by
  refine verify_eq_ok_iff.trans (exists_congr fun config => exists_congr fun signal =>
    and_congr_right' ?_)
  constructor
  · rintro (⟨hfor, accepted, hjudges, heq⟩ | ⟨-, heq⟩)
    · obtain rfl := Outcome.verdict_injective heq
      exact ⟨hfor, hjudges⟩
    · cases Outcome.verdict_injective heq
  · rintro ⟨hfor, hjudges⟩
    exact .inl ⟨hfor, true, hjudges, rfl⟩

theorem verify_eq_invalid_iff :
    (verify world configPath proofPath text topic).run = .ok (.verdict false) ↔
      ∃ config signal, Presents world configPath proofPath config signal ∧
        (¬IsFor signal text topic ∨ Judges world config signal false) := by
  refine verify_eq_ok_iff.trans (exists_congr fun config => exists_congr fun signal =>
    and_congr_right' ?_)
  constructor
  · rintro (⟨-, accepted, hjudges, heq⟩ | ⟨hfor, -⟩)
    · obtain rfl := Outcome.verdict_injective heq
      exact .inr hjudges
    · exact .inl hfor
  · intro h
    by_cases hfor : IsFor signal text topic
    · exact .inl ⟨hfor, false, h.resolve_left (not_not.mpr hfor), rfl⟩
    · exact .inr ⟨hfor, rfl⟩

end Verdict

/-! ## Responses -/

section Responses

variable (world : World Id) {around : Surroundings} {args : List String}
  {configPath : Option String} {proofPath : String} {text topic : Option String}

/-- What the program leaves behind for a verdict. -/
def Response.verdict (accepted : Bool) : Response := if accepted then .valid else .invalid

theorem Response.verdict_injective : Function.Injective verdict := by
  intro accepted accepted' h
  cases accepted <;> cases accepted' <;> revert h <;> decide

theorem Response.report_ne_verdict (failure : Failure) (accepted : Bool) :
    report failure ≠ verdict accepted := by
  intro h
  have houtput : "" = (verdict accepted).output := congrArg output h
  cases accepted <;> revert houtput <;> decide

/-- The answer to a request for a verdict is a verdict or the report of a failure. -/
theorem respond_eq
    (h : Request.ofArguments around args = .ok (.verify configPath proofPath text topic)) :
    (∃ failure, (verify world configPath proofPath text topic).run = .error failure ∧
      (respond world around args).run = .report failure) ∨
    ∃ accepted, (verify world configPath proofPath text topic).run = .ok (.verdict accepted) ∧
      (respond world around args).run = .verdict accepted := by
  rw [respond, h]
  dsimp only
  rw [Request.run]
  cases hrun : (verify world configPath proofPath text topic).run with
  | error failure =>
    have hrun : verify world configPath proofPath text topic = pure (.error failure) := hrun
    rw [hrun]
    exact .inl ⟨failure, rfl, rfl⟩
  | ok outcome =>
    obtain ⟨accepted, rfl⟩ : ∃ accepted, outcome = .verdict accepted := by
      obtain ⟨_, _, -, ⟨-, accepted, -, rfl⟩ | ⟨-, rfl⟩⟩ := verify_eq_ok_iff.mp hrun
      · exact ⟨accepted, rfl⟩
      · exact ⟨false, rfl⟩
    have hrun : verify world configPath proofPath text topic = pure (.ok (.verdict accepted)) :=
      hrun
    rw [hrun]
    refine .inr ⟨accepted, rfl, ?_⟩
    cases accepted <;> rfl

theorem respond_eq_verdict_iff
    (h : Request.ofArguments around args = .ok (.verify configPath proofPath text topic))
    (accepted : Bool) : (respond world around args).run = .verdict accepted ↔
      (verify world configPath proofPath text topic).run = .ok (.verdict accepted) := by
  obtain ⟨failure, hrun, hreport⟩ | ⟨given, hrun, hgiven⟩ := respond_eq world h
  · rw [hrun, hreport]
    exact iff_of_false (Response.report_ne_verdict failure accepted) nofun
  · rw [hrun, hgiven, Response.verdict_injective.eq_iff, Except.ok.injEq,
      Outcome.verdict_injective.eq_iff]

/-- **Verdicts and error reports.** The program says that a signal is valid, with success, exactly
when there is a configuration and a signal, the signal is for the text and the topic that are given,
and the key of the configuration accepts its proof for its four values. It says that it is invalid,
without success, exactly when there is a configuration and a signal and either the signal is not
for the text and the topic, or the key rejects its proof. Anything else is an error report. -/
theorem respond_verify
    (h : Request.ofArguments around args = .ok (.verify configPath proofPath text topic)) :
    let response := (respond world around args).run
    (response = .valid ↔ ∃ config signal, Presents world configPath proofPath config signal ∧
      IsFor signal text topic ∧ Judges world config signal true) ∧
    (response = .invalid ↔ ∃ config signal, Presents world configPath proofPath config signal ∧
      (¬IsFor signal text topic ∨ Judges world config signal false)) ∧
    ((∃ failure, response = .report failure) ↔ response ≠ .valid ∧ response ≠ .invalid) := by
  refine ⟨(respond_eq_verdict_iff world h true).trans verify_eq_valid_iff,
    (respond_eq_verdict_iff world h false).trans verify_eq_invalid_iff, ?_⟩
  constructor
  · rintro ⟨failure, hreport⟩
    rw [hreport]
    exact ⟨Response.report_ne_verdict failure true, Response.report_ne_verdict failure false⟩
  · rintro ⟨hvalid, hinvalid⟩
    obtain ⟨failure, -, hreport⟩ | ⟨accepted, -, hverdict⟩ := respond_eq world h
    · exact ⟨failure, hreport⟩
    · cases accepted
      · exact absurd hverdict hinvalid
      · exact absurd hverdict hvalid

end Responses

/-- A configuration for a circuit of a depth. -/
def sampleConfig (depth : UInt64) : Config := ⟨depth, "zkey", "graph", "key"⟩

/-- A signal with the sample proof that is not for the text `hello`. -/
def sampleSignal : SignalProof where
  values :=
    { root := 1
      nullifierHash := 2
      signalHash := hashToScalar (Bytes.ofText "hello") + 1
      externalNullifier := 4 }
  proof := Groth16.Proof.sample

/-- A world with a file of a configuration, where the other files hold a key, and with these bytes
on the standard input. -/
def sampleWorld (config : Config) (input : Bytes) : World Id where
  files :=
    { read := fun path =>
        if path = "config.json" then .ok (Bytes.ofText (Json.compact config.document))
        else .ok (Bytes.ofText Session.sampleKey.key.toText) }
  input := input
  loader := .none

section Sample

variable {config : Config} {input : Bytes}

theorem readText_sampleWorld : ((sampleWorld config input).files.readText "config.json").run =
    .ok (Json.compact config.document) := by
  rw [FileSystem.readText_run]
  refine bind_eq_ok_iff.mpr ⟨_, rfl, ?_⟩
  rw [Bytes.toText?_ofText]
  rfl

theorem loadConfig_sampleWorld (hmin : minDepth ≤ config.treeDepth.toNat)
    (hmax : config.treeDepth.toNat ≤ maxDepth) :
    (loadConfig (sampleWorld config input).files (some "config.json")).run = .ok config :=
  loadConfig_eq_ok_iff.mpr
    ⟨_, _, rfl, readText_sampleWorld, Config.ofText_compact hmin hmax⟩

theorem presents_sampleWorld (hmin : minDepth ≤ config.treeDepth.toNat)
    (hmax : config.treeDepth.toNat ≤ maxDepth)
    (hinput : Bytes.toText? input = some (Json.compact (sampleSignal.document .json))) :
    Presents (sampleWorld config input) (some "config.json") "-" config sampleSignal where
  config_eq := loadConfig_eq_ok_iff.mp (loadConfig_sampleWorld hmin hmax)
  signal_eq := by
    refine ⟨_, ?_, (SignalProof.takes_read Groth16.Proof.valid_sample).readBack⟩
    have hstandard : isInput "-" = true := by decide
    rw [if_pos hstandard]
    exact hinput

end Sample

/-- The verdict on a signal from the standard input: that of the key where no text is given, and a
rejection for a text that the signal is not for. -/
theorem respond_verify_sample :
    let config := sampleConfig defaultDepth
    let world := sampleWorld config (Bytes.ofText (Json.compact (sampleSignal.document .json)))
    let plain := commandLine "config.json" "verify" [(.proof, "-")]
    let args := commandLine "config.json" "verify" [(.proof, "-"), (.signal, "hello")]
    Request.ofArguments {} plain = .ok (.verify (some "config.json") "-" none none) ∧
      ((respond world {} plain).run = .valid ↔ Judges world config sampleSignal true) ∧
      Request.ofArguments {} args = .ok (.verify (some "config.json") "-" (some "hello") none) ∧
      (respond world {} args).run = .invalid := by
  intro config world plain args
  have hpresents : Presents world (some "config.json") "-" config sampleSignal :=
    presents_sampleWorld (by decide) (by decide) (Bytes.toText?_ofText _)
  have hplain := @Request.ofArguments_verify "config.json" "-" (by decide) (by decide) none none
  have htext := @Request.ofArguments_verify "config.json" "-" (by decide) (by decide)
    (some "hello") none
  have hother : ¬IsFor sampleSignal (some "hello") none := by
    intro h
    have hone : (1 : Scalar) = 0 := left_eq_add.mp (h.text_eq "hello" rfl)
    exact absurd hone (by decide)
  obtain ⟨hvalid, -, -⟩ := respond_verify world hplain
  obtain ⟨-, hinvalid, -⟩ := respond_verify world htext
  refine ⟨hplain, hvalid.trans ?_, htext, hinvalid.mpr ?_⟩
  · constructor
    · rintro ⟨config, signal, hother, -, hjudges⟩
      obtain ⟨rfl, rfl⟩ := hother.unique hpresents
      exact hjudges
    · intro hjudges
      exact ⟨_, _, hpresents, ⟨nofun, nofun⟩, hjudges⟩
  · exact ⟨_, _, hpresents, .inl hother⟩

end GroupSignal.Command
