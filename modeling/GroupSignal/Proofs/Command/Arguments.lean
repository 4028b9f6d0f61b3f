import GroupSignal.Command.Arguments
import GroupSignal.Proofs.Fallible
import Mathlib.Data.List.TakeWhile

/-!
# Command lines with attached values

A value behind an equals sign is taken as it is, whatever it looks like. So every request for a
verdict has a command line, for any texts: the configuration in front of the command, and the other
values behind it. Two commands take a group, and the same values describe the same one to both.

## Main definitions

* `Parameter.attached`: an option with its value attached
* `commandLine`: a command between its configuration and its options

## Main results

* `readOptions_attached`: an option with its value attached gives that value
* `Request.ofArguments_commandLine`: the request of a command with such options
* `Request.ofArguments_verify`: the request for a verdict
* `Request.ofArguments_group`: the requests about a group
-/

namespace GroupSignal.Command

namespace Parameter

theorem name_injective : Function.Injective name := by
  intro p q h
  cases p <;> cases q <;> revert h <;> decide

/-- An option with its value attached. -/
def attached (p : Parameter) (value : String) : String := "--" ++ p.name ++ "=" ++ value

/-- No name of an option has an equals sign, so the value begins behind the first one. -/
theorem shape_attached (p : Parameter) (value : String) :
    shape (p.attached value) = .long p.name (some value) := by
  have hlist : (p.attached value).toList =
      '-' :: '-' :: (p.name.toList ++ '=' :: value.toList) := by
    rw [attached, String.toList_append, String.toList_append, String.toList_append,
      List.append_assoc, List.append_assoc]
    rfl
  have hplain : '=' ∉ p.name.toList := by
    cases p <;> decide
  have htaken : (p.name.toList ++ '=' :: value.toList).takeWhile (· ≠ '=') = p.name.toList := by
    rw [List.takeWhile_append_of_pos fun c hc => decide_eq_true (ne_of_mem_of_not_mem hc hplain),
      List.takeWhile_cons_of_neg (by simp), List.append_nil]
  have hdropped : (p.name.toList ++ '=' :: value.toList).drop (p.name.toList.length + 1) =
      value.toList := by
    rw [List.drop_append, List.drop_eq_nil_of_le (Nat.le_succ _)]
    simp
  have hlt : p.name.toList.length < (p.name.toList ++ '=' :: value.toList).length := by simp
  obtain ⟨c, cs, hcs⟩ : ∃ c cs, p.name.toList ++ '=' :: value.toList = c :: cs :=
    List.exists_cons_of_ne_nil (by simp)
  rw [hcs] at hlist htaken hdropped hlt
  simp only [shape, hlist, htaken, hdropped, if_pos hlt, String.ofList_toList]

theorem find?_name {known : List Parameter} {p : Parameter} (h : p ∈ known) :
    known.find? (·.name = p.name) = some p := by
  cases hfound : known.find? (·.name = p.name) with
  | none => simpa using List.find?_eq_none.mp hfound p h
  | some q =>
    have hname := List.find?_some hfound
    rw [decide_eq_true_eq] at hname
    rw [name_injective hname]

end Parameter

/-! ## Options -/

section Options

variable {program : Bool} {known : List Parameter} {p : Parameter} {given : Given}
  {rest : List String}

/-- **An option with its value attached** gives that value, if the option can have it. -/
theorem readOptions_attached (hp : p ∈ known) (value : String) :
    readOptions program known (p.attached value :: rest) (some given) =
      match given.put p value with
      | some given => readOptions program known rest (some given)
      | none => .error .misuse := by
  have hread := readOptions.eq_10 program known _ rest p.name (some value) given nofun nofun
    (p.shape_attached value)
  rw [Parameter.find?_name hp] at hread
  exact hread

theorem readOptions_word {word : String} (h : shape word = .word) (given : Option Given) :
    readOptions program known (word :: rest) given = .ok (given, word :: rest) := by
  simp only [readOptions, h]

/-- The values that are given by options with their values attached. -/
theorem readOptions_map_attached {values : List (Parameter × String)} {given' : Given}
    (hknown : ∀ v ∈ values, v.1 ∈ known)
    (hgiven : values.foldlM (fun given v => given.put v.1 v.2) given = some given') :
    readOptions program known (values.map fun v => v.1.attached v.2) (some given) =
      .ok (some given', []) := by
  -- Induction on the values, which are given one after the other.
  induction values generalizing given with
  | nil =>
    obtain rfl := Option.some.inj hgiven
    rw [List.map_nil, readOptions]
  | cons v values ih =>
    rw [List.foldlM_cons] at hgiven
    obtain ⟨next, hput, hrest⟩ := Option.bind_eq_some_iff.mp hgiven
    rw [List.map_cons, readOptions_attached (hknown v List.mem_cons_self), hput]
    exact ih (fun w hw => hknown w (List.mem_cons_of_mem v hw)) hrest

end Options

/-! ## Requests -/

/-- A command between its configuration and its options. -/
def commandLine (config word : String) (values : List (Parameter × String)) : List String :=
  Parameter.config.attached config :: word :: values.map fun v => v.1.attached v.2

namespace Request

/-- **The request of a command** with attached values, where nothing comes from the environment. -/
theorem ofArguments_commandLine {config word : String} {name : Name} {given : Given}
    {values : List (Parameter × String)} {request : Request} (hconfig : config ≠ "")
    (hword : shape word = .word) (hname : Name.ofText? word = some name)
    (hknown : ∀ v ∈ values, v.1 ∈ name.parameters)
    (hgiven : values.foldlM (fun given v => given.put v.1 v.2) ({} : Given) = some given)
    (hfree : given.config = none)
    (hrequest : ofGiven? name { given with config := some config } = some request) :
    ofArguments {} (commandLine config word values) = .ok request := by
  have houter : readOptions true [.config] (commandLine config word values) (some {}) =
      .ok (some { config := some config },
        word :: values.map fun v => v.1.attached v.2) := by
    have hput : Given.put {} .config config = some { config := some config } := by
      simp [Given.put, fill, path?, hconfig]
    rw [commandLine, readOptions_attached List.mem_cons_self, hput]
    exact readOptions_word hword _
  have hinner : readAllOptions name.parameters (values.map fun v => v.1.attached v.2) =
      .ok given := by
    rw [readAllOptions, readOptions_map_attached hknown hgiven]
    rfl
  have hhelp : word ≠ "help" := by
    rintro rfl
    cases hname
  have hnothing : ∀ known given, Surroundings.complete {} known given = .ok given := by
    intro known given
    rfl
  refine bind_eq_ok_iff.mpr ⟨_, houter, ?_⟩
  dsimp only
  split
  · rename_i heq
    exact absurd (List.cons.inj heq).1 hhelp
  · rename_i heq
    obtain ⟨rfl, rfl⟩ := List.cons.inj heq
    rw [hname]
    refine bind_eq_ok_iff.mpr ⟨_, rfl, bind_eq_ok_iff.mpr ⟨_, hinner, ?_⟩⟩
    refine bind_eq_ok_iff.mpr ⟨_, rfl, bind_eq_ok_iff.mpr ⟨_, hnothing _ _, ?_⟩⟩
    refine bind_eq_ok_iff.mpr ⟨_, hnothing _ _, ?_⟩
    have hchosen : (none <|> some config) = some config := rfl
    dsimp only
    rw [hfree, hchosen, hrequest]
    rfl
  · rename_i heq
    cases heq

/-- **Every request for a verdict** has a command line. -/
theorem ofArguments_verify {config proof : String} (hconfig : config ≠ "") (hproof : proof ≠ "")
    (text topic : Option String) :
    ofArguments {} (commandLine config "verify"
      ((.proof, proof) :: (text.toList.map fun s => (.signal, s)) ++
        topic.toList.map fun s => (.topic, s))) =
      .ok (.verify (some config) proof text topic) := by
  have hname : Name.ofText? "verify" = some .verify := rfl
  have hput : path? proof = some proof := if_neg hproof
  have hgiven : ((.proof, proof) :: (text.toList.map fun s => (Parameter.signal, s)) ++
      topic.toList.map fun s => (Parameter.topic, s)).foldlM
        (fun given v => given.put v.1 v.2) ({} : Given) =
      some { proof := some proof, signal := text, topic } := by
    cases text <;> cases topic <;> simp [Given.put, fill, hput]
  refine ofArguments_commandLine hconfig (by decide) hname ?_ hgiven rfl rfl
  intro v hv
  rw [List.mem_append, List.mem_cons, List.mem_map, List.mem_map] at hv
  rcases hv with (rfl | ⟨_, _, rfl⟩) | ⟨_, _, rfl⟩ <;> simp [Name.parameters]

/-- A value for an option that describes a group. -/
def IsOfGroup (v : Parameter × String) : Prop := v.1 = .depth ∨ v.1 = .member

/-- Values that describe a group describe it whatever else is given. -/
theorem foldlM_put_ofGroup {values : List (Parameter × String)} (hflags : ∀ v ∈ values, IsOfGroup v)
    {given given' : Given} (hgiven : values.foldlM (fun given v => given.put v.1 v.2) given =
      some given') (config seed topic signal proof : Option String) :
    values.foldlM (fun given v => given.put v.1 v.2)
        { given with config, seed, topic, signal, proof } =
      some { given' with config, seed, topic, signal, proof } := by
  -- Induction on the values: each changes the depth or the members only, and looks at nothing else.
  induction values generalizing given with
  | nil =>
    obtain rfl := Option.some.inj hgiven
    rfl
  | cons v values ih =>
    obtain ⟨p, s⟩ := v
    rw [List.foldlM_cons] at hgiven ⊢
    obtain ⟨next, hput, hrest⟩ := Option.bind_eq_some_iff.mp hgiven
    have hnext : Given.put { given with config, seed, topic, signal, proof } p s =
        some { next with config, seed, topic, signal, proof } := by
      obtain rfl | rfl := hflags (p, s) List.mem_cons_self
      all_goals
        obtain ⟨_, hfilled, rfl⟩ := Option.map_eq_some_iff.mp hput
        exact Option.map_eq_some_iff.mpr ⟨_, hfilled, rfl⟩
    exact Option.bind_eq_some_iff.mpr
      ⟨_, hnext, ih (fun w hw => hflags w (List.mem_cons_of_mem _ hw)) hrest⟩

/-- **One group for two commands.** Values that describe a group describe the same one for the
command that shows its root and for the command that proves in it. -/
theorem ofArguments_group {config : String} (hconfig : config ≠ "")
    {values : List (Parameter × String)} (hflags : ∀ v ∈ values, IsOfGroup v) {given : Given}
    (hgiven : values.foldlM (fun given v => given.put v.1 v.2) ({} : Given) = some given)
    (seed topic signal : String) :
    ofArguments {} (commandLine config "root" values) =
        .ok (.root ⟨given.depth, given.members⟩) ∧
      ofArguments {} (commandLine config "prove"
          ((.seed, seed) :: (.topic, topic) :: (.signal, signal) :: values)) =
        .ok (.prove (some config) seed ⟨given.depth, given.members⟩ topic signal) := by
  have hplain := foldlM_put_ofGroup hflags hgiven none none none none none
  have hmember := foldlM_put_ofGroup hflags hgiven none (some seed) (some topic) (some signal) none
  have hroot : Name.ofText? "root" = some .root := rfl
  have hprove : Name.ofText? "prove" = some .prove := rfl
  constructor
  · refine ofArguments_commandLine hconfig (by decide) hroot ?_ hplain rfl rfl
    intro v hv
    obtain h | h := hflags v hv <;> rw [h] <;> decide
  · have hvalues : ((.seed, seed) :: (.topic, topic) :: (.signal, signal) :: values).foldlM
        (fun given v => given.put v.1 v.2) ({} : Given) = some { given with
          config := none, seed := seed, topic := topic, signal := signal, proof := none } :=
      hmember
    have htaken : ∀ p, p ≠ .proof → p ∈ Name.prove.parameters := by
      intro p hp
      cases p <;> revert hp <;> decide
    refine ofArguments_commandLine hconfig (by decide) hprove ?_ hvalues rfl rfl
    intro v hv
    refine htaken v.1 ?_
    rw [List.mem_cons, List.mem_cons, List.mem_cons] at hv
    obtain rfl | rfl | rfl | hv := hv
    · exact nofun
    · exact nofun
    · exact nofun
    · obtain h | h := hflags v hv <;> rw [h] <;> exact nofun

end Request

end GroupSignal.Command
