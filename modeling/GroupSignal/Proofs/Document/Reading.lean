import GroupSignal.Document.Record
import GroupSignal.Proofs.Fallible

/-!
# Readers that take what is written, and nothing else

A reader takes the events of a value if it gives the value and leaves what stands behind, whatever
that is. This goes through sequencing, and so through tuples, sequences of any length and variants:
each takes the events of a document if its parts take the events of the parts, in both forms.

The other way round, a reader may take other events for a value too, such as the marks of CBOR. A
JSON text has none of these, and there a tuple of texts takes nothing but the events of the tuple.

## Main definitions

* `Reader.Takes`: a reader takes just these events, and gives this value
* `Reader.Steps`: steps that take one piece of a list of events after the other
* `Reader.TakesOnly`: in JSON, a reader takes only the events of the value that it gives

## Main results

* `Reader.Steps.within`: steps between brackets
* `Reader.takes_tuple`, `Reader.takes_list`, `Reader.takes_variant`: the parts of documents
* `Reader.takesOnly_text`, `Reader.takesOnly_tuple`: texts and tuples in JSON
-/

namespace GroupSignal

theorem Document.exists_events_eq_cons (fmt : Format) (d : Document) :
    ∃ e es, d.events fmt = e :: es ∧ e ≠ .close := by
  cases d with
  | bytes b => cases fmt <;> exact ⟨_, _, rfl, nofun⟩
  | _ => exact ⟨_, _, rfl, nofun⟩

namespace Reader

variable {α β σ ε : Type} {fmt : Format}

theorem run_bind_eq_ok_iff {reader : Reader α} {f : α → Reader β} {es rest : List Event}
    {b : β} :
    (reader >>= f) es = .ok (b, rest) ↔
      ∃ a es', reader es = .ok (a, es') ∧ f a es' = .ok (b, rest) := by
  show (reader es >>= fun p => f p.1 p.2) = _ ↔ _
  rw [bind_eq_ok_iff, Prod.exists]

/-- The reader takes these events off the front of any list, and gives the value. -/
def Takes (reader : Reader α) (es : List Event) (a : α) : Prop :=
  ∀ rest, reader (es ++ rest) = .ok (a, rest)

section Sequencing

variable {reader : Reader α} {es es' : List Event} {a : α} {b : β}

theorem takes_pure (a : α) : Takes (pure a : Reader α) [] a := fun _ => rfl

theorem Takes.run_bind (h : Takes reader es a) (f : α → Reader β) (rest : List Event) :
    (reader >>= f) (es ++ rest) = f a rest := by
  show (reader (es ++ rest) >>= fun p => f p.1 p.2) = _
  rw [h]
  rfl

theorem Takes.bind {f : α → Reader β} (h : Takes reader es a) (h' : Takes (f a) es' b) :
    Takes (reader >>= f) (es ++ es') b := fun rest => by
  rw [List.append_assoc, h.run_bind]
  exact h' rest

theorem Takes.bind_pure {f : α → β} (h : Takes reader es a) :
    Takes (reader >>= fun a => pure (f a)) es (f a) := by
  simpa using h.bind (f := fun a => pure (f a)) (takes_pure (f a))

theorem Takes.map {f : α → β} (h : Takes reader es a) : Takes (f <$> reader) es (f a) := by
  rw [map_eq_pure_bind]
  exact h.bind_pure

theorem takes_ofExcept (cause : ε → ReadError) {x : Except ε α} (h : x = .ok a) :
    Takes (Reader.ofExcept cause x) [] a := h ▸ takes_pure a

theorem ofExcept_eq_ok_iff {cause : ε → ReadError} {x : Except ε α} :
    Reader.ofExcept cause x es = .ok (a, es') ↔ x = .ok a ∧ es' = es := by
  cases x with
  | error e => exact iff_of_false nofun fun h => by cases h.1
  | ok b =>
    show Except.ok (b, es) = _ ↔ _
    simp only [Except.ok.injEq, Prod.mk.injEq, eq_comm]

theorem Takes.ofExcept (h : Takes reader es a) (cause : ε → ReadError) {convert : α → Except ε β}
    (hconvert : convert a = .ok b) :
    Takes (reader >>= fun a => Reader.ofExcept cause (convert a)) es b := by
  have hb := takes_ofExcept cause hconvert
  simpa using h.bind (f := fun a => Reader.ofExcept cause (convert a)) hb

theorem runJson_eq_ok_iff : runJson reader es = .ok a ↔ reader es = .ok (a, []) := by
  rw [Reader.runJson.eq_def]
  split <;> grind

theorem Takes.runJson (h : Takes reader es a) : Reader.runJson reader es = .ok a :=
  runJson_eq_ok_iff.mpr (List.append_nil es ▸ h [])

end Sequencing

/-! ## Leaves -/

theorem takes_text (fmt : Format) (s : String) : Takes text ((Document.text s).events fmt) s :=
  fun _ => rfl

theorem takes_natural (fmt : Format) (n : UInt64) :
    Takes natural ((Document.natural n).events fmt) n :=
  fun _ => rfl

theorem takes_byteString (b : Bytes) : Takes byteString ((Document.bytes b).events .cbor) b :=
  fun _ => rfl

theorem takes_event (e : Event) : Takes event [e] e := fun _ => rfl

theorem takes_close : Takes close [.close] () := fun _ => rfl

theorem takes_key (name : String) : Takes key [.text name] name := fun _ => rfl

/-! ## Brackets -/

/-- Where no closing bracket stands in front, a step is taken. -/
theorem repeatClosed_cons {step : σ → Reader σ} {e : Event} (hopen : e ≠ .close) (e' : Event)
    (left es : List Event) (s : σ) : repeatClosed step (e' :: left) s (e :: es) =
      (do repeatClosed step left (← step s) : Reader σ) (e :: es) := by
  cases e <;> first | rfl | exact absurd rfl hopen

/-- Steps from a state to another, each of which takes one piece of the events. No piece begins with
a closing bracket. -/
inductive Steps (step : σ → Reader σ) : σ → List Event → (count : Nat) → σ → Prop
  | nil (s : σ) : Steps step s [] 0 s
  | cons {s s' s'' : σ} {e : Event} {es es' : List Event} {count : Nat} (hopen : e ≠ .close)
    (hstep : Takes (step s) (e :: es) s') (hrest : Steps step s' es' count s'') :
    Steps step s (e :: es ++ es') (count + 1) s''

namespace Steps

variable {step : σ → Reader σ} {s s' : σ} {es : List Event} {count : Nat}

theorem count_le_length (h : Steps step s es count s') : count ≤ es.length := by
  induction h with
  | nil s => exact Nat.le_refl 0
  | cons _ _ _ ih =>
    rw [List.length_append, List.length_cons]
    omega

theorem repeatCounted (h : Steps step s es count s') :
    Takes (Reader.repeatCounted step count s) es s' := by
  induction h with
  | nil s => exact takes_pure s
  | cons _ hstep _ ih => exact hstep.bind ih

theorem repeatClosed (h : Steps step s es count s') {left : List Event}
    (hleft : count < left.length) :
    Takes (Reader.repeatClosed step left s) (es ++ [.close]) s' := by
  induction h generalizing left with
  | nil s =>
    cases left with
    | nil => exact absurd hleft (Nat.not_lt_zero _)
    | cons e left => exact fun _ => rfl
  | @cons s s₁ s₂ e es es' count hopen hstep _ ih =>
    cases left with
    | nil => exact absurd hleft (Nat.not_lt_zero _)
    | cons e' left =>
      have hleft' : count < left.length := Nat.lt_of_succ_lt_succ hleft
      have hrun : Takes (do Reader.repeatClosed step left (← step s))
          (e :: es ++ (es' ++ [.close])) s₂ := hstep.bind (ih hleft')
      rw [List.append_assoc]
      intro rest
      rw [← hrun rest]
      exact repeatClosed_cons hopen ..

/-- **Steps between brackets** take all that stands between them, and the closing bracket. -/
theorem within (h : Steps step s es count s') (fmt : Format) :
    Takes (Reader.within step s (Document.counted fmt count)) (es ++ Document.closing fmt) s' := by
  cases fmt with
  | cbor =>
    rw [Document.closing, List.append_nil]
    exact h.repeatCounted
  | json =>
    -- There are as many events left as there are steps, and the closing bracket.
    intro rest
    refine h.repeatClosed ?_ rest
    have := h.count_le_length
    simp only [Document.closing, List.length_append, List.length_singleton]
    omega

end Steps

section Sequences

variable {one : Reader α} {document : α → Document} {xs : List α}

theorem steps_items (hone : ∀ x ∈ xs, Takes one ((document x).events fmt) x) (found : List α) :
    Steps (fun found => return (← one) :: found) found
      (Document.itemEvents fmt (xs.map document)) xs.length (xs.reverse ++ found) := by
  induction xs generalizing found with
  | nil => exact .nil found
  | cons x xs ih =>
    obtain ⟨e, es, hes, hopen⟩ := Document.exists_events_eq_cons fmt (document x)
    have hx := hone x (List.mem_cons_self ..)
    rw [List.map_cons, Document.itemEvents, List.reverse_cons, List.append_assoc]
    rw [hes] at hx ⊢
    exact .cons hopen hx.bind_pure
      (ih (fun y hy => hone y (List.mem_cons_of_mem _ hy)) (x :: found))

/-- **A sequence** is read if its items are. -/
theorem takes_list (hone : ∀ x ∈ xs, Takes one ((document x).events fmt) x) :
    Takes (list one) ((Document.seq (xs.map document)).events fmt) xs := by
  -- What has been found so far is kept in reverse.
  have h := ((steps_items hone []).within fmt).map (f := List.reverse)
  rw [List.append_nil, List.reverse_reverse, ← List.length_map document] at h
  intro rest
  rw [← h rest]
  rfl

end Sequences

/-- **A tuple** is read if its items are, one after the other. -/
theorem takes_tuple {body : Reader α} {ds : List Document} {a : α}
    (hbody : Takes body (Document.itemEvents fmt ds) a) :
    Takes (tuple fmt ds.length body) ((Document.seq ds).events fmt) a := by
  cases fmt with
  | json =>
    have h := hbody.bind (f := fun a => do close; return a) takes_close.bind_pure
    exact fun rest => h rest
  | cbor =>
    have h := hbody.bind (f := fun a => do return a) (takes_pure a)
    intro rest
    rw [← h rest]
    -- The count is not too small, and no closing bracket follows it.
    have hcount : (some ds.length).any (· < ds.length) = false := by simp
    show (if (some ds.length).any (· < ds.length) then _ else _ : Reader α) _ = _
    rw [hcount]
    rfl

/-- **A variant** is read if the value behind its name is. -/
theorem takes_variant {choose : String → Option (Reader α)} {value : Reader α} {name : String}
    {d : Document} {a : α} (hchoose : choose name = some value)
    (hvalue : Takes value (d.events fmt) a) :
    Takes (variant fmt choose) ((Document.record [(name, d)]).events fmt) a := by
  cases fmt with
  | json =>
    have hes : (Document.record [(name, d)]).events .json =
        [.openRecord none] ++ ([.text name] ++ d.events .json ++ [.close]) := by
      simp only [Document.events, Document.memberEvents, Document.counted, Document.closing,
        List.append_nil, List.cons_append, List.nil_append]
    rw [hes]
    refine (takes_event (.openRecord none)).bind ?_
    refine Takes.bind ((takes_key name).bind ?_) takes_close.bind_pure
    rw [hchoose]
    exact hvalue
  | cbor =>
    have hes : (Document.record [(name, d)]).events .cbor =
        .openRecord (some 1) :: ([.text name] ++ d.events .cbor) := by
      simp only [Document.events, Document.memberEvents, Document.counted, Document.closing,
        List.append_nil, List.length_singleton, List.cons_append, List.nil_append]
    rw [hes]
    -- A look at what stands in front decides that there are brackets, and then they are passed.
    intro rest
    refine run_bind_eq_ok_iff.mpr ⟨(), _, rfl, ?_⟩
    refine run_bind_eq_ok_iff.mpr ⟨_, _, rfl, ?_⟩
    refine run_bind_eq_ok_iff.mpr ⟨(), _, rfl, ?_⟩
    refine (takes_key name).bind ?_ rest
    rw [hchoose]
    exact hvalue

/-! ## What JSON readers take -/

end Reader

/-- The events that JSON texts have: no byte strings, no marks and no counts. -/
def Event.InJson : Event → Prop
  | .bytes _ | .tag _ | .unwieldy | .openSeq (some _) | .openRecord (some _) => False
  | _ => True

namespace Reader

variable {α β : Type} {es rest : List Event}

/-- In JSON, the reader takes nothing but the events of the value that it gives. -/
def TakesOnly (reader : Reader α) (events : α → List Event) : Prop :=
  ∀ ⦃es a rest⦄, (∀ e ∈ es, e.InJson) → reader es = .ok (a, rest) →
    es = events a ++ rest ∧ ∀ e ∈ rest, e.InJson

theorem TakesOnly.exists_of_bind {reader : Reader α} {events : α → List Event}
    (hreader : TakesOnly reader events) {f : α → Reader β} {b : β} (hjson : ∀ e ∈ es, e.InJson)
    (h : (reader >>= f) es = .ok (b, rest)) :
    ∃ a es', es = events a ++ es' ∧ (∀ e ∈ es', e.InJson) ∧ f a es' = .ok (b, rest) := by
  obtain ⟨a, es', ha, hf⟩ := run_bind_eq_ok_iff.mp h
  obtain ⟨hes, hjson'⟩ := hreader hjson ha
  exact ⟨a, es', hes, hjson', hf⟩

theorem TakesOnly.eq_of_runJson {reader : Reader α} {events : α → List Event}
    (hreader : TakesOnly reader events) (hjson : ∀ e ∈ es, e.InJson) {a : α}
    (h : runJson reader es = .ok a) : es = events a := by
  obtain ⟨hes, -⟩ := hreader hjson (runJson_eq_ok_iff.mp h)
  rwa [List.append_nil] at hes

theorem takesOnly_event : TakesOnly event fun e => [e] := by
  rintro (_ | ⟨e, es⟩) a rest hjson h
  · cases h
  · cases h
    exact ⟨rfl, fun e he => hjson e (List.mem_cons_of_mem _ he)⟩

theorem takesOnly_item : TakesOnly item fun e => [e] := by
  rintro (_ | ⟨e, es⟩) a rest hjson h
  · cases h
  · -- No marks stand in front of an item.
    have hmarks : dropMarks (e :: es) = e :: es := by
      have he : e.InJson := hjson e (List.mem_cons_self ..)
      cases e <;> first | rfl | exact he.elim
    have hitem : item (e :: es) = event (dropMarks (e :: es)) := rfl
    rw [hitem, hmarks] at h
    exact takesOnly_event hjson h

theorem takesOnly_text : TakesOnly text fun s => [.text s] := by
  intro es s rest hjson h
  obtain ⟨e, es', rfl, hjson', h⟩ := takesOnly_item.exists_of_bind hjson h
  cases e <;> cases h
  exact ⟨rfl, hjson'⟩

theorem takesOnly_close : TakesOnly close fun _ => [.close] := by
  intro es s rest hjson h
  obtain ⟨e, es', rfl, hjson', h⟩ := takesOnly_event.exists_of_bind hjson h
  cases e <;> cases h
  exact ⟨rfl, hjson'⟩

theorem takesOnly_tuple {size : Nat} {body : Reader α} {events : α → List Event}
    (hbody : TakesOnly body events) :
    TakesOnly (tuple .json size body) fun a => .openSeq none :: (events a ++ [.close]) := by
  intro es a rest hjson h
  obtain ⟨e, es₁, rfl, hjson₁, h⟩ := takesOnly_item.exists_of_bind hjson h
  cases e with
  | openSeq count =>
    cases count with
    | some n =>
      -- Brackets in JSON carry no count.
      exact (hjson _ (List.mem_cons_self ..)).elim
    | none =>
      obtain ⟨a', es₂, rfl, hjson₂, h⟩ := hbody.exists_of_bind hjson₁ h
      obtain ⟨_, es₃, rfl, hjson₃, h⟩ := takesOnly_close.exists_of_bind hjson₂ h
      cases h
      exact ⟨by simp, hjson₃⟩
  | _ => cases h

end Reader

end GroupSignal
