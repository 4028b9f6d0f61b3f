import GroupSignal.Groth16.KeyDocument
import GroupSignal.Proofs.Fallible
import GroupSignal.Proofs.Text.NullFree

/-!
# What a reader refuses with

A reader is put together from readers of parts, and refuses with what one of these refuses with, or
because the document is malformed. The reader of a record adds that a member is missing or there
twice, and names one of the members of its description.

A verifying key has no parts that are quoted, so a message about its document shows nothing of the
document but the names of members.

## Main definitions

* `Reader.RefusesOnly`: every refusal of a reader has a property
* `Members.RefuseOnly`: the same for all members of a record, and for what is said of their names

## Main results

* `Members.RefuseOnly.read`: refusals of the reader of a record
* `Groth16.VerifyingKey.refusesOnly_read`: refusals of the reader of a key
* `Groth16.CircuitKey.refusesOnly_ofText`: messages about the text of a key
-/

namespace GroupSignal

/-- Every refusal of a reader has a property, whatever events it is given. -/
def Reader.RefusesOnly {α : Type} (P : ReadError → Prop) (reader : Reader α) : Prop :=
  ∀ es, GroupSignal.RefusesOnly P (reader es)

namespace Reader

variable {α β σ : Type} {P : ReadError → Prop}

theorem refusesOnly_pure (a : α) : RefusesOnly P (pure a : Reader α) := fun _ => refusesOnly_ok _

theorem refusesOnly_fail {e : ReadError} (h : P e) : RefusesOnly P (fail e : Reader α) :=
  fun _ => refusesOnly_error h

theorem refusesOnly_get : RefusesOnly P (get : Reader (List Event)) := fun _ => refusesOnly_ok _

theorem refusesOnly_set (es : List Event) : RefusesOnly P (set es : Reader Unit) :=
  fun _ => refusesOnly_ok _

theorem refusesOnly_modify (f : List Event → List Event) :
    RefusesOnly P (modify f : Reader Unit) :=
  fun _ => refusesOnly_ok _

theorem RefusesOnly.bind {reader : Reader α} {f : α → Reader β} (h : RefusesOnly P reader)
    (hf : ∀ a, RefusesOnly P (f a)) : RefusesOnly P (reader >>= f) := by
  intro es
  show GroupSignal.RefusesOnly P (reader es >>= fun p => f p.1 p.2)
  exact (h es).bind fun p _ => hf p.1 p.2

/-! ## Parts of documents -/

variable (hmalformed : P .malformed)

include hmalformed

theorem refusesOnly_event : RefusesOnly P event := by
  intro es
  cases es with
  | nil => exact refusesOnly_error hmalformed
  | cons e rest => exact refusesOnly_ok _

theorem refusesOnly_item : RefusesOnly P item :=
  (refusesOnly_modify dropMarks).bind fun _ => refusesOnly_event hmalformed

theorem refusesOnly_text : RefusesOnly P text := by
  refine (refusesOnly_item hmalformed).bind fun e => ?_
  split
  · exact refusesOnly_pure _
  · exact refusesOnly_fail hmalformed

theorem refusesOnly_natural : RefusesOnly P natural := by
  have hwide : ∀ b rest, GroupSignal.RefusesOnly P (wideNatural b rest) := by
    intro b rest
    unfold wideNatural
    dsimp only
    split
    · exact refusesOnly_ok _
    · exact refusesOnly_error hmalformed
  intro es
  show GroupSignal.RefusesOnly P (naturalFrom es)
  fun_induction naturalFrom es with
  | case1 => exact refusesOnly_ok _
  | case2 b rest => exact hwide b rest
  | case3 b rest => exact hwide b rest
  | case4 => exact refusesOnly_error hmalformed
  | case5 => exact refusesOnly_error hmalformed
  | case6 _ _ _ _ _ _ ih => exact ih
  | case7 => exact refusesOnly_error hmalformed

theorem refusesOnly_close : RefusesOnly P close := by
  refine (refusesOnly_event hmalformed).bind fun e => ?_
  split
  · exact refusesOnly_pure _
  · exact refusesOnly_fail hmalformed

theorem refusesOnly_key : RefusesOnly P key := by
  refine (refusesOnly_modify dropTags).bind fun _ => (refusesOnly_event hmalformed).bind fun e => ?_
  split
  · exact refusesOnly_pure _
  · exact refusesOnly_pure _
  · exact refusesOnly_fail hmalformed

theorem refusesOnly_ignored (fmt : Format) : RefusesOnly P (ignored fmt) := by
  refine refusesOnly_get.bind fun es => ?_
  split
  · exact refusesOnly_set _
  · exact refusesOnly_fail hmalformed

omit hmalformed in
theorem RefusesOnly.repeatCounted {step : σ → Reader σ} (h : ∀ s, RefusesOnly P (step s))
    (n : ℕ) (s : σ) : RefusesOnly P (repeatCounted step n s) := by
  induction n generalizing s with
  | zero => exact refusesOnly_pure s
  | succ n ih => exact (h s).bind ih

theorem RefusesOnly.repeatClosed {step : σ → Reader σ} (h : ∀ s, RefusesOnly P (step s))
    (left : List Event) (s : σ) : RefusesOnly P (repeatClosed step left s) := by
  induction left generalizing s with
  | nil => exact refusesOnly_fail hmalformed
  | cons e left ih =>
    refine refusesOnly_get.bind fun es => ?_
    split
    · exact (refusesOnly_set _).bind fun _ => refusesOnly_pure s
    · exact (h s).bind ih

theorem RefusesOnly.within {step : σ → Reader σ} (h : ∀ s, RefusesOnly P (step s)) (s : σ)
    (count : Option ℕ) : RefusesOnly P (within step s count) := by
  cases count with
  | some n => exact RefusesOnly.repeatCounted h n s
  | none => exact refusesOnly_get.bind fun es => RefusesOnly.repeatClosed hmalformed h es s

theorem RefusesOnly.list {one : Reader α} (h : RefusesOnly P one) : RefusesOnly P (list one) := by
  refine (refusesOnly_item hmalformed).bind fun e => ?_
  split
  · refine RefusesOnly.bind ?_ fun reversed => refusesOnly_pure _
    exact RefusesOnly.within hmalformed (fun found => h.bind fun a => refusesOnly_pure _) [] _
  · exact refusesOnly_pure _
  · exact refusesOnly_fail hmalformed

theorem RefusesOnly.tuple {fmt : Format} {size : ℕ} {body : Reader α} (h : RefusesOnly P body) :
    RefusesOnly P (tuple fmt size body) := by
  refine (refusesOnly_item hmalformed).bind fun e => ?_
  split
  · split
    · exact refusesOnly_fail hmalformed
    · refine h.bind fun a => ?_
      split
      · exact (refusesOnly_close hmalformed).bind fun _ => refusesOnly_pure a
      · exact refusesOnly_pure a
  · exact refusesOnly_fail hmalformed

theorem RefusesOnly.runJson {reader : Reader α} (h : RefusesOnly P reader) (es : List Event) :
    GroupSignal.RefusesOnly P (runJson reader es) := by
  have hes := h es
  unfold Reader.runJson
  split
  · exact refusesOnly_ok _
  · exact refusesOnly_error hmalformed
  · rename_i e heq
    exact refusesOnly_error (hes e heq)

end Reader

/-! ## Records -/

namespace Members

open Reader

variable {P : ReadError → Prop}

/-- The readers of all members refuse with a property, and so does the reader of the record when it
says that a member is missing or there twice. -/
def RefuseOnly (P : ReadError → Prop) {types : List Type} : Members types → Prop
  | nil => True
  | cons name _ reader rest =>
    P (.missingField name) ∧ P (.duplicateField name) ∧ reader.RefusesOnly P ∧ rest.RefuseOnly P

namespace RefuseOnly

theorem fill? {types : List Type} {members : Members types} (h : members.RefuseOnly P)
    (key : String) (slots : Slots types) :
    ∀ filled, members.fill? key slots = some filled → filled.RefusesOnly P := by
  induction members with
  | nil => exact nofun
  | cons name fallback? reader rest ih =>
    obtain ⟨-, hduplicate, hreader, hrest⟩ := h
    obtain ⟨slot, slots⟩ := slots
    intro filled hfilled
    rw [Members.fill?] at hfilled
    split at hfilled
    · cases hfilled
      cases slot with
      | some a => exact (refusesOnly_fail hduplicate).bind fun _ => hreader.bind fun a =>
          refusesOnly_pure _
      | none => exact hreader.bind fun a => refusesOnly_pure _
    · obtain ⟨behind, hbehind, rfl⟩ := Option.map_eq_some_iff.mp hfilled
      exact (ih hrest slots behind hbehind).bind fun slots' => refusesOnly_pure _

theorem collect {types : List Type} {members : Members types} (h : members.RefuseOnly P)
    (slots : Slots types) : GroupSignal.RefusesOnly P (members.collect slots) := by
  induction members with
  | nil => exact refusesOnly_ok _
  | cons name fallback? reader rest ih =>
    obtain ⟨hmissing, -, -, hrest⟩ := h
    obtain ⟨slot, slots⟩ := slots
    rw [Members.collect]
    split
    · exact refusesOnly_error hmissing
    · exact (ih hrest slots).bind fun values _ => refusesOnly_ok _

variable (hmalformed : P .malformed) {types : List Type} {members : Members types}

include hmalformed

theorem readInOrder (h : members.RefuseOnly P) : members.readInOrder.RefusesOnly P := by
  induction members with
  | nil => exact (refusesOnly_close hmalformed).bind fun _ => refusesOnly_pure _
  | cons name fallback? reader rest ih =>
    obtain ⟨-, -, hreader, hrest⟩ := h
    have hread := hreader.bind fun a => (ih hrest).bind fun values => refusesOnly_pure (a, values)
    -- A fallback stands in only where the sequence ends.
    refine refusesOnly_get.bind fun es => ?_
    cases fallback? with
    | none => exact hread
    | some a =>
      rcases es with _ | ⟨e, es⟩
      · exact hread
      · cases e with
        | close => exact (ih hrest).bind fun values => refusesOnly_pure (a, values)
        | _ => exact hread

theorem step (h : members.RefuseOnly P) (fmt : Format) (slots : Slots types) :
    (members.step fmt slots).RefusesOnly P := by
  refine (refusesOnly_key hmalformed).bind fun name => ?_
  split
  · rename_i filled hfilled
    exact h.fill? name slots filled hfilled
  · exact (refusesOnly_ignored hmalformed fmt).bind fun _ => refusesOnly_pure slots

/-- **The reader of a record** refuses a malformed document, with what a member is refused with, or
with the name of a member that is missing or there twice. -/
theorem read (h : members.RefuseOnly P) (fmt : Format) : (members.read fmt).RefusesOnly P := by
  refine (refusesOnly_item hmalformed).bind fun e => ?_
  split
  · refine (Reader.RefusesOnly.within hmalformed (h.step hmalformed fmt) _ _).bind fun slots => ?_
    have hcollect := h.collect slots
    cases hvalues : members.collect slots with
    | error e => exact refusesOnly_fail (hcollect e hvalues)
    | ok values => exact refusesOnly_pure values
  · exact h.readInOrder hmalformed
  · exact refusesOnly_fail hmalformed

end RefuseOnly

end Members

/-! ## Verifying keys -/

/-- What is said of a refused document has no null character. -/
def ReadError.NullFree (e : ReadError) : Prop := ∀ s, e.message? = some s → Text.NullFree s

theorem InputError.nullFree_withCause {what : String} {cause : ReadError}
    (hwhat : Text.NullFree what) (hcause : cause.NullFree) :
    Text.NullFree (withCause what cause) := by
  unfold withCause
  split
  · rename_i s hs
    exact .append (.append hwhat (by decide)) (hcause s hs)
  · exact hwhat

namespace Groth16

open Reader (refusesOnly_pure refusesOnly_fail refusesOnly_text refusesOnly_natural)

variable {P : ReadError → Prop} (hmalformed : P .malformed)

include hmalformed

theorem refusesOnly_readDecimal : Reader.RefusesOnly P readDecimal := by
  refine (refusesOnly_text hmalformed).bind fun s => ?_
  split
  · exact refusesOnly_pure _
  · exact refusesOnly_fail hmalformed

theorem refusesOnly_readQuadratic : Reader.RefusesOnly P readQuadratic :=
  Reader.RefusesOnly.tuple hmalformed ((refusesOnly_readDecimal hmalformed).bind fun _ =>
    (refusesOnly_readDecimal hmalformed).bind fun _ => refusesOnly_pure _)

theorem refusesOnly_readPoint {F : Type} [CoordinateField F] [DecidableEq F] (C : Curve F)
    {coordinate : Reader F} (h : Reader.RefusesOnly P coordinate) :
    Reader.RefusesOnly P (readPoint C coordinate) := by
  refine (Reader.RefusesOnly.tuple hmalformed (h.bind fun _ => h.bind fun _ => h.bind fun _ =>
    refusesOnly_pure _)).bind fun p => ?_
  split
  · exact refusesOnly_pure p
  · exact refusesOnly_fail hmalformed

theorem refusesOnly_readSextic : Reader.RefusesOnly P readSextic := by
  have hpart := refusesOnly_readQuadratic hmalformed
  exact Reader.RefusesOnly.tuple hmalformed
    (hpart.bind fun _ => hpart.bind fun _ => hpart.bind fun _ => refusesOnly_pure _)

theorem refusesOnly_readPairing : Reader.RefusesOnly P readPairing := by
  have hpart := refusesOnly_readSextic hmalformed
  exact Reader.RefusesOnly.tuple hmalformed
    (hpart.bind fun _ => hpart.bind fun _ => refusesOnly_pure _)

omit hmalformed

/-- **The reader of a key** says of a document only that it is malformed, or which member is missing
or there twice, and no name of a member has a null character. -/
theorem VerifyingKey.refusesOnly_read :
    Reader.RefusesOnly ReadError.NullFree VerifyingKey.read := by
  have hmalformed : ReadError.malformed.NullFree := nofun
  have hmissing : ∀ name, Text.NullFree name → (ReadError.missingField name).NullFree := by
    rintro name hname s ⟨⟩
    exact .append (.append (by decide) hname) (by decide)
  have hduplicate : ∀ name, Text.NullFree name → (ReadError.duplicateField name).NullFree := by
    rintro name hname s ⟨⟩
    exact .append (.append (by decide) hname) (by decide)
  have h1 := refusesOnly_readPoint hmalformed G1.curve (refusesOnly_readDecimal hmalformed)
  have h2 := refusesOnly_readPoint hmalformed G2.curve (refusesOnly_readQuadratic hmalformed)
  have hmembers : VerifyingKey.members.RefuseOnly ReadError.NullFree :=
    ⟨hmissing _ (by decide), hduplicate _ (by decide), refusesOnly_text hmalformed,
      hmissing _ (by decide), hduplicate _ (by decide), refusesOnly_natural hmalformed,
      hmissing _ (by decide), hduplicate _ (by decide), h1,
      hmissing _ (by decide), hduplicate _ (by decide), h2,
      hmissing _ (by decide), hduplicate _ (by decide), h2,
      hmissing _ (by decide), hduplicate _ (by decide), h2,
      hmissing _ (by decide), hduplicate _ (by decide), refusesOnly_readPairing hmalformed,
      hmissing _ (by decide), hduplicate _ (by decide), Reader.RefusesOnly.list hmalformed h1,
      trivial⟩
  exact (hmembers.read hmalformed .json).bind fun _ => refusesOnly_pure _

/-- **What is said of the text of a key** has no null character, whatever the text. -/
theorem CircuitKey.refusesOnly_ofText (s : String) :
    GroupSignal.RefusesOnly (fun e => Text.NullFree e.message) (CircuitKey.ofText s) := by
  refine GroupSignal.RefusesOnly.bind ?_ fun key _ => ?_
  · refine GroupSignal.RefusesOnly.mapError fun cause hcause => ?_
    have hread := Reader.RefusesOnly.runJson (P := ReadError.NullFree) nofun
      VerifyingKey.refusesOnly_read
    exact InputError.nullFree_withCause (by decide) (hread _ cause hcause)
  · unfold CircuitKey.ofKey
    split
    · exact refusesOnly_ok _
    · exact refusesOnly_error (.append (.append (.append (by decide) (Text.nullFree_toString _))
        (by decide)) (Text.nullFree_toString publicValueCount))

end Groth16

end GroupSignal
