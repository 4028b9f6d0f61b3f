import GroupSignal.Proofs.Document.Records
import Mathlib.Data.List.Basic

/-!
# Readers that stop at a part

A reader that is put together from readers of parts stops at the first part that is refused, for the
cause that the part is refused for, and what stands behind it is not looked at. So a sequence in
JSON is refused for an item if the items before it are taken, and a record for a member if the
members before it are, in whichever order they stand.

## Main definitions

* `Reader.Refuses`: a reader refuses these events, for a cause
* `Reader.Halts`: steps that are taken up to one that is refused
* `Members.Denies`: a named member that is refused

## Main results

* `Reader.refuses_list`: sequences
* `Members.refuses_read`: records
-/

namespace GroupSignal

namespace Reader

variable {α β σ : Type} {reader : Reader α} {es es' : List Event} {a : α} {cause : ReadError}

/-- The reader refuses these events at the front of any list, for this cause. -/
def Refuses (reader : Reader α) (es : List Event) (cause : ReadError) : Prop :=
  ∀ rest, reader (es ++ rest) = .error cause

theorem refuses_fail (cause : ReadError) : Refuses (fail cause : Reader α) [] cause := fun _ => rfl

theorem Refuses.append (h : Refuses reader es cause) (es' : List Event) :
    Refuses reader (es ++ es') cause := fun rest => by
  rw [List.append_assoc]
  exact h (es' ++ rest)

theorem Refuses.bind (h : Refuses reader es cause) (f : α → Reader β) :
    Refuses (reader >>= f) es cause := fun rest => by
  show (reader (es ++ rest) >>= fun p => f p.1 p.2) = _
  rw [h]
  rfl

/-- What is taken first is passed, and the refusal comes from what is read next. -/
theorem Takes.refuses_bind {f : α → Reader β} (h : Takes reader es a)
    (h' : Refuses (f a) es' cause) : Refuses (reader >>= f) (es ++ es') cause := fun rest => by
  rw [List.append_assoc, h.run_bind]
  exact h' rest

theorem Refuses.runJson (h : Refuses reader es cause) :
    Reader.runJson reader es = .error cause := by
  have hes := h []
  rw [List.append_nil] at hes
  rw [Reader.runJson, hes]

/-! ## Brackets -/

/-- Steps that are taken up to one that is refused. Whatever stands behind it belongs to no step,
and no piece begins with a closing bracket. -/
inductive Halts (step : σ → Reader σ) : σ → List Event → ReadError → Prop
  | here {s : σ} {e : Event} {es : List Event} {cause : ReadError} (hopen : e ≠ .close)
    (hstep : Refuses (step s) (e :: es) cause) (behind : List Event) :
    Halts step s (e :: es ++ behind) cause
  | cons {s s' : σ} {e : Event} {es es' : List Event} {cause : ReadError} (hopen : e ≠ .close)
    (hstep : Takes (step s) (e :: es) s') (hrest : Halts step s' es' cause) :
    Halts step s (e :: es ++ es') cause

namespace Halts

variable {step : σ → Reader σ} {s : σ}

theorem repeatClosed (h : Halts step s es cause) {left : List Event}
    (hleft : es.length ≤ left.length) : Refuses (Reader.repeatClosed step left s) es cause := by
  induction h generalizing left with
  | @here s e es cause hopen hstep behind =>
    cases left with
    | nil => exact absurd hleft (Nat.not_succ_le_zero _)
    | cons e' left =>
      have hrun := (hstep.append behind).bind (Reader.repeatClosed step left)
      exact fun rest => (repeatClosed_cons hopen ..).trans (hrun rest)
  | @cons s s' e es es' cause hopen hstep _ ih =>
    cases left with
    | nil => exact absurd hleft (Nat.not_succ_le_zero _)
    | cons e' left =>
      -- A piece has an event at least, and a step uses up one of the events that are left.
      have hleft' : es'.length ≤ left.length := by
        simp only [List.length_append, List.length_cons] at hleft
        omega
      have hrun := hstep.refuses_bind (ih hleft')
      exact fun rest => (repeatClosed_cons hopen ..).trans (hrun rest)

/-- **Steps between brackets** stop where one of them is refused. -/
theorem within (h : Halts step s es cause) : Refuses (Reader.within step s none) es cause :=
  fun rest => h.repeatClosed (by rw [List.length_append]; omega) rest

end Halts

section Sequences

variable {one : Reader α} {document : α → Document} {xs : List α} {IsTaken : α → Prop}
  (htakes : ∀ x ∈ xs, IsTaken x → Takes one ((document x).events .json) x)
  (hrefuses : ∀ x ∈ xs, ¬ IsTaken x → Refuses one ((document x).events .json) cause)

include htakes hrefuses

/-- The items are taken up to the first that is refused. -/
theorem halts_items (hxs : ¬ ∀ x ∈ xs, IsTaken x) (found : List α) :
    Halts (fun found => return (← one) :: found) found
      (Document.itemEvents .json (xs.map document)) cause := by
  induction xs generalizing found with
  | nil => exact absurd (List.forall_mem_nil IsTaken) hxs
  | cons x xs ih =>
    rw [List.forall_mem_cons] at htakes hrefuses hxs
    obtain ⟨e, es, hes, hopen⟩ := Document.exists_events_eq_cons .json (document x)
    rw [List.map_cons, Document.itemEvents]
    rw [hes] at htakes hrefuses ⊢
    by_cases hx : IsTaken x
    · have hrest : ¬ ∀ x ∈ xs, IsTaken x := fun h => hxs ⟨hx, h⟩
      exact .cons hopen (htakes.1 hx).bind_pure (ih htakes.2 hrefuses.2 hrest (x :: found))
    · exact .here hopen ((hrefuses.1 hx).bind _) _

/-- **A sequence** is refused if one of its items is. -/
theorem refuses_list (hxs : ¬ ∀ x ∈ xs, IsTaken x) :
    Refuses (list one) ((Document.seq (xs.map document)).events .json) cause := by
  have h := ((halts_items htakes hrefuses hxs []).within.bind fun reversed =>
    pure reversed.reverse).append [.close]
  exact fun rest => h rest

end Sequences

end Reader

/-! ## Records -/

namespace Members

open Reader

variable {types : List Type} {members : Members types} {values : Values types} {key : String}
  {es : List Event} {named : List (String × List Event)} {done : List String} {cause : ReadError}

/-- The member of this name refuses these events, for this cause. -/
def Denies : {types : List Type} → Members types → ReadError → String → List Event → Prop
  | _, nil, _, _, _ => False
  | _, cons name _ reader rest, cause, key, es =>
    if key = name then Refuses reader es cause else rest.Denies cause key es

theorem Denies.exists_fill? (h : members.Denies cause key es) (hkey : key ∉ done)
    (values : Values types) : ∃ filled,
      members.fill? key (members.slotsOf done values) = some filled ∧ Refuses filled es cause := by
  induction members with
  | nil => exact h.elim
  | cons name fallback? reader rest ih =>
    obtain ⟨a, values⟩ := values
    by_cases hname : key = name
    · subst hname
      rw [Denies, if_pos rfl] at h
      rw [slotsOf, fill?, if_pos rfl, if_neg hkey]
      exact ⟨_, rfl, h.bind _⟩
    · rw [Denies, if_neg hname] at h
      obtain ⟨filled, hfill, hrefuses⟩ := ih h values
      rw [slotsOf, fill?, if_neg hname, hfill]
      exact ⟨_, rfl, hrefuses.bind _⟩

/-- **A step for a member** is refused if the member is, unless its slot has been filled before. -/
theorem Denies.refuses_step (h : members.Denies cause key es) (hkey : key ∉ done)
    (values : Values types) (fmt : Format) :
    Refuses (members.step fmt (members.slotsOf done values)) (.text key :: es) cause := by
  obtain ⟨filled, hfill, hrefuses⟩ := h.exists_fill? hkey values
  refine (takes_key key).refuses_bind ?_
  rw [hfill]
  exact hrefuses

/-- The members are taken up to the first that is refused. -/
theorem halts_of_denies (hnames : members.names.Nodup) (hnamed : (named.map Prod.fst).Nodup)
    (heach : ∀ member ∈ named,
      members.Admits .json values member ∨ members.Denies cause member.1 member.2)
    (hsome : ∃ member ∈ named, members.Denies cause member.1 member.2)
    (hdone : ∀ name ∈ named.map Prod.fst, name ∉ done) :
    Halts (members.step .json) (members.slotsOf done values) (namedEvents named) cause := by
  -- Induction on the members that are still to come, for all names that were met before.
  induction named generalizing done with
  | nil =>
    obtain ⟨member, hmember, -⟩ := hsome
    exact absurd hmember List.not_mem_nil
  | cons member named ih =>
    obtain ⟨key, es⟩ := member
    rw [List.map_cons, List.nodup_cons] at hnamed
    rw [List.map_cons, List.forall_mem_cons] at hdone
    rw [List.forall_mem_cons] at heach
    by_cases hdenies : members.Denies cause key es
    case pos =>
      have hrefuses := hdenies.refuses_step hdone.1 values .json
      exact .here (e := .text key) nofun hrefuses (namedEvents named)
    -- The member in front is taken, so one behind it is refused.
    have hadmits : members.Admits .json values (key, es) := heach.1.resolve_right hdenies
    have hbehind := ((List.exists_mem_cons_iff ..).mp hsome).resolve_left hdenies
    have hfresh : ∀ name ∈ named.map Prod.fst, name ∉ key :: done := by
      intro name hname hmem
      rcases List.mem_cons.mp hmem with rfl | hmem
      · exact hnamed.1 hname
      · exact hdone.2 name hname hmem
    exact .cons nofun (hadmits.takes_step hnames hdone.1) (ih hnamed.2 heach.2 hbehind hfresh)

/-- **A record** is refused if one of its members is and the others are taken, whatever their
order. -/
theorem refuses_read (hnames : members.names.Nodup) (hnamed : (named.map Prod.fst).Nodup)
    (heach : ∀ member ∈ named,
      members.Admits .json values member ∨ members.Denies cause member.1 member.2)
    (hsome : ∃ member ∈ named, members.Denies cause member.1 member.2) :
    Refuses (members.read .json) (.openRecord none :: (namedEvents named ++ [.close])) cause := by
  have hhalts : Halts (members.step .json) (noSlots types) (namedEvents named) cause := by
    rw [← slotsOf_nil members values]
    exact halts_of_denies hnames hnamed heach hsome fun _ _ => List.not_mem_nil
  have hread :=
    (hhalts.within.bind fun slots => ofExcept id (members.collect slots)).append [.close]
  exact fun rest => hread rest

end Members

end GroupSignal
