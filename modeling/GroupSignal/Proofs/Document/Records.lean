import GroupSignal.Proofs.Document.Reading
import Mathlib.Logic.Basic

/-!
# Records are read as they are written

The description of a record type reads a record of its members in whichever order they stand, with
members of other names among them. What has been read is told by the names that were met: the slots
of these are filled and the others are empty, so a step for a member fills one slot more. That needs
the names to be different from one another, since a slot is found by its name and is not filled
twice. A member is given by the events of its value, which may be those of a document or have marks
among them. A member of a name that is not described fills no slot, and is passed over.

## Main definitions

* `Members.namedEvents`: the events of named members
* `Members.Holds`, `Members.Admits`: a named member is taken as a value, or passed over
* `Members.slotsOf`: the slots after members of some names
* `Members.Written`: the named events of the values of all members, in the order of the description

## Main results

* `Members.takes_read`: a record is read as the values that its members are taken for
* `Members.Written.takes_read`: so is one whose members stand in order
-/

namespace GroupSignal.Members

open Reader

variable {types : List Type} {members : Members types} {values : Values types} {fmt : Format}
  {key : String} {es : List Event} {named : List (String × List Event)} {done : List String}

/-- The events of named members: each name with the events of its value behind it. -/
def namedEvents (named : List (String × List Event)) : List Event :=
  named.flatMap fun (name, es) => .text name :: es

/-- The names of the members of a record type. -/
def names : {types : List Type} → Members types → List String
  | _, nil => []
  | _, cons name _ _ rest => name :: rest.names

/-! ## Members that are taken -/

/-- The member of this name takes these events as its value among these. -/
def Holds : {types : List Type} → Members types → Values types → String → List Event → Prop
  | _, nil, _, _, _ => False
  | _, cons name _ reader rest, (a, values), key, es =>
    if key = name then Takes reader es a else rest.Holds values key es

/-- A named member is taken as the value of its name, or it is of another name and is passed
over. -/
def Admits (members : Members types) (fmt : Format) (values : Values types)
    (member : String × List Event) : Prop :=
  members.Holds values member.1 member.2 ∨
    member.1 ∉ members.names ∧ Takes (ignored fmt) member.2 ()

theorem fill?_of_notMem (hkey : key ∉ members.names) (slots : Slots types) :
    members.fill? key slots = none := by
  induction members with
  | nil => rfl
  | cons name fallback? reader rest ih =>
    obtain ⟨slot, slots⟩ := slots
    rw [names, List.mem_cons, not_or] at hkey
    rw [fill?, if_neg hkey.1, ih hkey.2]
    rfl

/-! ## Filling slots -/

/-- The slots after members of these names have been read: filled for these, empty for others. -/
def slotsOf (done : List String) : {types : List Type} → Members types → Values types → Slots types
  | _, nil, _ => ()
  | _, cons name _ _ rest, (a, values) =>
    (if name ∈ done then some a else none, rest.slotsOf done values)

theorem slotsOf_nil (members : Members types) (values : Values types) :
    members.slotsOf [] values = noSlots types := by
  induction members with
  | nil => rfl
  | cons name fallback? reader rest ih =>
    obtain ⟨a, values⟩ := values
    rw [slotsOf, if_neg List.not_mem_nil, ih]
    rfl

/-- A name of no member fills no slot. -/
theorem slotsOf_cons_of_notMem (hkey : key ∉ members.names) :
    members.slotsOf (key :: done) values = members.slotsOf done values := by
  induction members with
  | nil => rfl
  | cons name fallback? reader rest ih =>
    obtain ⟨a, values⟩ := values
    rw [names, List.mem_cons, not_or] at hkey
    have hname : name ∈ key :: done ↔ name ∈ done :=
      List.mem_cons.trans (or_iff_right (Ne.symm hkey.1))
    rw [slotsOf, slotsOf, ih hkey.2, if_congr hname rfl rfl]

/-- When all names have been read, no value is missing. -/
theorem collect_slotsOf (hall : ∀ name ∈ members.names, name ∈ done) :
    members.collect (members.slotsOf done values) = .ok values := by
  induction members with
  | nil => rfl
  | cons name fallback? reader rest ih =>
    obtain ⟨a, values⟩ := values
    rw [names, List.forall_mem_cons] at hall
    rw [slotsOf, collect, if_pos hall.1, Option.some_or]
    show (rest.collect (rest.slotsOf done values)).map (fun values => (a, values)) = _
    rw [ih hall.2]
    rfl

/-- The reader of a member fills its slot, which is found by the name. -/
theorem Holds.exists_fill? (h : members.Holds values key es) (hnames : members.names.Nodup)
    (hkey : key ∉ done) : ∃ filled, members.fill? key (members.slotsOf done values) = some filled ∧
      Takes filled es (members.slotsOf (key :: done) values) := by
  induction members with
  | nil => exact h.elim
  | cons name fallback? reader rest ih =>
    obtain ⟨a, values⟩ := values
    rw [names, List.nodup_cons] at hnames
    by_cases hname : key = name
    · subst hname
      rw [Holds, if_pos rfl] at h
      rw [slotsOf, slotsOf, fill?, if_pos rfl, if_neg hkey, if_pos (List.mem_cons_self ..),
        slotsOf_cons_of_notMem hnames.1]
      exact ⟨_, rfl, h.bind_pure⟩
    · rw [Holds, if_neg hname] at h
      obtain ⟨filled, hfill, htakes⟩ := ih h hnames.2
      have hmem : name ∈ key :: done ↔ name ∈ done :=
        List.mem_cons.trans (or_iff_right (Ne.symm hname))
      rw [slotsOf, slotsOf, fill?, if_neg hname, hfill, if_congr hmem rfl rfl]
      exact ⟨_, rfl, htakes.bind_pure⟩

/-- **A step for a member** fills the slot of its name, or none if it is passed over. The key is
read first, and chooses the slot. -/
theorem Admits.takes_step (h : members.Admits fmt values (key, es)) (hnames : members.names.Nodup)
    (hkey : key ∉ done) : Takes (members.step fmt (members.slotsOf done values)) (.text key :: es)
      (members.slotsOf (key :: done) values) := by
  refine (takes_key key).bind ?_
  rcases h with hholds | ⟨hother, hignored⟩
  · obtain ⟨filled, hfill, htakes⟩ := hholds.exists_fill? hnames hkey
    rw [hfill]
    exact htakes
  · rw [fill?_of_notMem hother, slotsOf_cons_of_notMem hother]
    exact hignored.bind_pure

theorem steps_of_admits (hnames : members.names.Nodup) (hnamed : (named.map Prod.fst).Nodup)
    (hadmits : ∀ member ∈ named, members.Admits fmt values member)
    (hdone : ∀ name ∈ named.map Prod.fst, name ∉ done) :
    Steps (members.step fmt) (members.slotsOf done values) (namedEvents named) named.length
      (members.slotsOf ((named.map Prod.fst).reverse ++ done) values) := by
  -- Induction on the members that are still to come, for all names that were met before.
  induction named generalizing done with
  | nil => exact .nil _
  | cons member named ih =>
    obtain ⟨key, es⟩ := member
    rw [List.map_cons, List.nodup_cons] at hnamed
    rw [List.map_cons, List.forall_mem_cons] at hdone
    rw [List.forall_mem_cons] at hadmits
    have hfresh : ∀ name ∈ named.map Prod.fst, name ∉ key :: done := by
      intro name hname hmem
      rcases List.mem_cons.mp hmem with rfl | hmem
      · exact hnamed.1 hname
      · exact hdone.2 name hname hmem
    rw [List.map_cons, List.reverse_cons, List.append_assoc]
    exact .cons nofun (hadmits.1.takes_step hnames hdone.1) (ih hnamed.2 hadmits.2 hfresh)

/-! ## Whole records -/

/-- **A record is read** as the values that its members are taken for, whatever their order, if none
is missing and no name stands twice. -/
theorem takes_read (hnames : members.names.Nodup) (hnamed : (named.map Prod.fst).Nodup)
    (hall : ∀ name ∈ members.names, name ∈ named.map Prod.fst)
    (hadmits : ∀ member ∈ named, members.Admits fmt values member) :
    Takes (members.read fmt) (.openRecord (Document.counted fmt named.length) ::
      (namedEvents named ++ Document.closing fmt)) values := by
  have hfresh : ∀ name ∈ named.map Prod.fst, name ∉ ([] : List String) :=
    fun _ _ => List.not_mem_nil
  have hsteps := steps_of_admits hnames hnamed hadmits hfresh
  rw [slotsOf_nil, List.append_nil] at hsteps
  have hread := (hsteps.within fmt).ofExcept id
    (collect_slotsOf fun name hname => List.mem_reverse.mpr (hall name hname))
  -- A record in either form begins with its bracket, behind which the members are read by name.
  intro rest
  rw [← hread rest]
  cases fmt <;> rfl

/-- The named events of values, one for each member in order, whose readers take the events. -/
inductive Written : {types : List Type} → Members types →
    List (String × List Event) → Values types → Prop
  | nil : Written Members.nil [] ()
  | cons {α : Type} {types : List Type} {name : String} {fallback? : Option α} {reader : Reader α}
    {members : Members types} {es : List Event} {named : List (String × List Event)} {a : α}
    {values : Values types} (htakes : Takes reader es a) (hrest : Written members named values) :
    Written (Members.cons name fallback? reader members) ((name, es) :: named) (a, values)

theorem Written.map_fst_eq (h : Written members named values) :
    named.map Prod.fst = members.names := by
  induction h with
  | nil => rfl
  | cons _ _ ih => rw [List.map_cons, names, ih]

theorem Written.holds (h : Written members named values) (hnames : members.names.Nodup) :
    ∀ member ∈ named, members.Holds values member.1 member.2 := by
  induction h with
  | nil => exact List.forall_mem_nil _
  | @cons α types name fallback? reader members es named a values htakes hrest ih =>
    rw [names, List.nodup_cons] at hnames
    refine List.forall_mem_cons.mpr ⟨(if_pos rfl).mpr htakes, fun member hmember => ?_⟩
    -- The name in front stands nowhere behind it.
    have hne : member.1 ≠ name := by
      rintro rfl
      exact hnames.1 (hrest.map_fst_eq ▸ List.mem_map_of_mem hmember)
    exact (if_neg hne).mpr (ih hnames.2 member hmember)

/-- **Records** are read as they are written. -/
theorem Written.takes_read (h : Written members named values)
    (hnames : (named.map Prod.fst).Nodup) (fmt : Format) :
    Takes (members.read fmt) (.openRecord (Document.counted fmt named.length) ::
      (namedEvents named ++ Document.closing fmt)) values := by
  have hmembers : members.names.Nodup := h.map_fst_eq ▸ hnames
  exact Members.takes_read hmembers hnames (fun name hname => h.map_fst_eq ▸ hname)
    fun member hmember => .inl (h.holds hmembers member hmember)

end GroupSignal.Members
