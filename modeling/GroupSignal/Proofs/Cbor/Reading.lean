import GroupSignal.Cbor
import GroupSignal.Proofs.Bytes

/-!
# Written bytes are read as the events that they were written from

In CBOR a document is written event by event: a leaf is a head with its string or number behind it,
and a bracket is a head with its count. So it is enough that what is written for one event is read
back as this event, whatever stands behind it. A head is read back whichever of its five sizes the
argument needs, as long as it fits 64 bits. What reading adds are marks, on strings that are too
long for a key.

## Main definitions

* `Event.Fits`: the strings of an event are below a limit, and its count is of 64 bits
* `Document.Fits`: so are those of all events of a document
* `Cbor.write`, `Cbor.marked`: an event as it is written, and as it is read

## Main results

* `Cbor.exists_head?_head`: a head is read back
* `Cbor.item?_write`: a written event is read back
* `Cbor.events_encode`, `Cbor.events_encode_of_short`: the events of the bytes of a document
-/

namespace GroupSignal

/-- The strings of an event have fewer bytes than the limit, and a count fits 64 bits. -/
def Event.Fits (limit : ℕ) : Event → Prop
  | .text s => s.utf8ByteSize < limit
  | .bytes b => b.length < limit
  | .natural _ => True
  | .openSeq (some n) | .openRecord (some n) => n < UInt64.size
  | _ => False

theorem Event.Fits.mono {limit limit' : ℕ} {e : Event} (h : e.Fits limit) (hle : limit ≤ limit') :
    e.Fits limit' := by
  cases e with
  | text s => exact Nat.lt_of_lt_of_le h hle
  | bytes b => exact Nat.lt_of_lt_of_le h hle
  | openSeq count => cases count <;> exact h
  | openRecord count => cases count <;> exact h
  | _ => exact h

namespace Document

/-- All events of a document fit. -/
def Fits (limit : ℕ) (d : Document) : Prop := ∀ e ∈ d.events .cbor, e.Fits limit

variable {limit : ℕ}

@[simp] theorem fits_text {s : String} : (text s).Fits limit ↔ s.utf8ByteSize < limit :=
  List.forall_mem_singleton

@[simp] theorem fits_bytes {b : Bytes} : (bytes b).Fits limit ↔ b.length < limit :=
  List.forall_mem_singleton

@[simp] theorem fits_natural {n : UInt64} : (natural n).Fits limit :=
  List.forall_mem_singleton.mpr trivial

/-- The events of items are those of one of them. -/
theorem forall_mem_itemEvents {fmt : Format} {P : Event → Prop} {items : List Document} :
    (∀ e ∈ itemEvents fmt items, P e) ↔ ∀ d ∈ items, ∀ e ∈ d.events fmt, P e := by
  induction items with
  | nil => simp [itemEvents]
  | cons d items ih => rw [itemEvents, List.forall_mem_append, ih, List.forall_mem_cons]

theorem forall_mem_memberEvents {fmt : Format} {P : Event → Prop}
    {members : List (String × Document)} : (∀ e ∈ memberEvents fmt members, P e) ↔
      ∀ m ∈ members, P (.text m.1) ∧ ∀ e ∈ m.2.events fmt, P e := by
  induction members with
  | nil => simp [memberEvents]
  | cons m members ih =>
    obtain ⟨name, d⟩ := m
    rw [memberEvents, List.forall_mem_cons, List.forall_mem_append, ih, List.forall_mem_cons,
      and_assoc]

@[simp] theorem fits_seq {items : List Document} : (seq items).Fits limit ↔
    items.length < UInt64.size ∧ ∀ d ∈ items, d.Fits limit := by
  rw [Fits, events, closing, List.append_nil, List.forall_mem_cons, forall_mem_itemEvents]
  rfl

@[simp] theorem fits_record {members : List (String × Document)} :
    (record members).Fits limit ↔ members.length < UInt64.size ∧
      ∀ m ∈ members, m.1.utf8ByteSize < limit ∧ m.2.Fits limit := by
  rw [Fits, events, closing, List.append_nil, List.forall_mem_cons, forall_mem_memberEvents]
  rfl

end Document

namespace Cbor

variable {kind : Kind} {n : ℕ} {b rest : Bytes}

/-! ## Heads -/

theorem splitExactly?_append (h : b.length = n) (rest : Bytes) :
    splitExactly? n (b ++ rest) = some (b, rest) := by
  rw [splitExactly?, List.take_left' h, List.drop_left' h, if_pos h]

theorem number?_ofNat {size : ℕ} (h : n < 256 ^ size) (rest : Bytes) :
    number? size (Bytes.ofNat size n ++ rest) = some (some n, rest) := by
  have hvalue : Bytes.toNat (Bytes.ofNat size n) = n := by
    rw [Bytes.toNat_ofNat, Nat.mod_eq_of_lt h]
  rw [number?, splitExactly?_append (Bytes.length_ofNat size n)]
  exact congrArg (fun word => some (some word, rest)) hvalue

/-- The first byte of a head tells its kind and its low bits. -/
theorem head?_cons {low : ℕ} (kind : Kind) (hlow : low < 32) (b : Bytes) :
    head? (UInt8.ofNat (kind.number * 32 + low) :: b) =
      (argument? low b).map fun (argument, rest) => ({ kind, low, argument }, rest) := by
  have hkind : kind.number < 8 := by cases kind <;> decide
  have hnumber : Kind.ofNumber kind.number = kind := by cases kind <;> rfl
  have hbyte : (UInt8.ofNat (kind.number * 32 + low)).toNat = kind.number * 32 + low := by
    rw [UInt8.toNat_ofNat']
    omega
  have hmod : (kind.number * 32 + low) % 32 = low := by omega
  have hdiv : (kind.number * 32 + low) / 32 = kind.number := by omega
  simp only [head?, hbyte, hmod, hdiv, hnumber]

/-- The low bits of a head may announce an argument on some bytes behind the first. -/
theorem head?_wide {low size : ℕ} (kind : Kind) (hlow : low < 32)
    (hargument : ∀ b, argument? low b = number? size b) (h : n < 256 ^ size) (rest : Bytes) :
    head? (UInt8.ofNat (kind.number * 32 + low) :: Bytes.ofNat size n ++ rest) =
      some ({ kind, low, argument := some n }, rest) := by
  rw [List.cons_append, head?_cons kind hlow, hargument, number?_ofNat h]
  rfl

/-- **A head is read back** with its argument. The low bits say how the argument was written, which
is of no account for any kind but the simple ones. -/
theorem exists_head?_head (kind : Kind) (h : n < UInt64.size) (rest : Bytes) :
    ∃ low, head? (head kind n ++ rest) = some ({ kind, low, argument := some n }, rest) := by
  rw [head]
  split
  case isTrue hn =>
    refine ⟨n, ?_⟩
    rw [List.singleton_append, head?_cons kind (by omega), argument?, if_pos hn]
    rfl
  split
  case isTrue hn => exact ⟨24, head?_wide kind (by decide) (fun _ => by simp [argument?]) hn rest⟩
  split
  case isTrue hn => exact ⟨25, head?_wide kind (by decide) (fun _ => by simp [argument?]) hn rest⟩
  split
  case isTrue hn => exact ⟨26, head?_wide kind (by decide) (fun _ => by simp [argument?]) hn rest⟩
  case isFalse => exact ⟨27, head?_wide kind (by decide) (fun _ => by simp [argument?]) h rest⟩

/-! ## Events -/

/-- The bytes that are written for an event. The events of written documents carry every count. -/
def write : Event → Bytes
  | .text s => head .text (Bytes.ofText s).length ++ Bytes.ofText s
  | .bytes b => head .bytes b.length ++ b
  | .natural n => head .natural n.toNat
  | .openSeq (some n) => head .seq n
  | .openRecord (some n) => head .record n
  | _ => []

/-- The mark on a string of some length that is read. -/
def mark (length : ℕ) : List Event := if length ≤ longestKey then [] else [.unwieldy]

/-- An event as it is read, with the mark on its string. -/
def marked : Event → List Event
  | .text s => mark (Bytes.ofText s).length ++ [.text s]
  | .bytes b => mark b.length ++ [.bytes b]
  | e => [e]

@[simp] theorem marked_natural {n : UInt64} : marked (.natural n) = [.natural n] := rfl

@[simp] theorem marked_openRecord {count : Option ℕ} :
    marked (.openRecord count) = [.openRecord count] := rfl

theorem marked_eq {e : Event} (h : e.Fits (longestKey + 1)) : marked e = [e] := by
  have hmark : ∀ length < longestKey + 1, mark length = [] := fun length hlength =>
    if_pos (Nat.le_of_lt_succ hlength)
  cases e with
  | text s => rw [marked, Bytes.length_ofText, hmark _ h, List.nil_append]
  | bytes b => rw [marked, hmark _ h, List.nil_append]
  | _ => rfl

theorem string?_append {room low : ℕ} (kind : Kind) (b rest : Bytes) :
    string? room { kind, low, argument := some b.length } (b ++ rest) =
      some (mark b.length, [b], rest) := by
  simp only [string?, splitExactly?_append rfl]
  rfl

/-- **A written event is read back**, whatever stands behind it. -/
theorem item?_write {e : Event} (h : e.Fits UInt64.size) (room : ℕ) (rest : Bytes) :
    item? room (write e ++ rest) = some (marked e, rest) := by
  cases e with
  | text s =>
    have hlength : (Bytes.ofText s).length < UInt64.size := (Bytes.length_ofText s).trans_lt h
    obtain ⟨low, hhead⟩ := exists_head?_head .text hlength (Bytes.ofText s ++ rest)
    rw [write, List.append_assoc, item?, hhead]
    simp [string?_append, Bytes.toText?_ofText, marked, String.join]
  | bytes b =>
    obtain ⟨low, hhead⟩ := exists_head?_head .bytes h (b ++ rest)
    rw [write, List.append_assoc, item?, hhead]
    simp [string?_append, marked]
  | natural n =>
    obtain ⟨low, hhead⟩ := exists_head?_head .natural n.toNat_lt rest
    rw [write, item?, hhead]
    simp [marked]
  | openSeq count =>
    cases count with
    | none => exact h.elim
    | some n =>
      obtain ⟨low, hhead⟩ := exists_head?_head .seq h rest
      rw [write, item?, hhead]
      rfl
  | openRecord count =>
    cases count with
    | none => exact h.elim
    | some n =>
      obtain ⟨low, hhead⟩ := exists_head?_head .record h rest
      rw [write, item?, hhead]
      rfl
  | _ => exact h.elim

theorem write_append_ne_nil {e : Event} (h : e.Fits UInt64.size) (rest : Bytes) :
    write e ++ rest ≠ [] := by
  intro hnil
  have hread := item?_write h 0 rest
  rw [hnil] at hread
  cases hread

/-- Events that are written one after the other are read one after the other. -/
theorem eventsFrom_write {es : List Event} (h : ∀ e ∈ es, e.Fits UInt64.size) {room : ℕ}
    (hroom : es.length ≤ room) : eventsFrom room (es.flatMap write) = es.flatMap marked := by
  induction es generalizing room with
  | nil => cases room <;> rfl
  | cons e es ih =>
    obtain ⟨he, hes⟩ := List.forall_mem_cons.mp h
    rw [List.length_cons] at hroom
    cases room with
    | zero => exact absurd hroom (Nat.not_succ_le_zero _)
    | succ room =>
      rw [List.flatMap_cons, List.flatMap_cons, eventsFrom, item?_write he room]
      · exact congrArg (marked e ++ ·) (ih hes (Nat.le_of_succ_le_succ hroom))
      · exact write_append_ne_nil he _

theorem length_le_length_write {es : List Event} (h : ∀ e ∈ es, e.Fits UInt64.size) :
    es.length ≤ (es.flatMap write).length := by
  induction es with
  | nil => exact Nat.le_refl 0
  | cons e es ih =>
    obtain ⟨he, hes⟩ := List.forall_mem_cons.mp h
    have hpos : 0 < (write e).length := by
      rw [← List.append_nil (write e)]
      exact List.length_pos_iff.mpr (write_append_ne_nil he [])
    have hrest := ih hes
    rw [List.flatMap_cons, List.length_append, List.length_cons]
    omega

/-! ## Documents -/

mutual

/-- A document is written event by event. -/
theorem encode_eq (d : Document) : encode d = (d.events .cbor).flatMap write := by
  match d with
  | .text s => simp only [encode, Document.events, List.flatMap_singleton, write]
  | .bytes b => simp only [encode, Document.events, Document.leaf, List.flatMap_singleton, write]
  | .natural n => simp only [encode, Document.events, List.flatMap_singleton, write]
  | .seq items =>
    simp only [encode, Document.events, Document.counted, Document.closing, List.append_nil,
      List.flatMap_cons, write, encodeItems_eq]
  | .record members =>
    simp only [encode, Document.events, Document.counted, Document.closing, List.append_nil,
      List.flatMap_cons, write, encodeMembers_eq]

theorem encodeItems_eq (items : List Document) :
    encodeItems items = (Document.itemEvents .cbor items).flatMap write := by
  match items with
  | [] => rfl
  | d :: items =>
    rw [encodeItems, Document.itemEvents, List.flatMap_append, encode_eq, encodeItems_eq]

theorem encodeMembers_eq (members : List (String × Document)) :
    encodeMembers members = (Document.memberEvents .cbor members).flatMap write := by
  match members with
  | [] => rfl
  | (name, d) :: members =>
    rw [encodeMembers, Document.memberEvents, List.flatMap_cons, List.flatMap_append, encode_eq,
      encodeMembers_eq, write]

end

/-- **The bytes of a document** have its events, with marks on the strings that are too long for a
key. -/
theorem events_encode {d : Document} (h : d.Fits UInt64.size) :
    events (encode d) = (d.events .cbor).flatMap marked := by
  rw [events, encode_eq]
  exact eventsFrom_write h (length_le_length_write h)

/-- A document of short strings is read without a mark. -/
theorem events_encode_of_short {d : Document} (h : d.Fits (longestKey + 1)) :
    events (encode d) = d.events .cbor := by
  have hfits : d.Fits UInt64.size := fun e he => (h e he).mono (by decide)
  have hmarked : ∀ es : List Event, (∀ e ∈ es, e.Fits (longestKey + 1)) →
      es.flatMap marked = es := by
    intro es hes
    induction es with
    | nil => rfl
    | cons e es ih =>
      obtain ⟨he, hes⟩ := List.forall_mem_cons.mp hes
      rw [List.flatMap_cons, marked_eq he, ih hes, List.singleton_append]
  rw [events_encode hfits, hmarked _ h]

end Cbor

end GroupSignal
