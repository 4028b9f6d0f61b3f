import GroupSignal.Json.Event
import GroupSignal.Proofs.Document.Reading
import GroupSignal.Proofs.Json.Cutting

/-!
# Tokens are arranged as events

A token that stands where it may makes a move: it becomes an event, or none, and another place is
behind it. The place and the event of a move tell which token made it, except that an atom may come
from several tokens, and so documents without atoms have the same events only if they have the same
tokens. The tokens of a document become its events, and the place behind it is as if it were not
there.

## Main definitions

* `Move`: what a token does at a place

## Main results

* `arrange_inj`: different tokens have different events
* `Document.events_compact`: the events of a document that is written without blanks
* `Document.events_eq_iff`: the texts that have the events of a document
-/

namespace GroupSignal

namespace Json

/-! ## Moves -/

def Place.TakesItem (place : Place) : Prop := place = .item ∨ place = .firstItem

def Place.TakesKey (place : Place) : Prop := place = .key ∨ place = .firstKey

/-- What a token does at a place: the events that it becomes, and the place behind it. -/
inductive Move : Place → List Bracket → Token → List Event → Place → List Bracket → Prop
  | endSeq {place : Place} {open' : List Bracket} (h : place = .firstItem ∨ place = .behind) :
    Move place (.seq :: open') .closeSeq [.close] .behind open'
  | endRecord {place : Place} {open' : List Bracket} (h : place = .firstKey ∨ place = .behind) :
    Move place (.record :: open') .closeRecord [.close] .behind open'
  | nextItem {open' : List Bracket} :
    Move .behind (.seq :: open') .comma [] .item (.seq :: open')
  | nextKey {open' : List Bracket} :
    Move .behind (.record :: open') .comma [] .key (.record :: open')
  | key {place : Place} {open' : List Bracket} (h : place.TakesKey) (s : String) :
    Move place open' (.text s) [.text s] .colon open'
  | halfKey {place : Place} {open' : List Bracket} (h : place.TakesKey) :
    Move place open' .halfText [.atom] .colon open'
  | value {open' : List Bracket} : Move .colon open' .colon [] .item open'
  | text {place : Place} {open' : List Bracket} (h : place.TakesItem) (s : String) :
    Move place open' (.text s) [.text s] .behind open'
  | natural {place : Place} {open' : List Bracket} (h : place.TakesItem) (n : UInt64) :
    Move place open' (.natural n) [.natural n] .behind open'
  | halfText {place : Place} {open' : List Bracket} (h : place.TakesItem) :
    Move place open' .halfText [.atom] .behind open'
  | atom {place : Place} {open' : List Bracket} (h : place.TakesItem) :
    Move place open' .atom [.atom] .behind open'
  | openSeq {place : Place} {open' : List Bracket} (h : place.TakesItem) :
    Move place open' .openSeq [.openSeq none] .firstItem (.seq :: open')
  | openRecord {place : Place} {open' : List Bracket} (h : place.TakesItem) :
    Move place open' .openRecord [.openRecord none] .firstKey (.record :: open')

/-- A token makes its move, or there is no document from here on. -/
theorem arrange_cons (place : Place) (open' : List Bracket) (t : Token) (ts : List Token) :
    arrange place open' (t :: ts) = [.broken] ∨ ∃ es place' open'',
      Move place open' t es place' open'' ∧
        arrange place open' (t :: ts) = es ++ arrange place' open'' ts := by
  have hitem : place ≠ .behind → place ≠ .colon → place ≠ .key → place ≠ .firstKey →
      place.TakesItem := by
    cases place <;> simp [Place.TakesItem]
  generalize hts : t :: ts = all
  -- One case for each line of the definition, and for each case its own move, or the broken end.
  fun_cases arrange place open' all <;> cases hts
  all_goals first
    | exact .inl rfl
    | exact .inr ⟨_, _, _, .endSeq (by simp), rfl⟩
    | exact .inr ⟨_, _, _, .endRecord (by simp), rfl⟩
    | exact .inr ⟨_, _, _, .nextItem, rfl⟩
    | exact .inr ⟨_, _, _, .nextKey, rfl⟩
    | exact .inr ⟨_, _, _, .value, rfl⟩
    | exact .inr ⟨_, _, _, .key (.inl rfl) _, rfl⟩
    | exact .inr ⟨_, _, _, .key (.inr rfl) _, rfl⟩
    | exact .inr ⟨_, _, _, .halfKey (.inl rfl), rfl⟩
    | exact .inr ⟨_, _, _, .halfKey (.inr rfl), rfl⟩
    | exact .inr ⟨_, _, _, .text (hitem ‹_› ‹_› ‹_› ‹_›) _, rfl⟩
    | exact .inr ⟨_, _, _, .natural (hitem ‹_› ‹_› ‹_› ‹_›) _, rfl⟩
    | exact .inr ⟨_, _, _, .halfText (hitem ‹_› ‹_› ‹_› ‹_›), rfl⟩
    | exact .inr ⟨_, _, _, .atom (hitem ‹_› ‹_› ‹_› ‹_›), rfl⟩
    | exact .inr ⟨_, _, _, .openSeq (hitem ‹_› ‹_› ‹_› ‹_›), rfl⟩
    | exact .inr ⟨_, _, _, .openRecord (hitem ‹_› ‹_› ‹_› ‹_›), rfl⟩

variable {place : Place} {open' : List Bracket} {ts : List Token} {e : Event} {es : List Event}

theorem exists_move (h : arrange place open' ts = e :: es) (hbroken : e ≠ .broken) :
    ∃ t ts' es' place' open'', ts = t :: ts' ∧ Move place open' t es' place' open'' ∧
      es' ++ arrange place' open'' ts' = e :: es := by
  cases ts with
  | nil =>
    rw [arrange] at h
    grind
  | cons t ts =>
    obtain hend | ⟨es', place', open'', hmove, heq⟩ := arrange_cons place open' t ts
    · rw [hend] at h
      exact absurd (List.cons.inj h).1.symm hbroken
    · exact ⟨t, ts, es', place', open'', rfl, hmove, heq ▸ h⟩

/-- Behind a comma no brackets end. -/
theorem arrange_ne_close (hplace : place = .item ∨ place = .key) :
    arrange place open' ts ≠ .close :: es := by
  intro h
  obtain ⟨t, ts', es', place', open'', rfl, hmove, heq⟩ := exists_move h nofun
  cases hmove with
  | endSeq h | endRecord h => rcases hplace with rfl | rfl <;> cases h
  | nextItem | nextKey | value => cases hplace <;> contradiction
  | _ => cases heq

/-- At one place two tokens make the same move if they become the same events, unless these are
atoms. -/
theorem Move.eq {t₁ t₂ : Token} {es₁ es₂ : List Event} {place₁ place₂ : Place}
    {open₁ open₂ : List Bracket} {ts₁ ts₂ : List Token} (h₁ : Move place open' t₁ es₁ place₁ open₁)
    (h₂ : Move place open' t₂ es₂ place₂ open₂) (hatom : .atom ∉ es₁)
    (heq : es₁ ++ arrange place₁ open₁ ts₁ = es₂ ++ arrange place₂ open₂ ts₂) :
    t₁ = t₂ ∧ es₁ = es₂ ∧ place₁ = place₂ ∧ open₁ = open₂ := by
  -- Two moves differ in their place or in their event, but for a comma and a closing bracket.
  cases h₁ <;> cases h₂ <;> simp_all [Place.TakesItem, Place.TakesKey]
  case endSeq.nextItem => exact arrange_ne_close (.inl rfl) heq.symm
  case endRecord.nextKey => exact arrange_ne_close (.inr rfl) heq.symm
  case nextItem.endSeq => exact arrange_ne_close (.inl rfl) heq
  case nextKey.endRecord => exact arrange_ne_close (.inr rfl) heq
  case key.text hitem hkey => rcases hitem with rfl | rfl <;> cases hkey <;> contradiction
  case text.key hitem hkey => rcases hitem with rfl | rfl <;> cases hkey <;> contradiction

theorem arrange_nil (place : Place) (open' : List Bracket) :
    arrange place open' [] = [] ∨ arrange place open' [] = [.broken] := by
  rw [arrange]
  split
  · exact .inl rfl
  · exact .inr rfl

/-- No events are left behind a document alone. -/
theorem eq_nil_of_arrange_eq_nil (h : arrange place open' ts = []) : place = .behind ∧ ts = [] := by
  induction ts generalizing place open' with
  | nil =>
    rw [arrange] at h
    split at h
    case isTrue hend => exact ⟨hend.1, rfl⟩
    case isFalse => cases h
  | cons t ts ih =>
    obtain hend | ⟨es, place', open'', hmove, heq⟩ := arrange_cons place open' t ts
    · rw [hend] at h
      cases h
    · rw [heq] at h
      obtain ⟨rfl, hrest⟩ := List.append_eq_nil_iff.mp h
      -- A token that becomes no event has an item or a key behind it.
      obtain ⟨rfl, -⟩ := ih hrest
      cases hmove

/-- **Different tokens have different events**, as long as they make a document without atoms. -/
theorem arrange_inj {ts₁ ts₂ : List Token} (heq : arrange place open' ts₁ = arrange place open' ts₂)
    (hatom : .atom ∉ arrange place open' ts₁) (hbroken : .broken ∉ arrange place open' ts₁) :
    ts₁ = ts₂ := by
  induction ts₁ generalizing place open' ts₂ with
  | nil =>
    cases ts₂ with
    | nil => rfl
    | cons t ts =>
      obtain hnil | hend := arrange_nil place open'
      · rw [hnil] at heq
        cases (eq_nil_of_arrange_eq_nil heq.symm).2
      · simp [hend] at hbroken
  | cons t₁ ts₁ ih =>
    cases ts₂ with
    | nil =>
      obtain hnil | hend := arrange_nil place open'
      · rw [hnil] at heq
        exact (eq_nil_of_arrange_eq_nil heq).2
      · simp [heq, hend] at hbroken
    | cons t₂ ts₂ =>
      obtain hend | ⟨es₁, place₁, open₁, h₁, heq₁⟩ := arrange_cons place open' t₁ ts₁
      · simp [hend] at hbroken
      obtain hend | ⟨es₂, place₂, open₂, h₂, heq₂⟩ := arrange_cons place open' t₂ ts₂
      · simp [heq, hend] at hbroken
      rw [heq₁] at hatom hbroken
      rw [heq₁, heq₂] at heq
      rw [List.mem_append, not_or] at hatom hbroken
      -- The first tokens are the same and lead to the same place, where the rest follows.
      obtain ⟨rfl, rfl, rfl, rfl⟩ := h₁.eq h₂ hatom.1 heq
      rw [ih (List.append_cancel_left heq) hatom.2 hbroken.2]

theorem Move.inJson {t : Token} {es : List Event} {place' : Place} {open'' : List Bracket}
    (h : Move place open' t es place' open'') : ∀ e ∈ es, e.InJson := by
  cases h <;> simp [Event.InJson]

theorem inJson_of_mem_arrange (h : e ∈ arrange place open' ts) : e.InJson := by
  induction ts generalizing place open' with
  | nil =>
    obtain hend | hend := arrange_nil place open' <;> rw [hend] at h
    · cases h
    · rw [List.mem_singleton.mp h]
      trivial
  | cons t ts ih =>
    obtain hend | ⟨es, place', open'', hmove, heq⟩ := arrange_cons place open' t ts
    · rw [hend] at h
      rw [List.mem_singleton.mp h]
      trivial
    · rw [heq] at h
      exact (List.mem_append.mp h).elim (hmove.inJson e) ih

end Json

namespace Document

open Json

/-! ## Documents -/

mutual

/-- An item may be the first of a sequence, as no item begins with a closing bracket. -/
theorem arrange_tokens {place : Place} (hplace : place = .item ∨ place = .firstItem)
    (open' : List Bracket) (ts : List Token) (d : Document) :
    arrange place open' (d.tokens ++ ts) = d.events .json ++ arrange .behind open' ts := by
  match d with
  | text s => rcases hplace with rfl | rfl <;> rfl
  | bytes b => rcases hplace with rfl | rfl <;> rfl
  | natural n => rcases hplace with rfl | rfl <;> rfl
  | seq items =>
    have hitems := arrange_itemTokens items (.inr rfl) open' ts
    simp only [tokens, events, counted, closing, List.cons_append, List.append_assoc,
      List.nil_append]
    rw [← hitems]
    rcases hplace with rfl | rfl <;> simp only [arrange]
  | record members =>
    have hmembers := arrange_memberTokens members (.inr rfl) open' ts
    simp only [tokens, events, counted, closing, List.cons_append, List.append_assoc,
      List.nil_append]
    rw [← hmembers]
    rcases hplace with rfl | rfl <;> simp only [arrange]

/-- The items of a sequence, which may be missing where it has just begun. -/
theorem arrange_itemTokens {place : Place} (items : List Document)
    (hplace : place = .item ∧ items ≠ [] ∨ place = .firstItem) (open' : List Bracket)
    (ts : List Token) :
    arrange place (.seq :: open') (itemTokens items ++ .closeSeq :: ts) =
      itemEvents .json items ++ .close :: arrange .behind open' ts := by
  match items with
  | [] =>
    obtain ⟨-, hne⟩ | rfl := hplace
    · exact absurd rfl hne
    · simp only [itemTokens, itemEvents, List.nil_append, arrange]
  | [d] =>
    have hitem : place = .item ∨ place = .firstItem := hplace.imp_left And.left
    rw [itemTokens, arrange_tokens hitem, itemEvents, itemEvents, List.append_nil]
    simp only [arrange]
  | d :: d' :: items =>
    have hitem : place = .item ∨ place = .firstItem := hplace.imp_left And.left
    -- Behind the comma there are more items, so the sequence does not end there.
    have hitems := arrange_itemTokens _ (.inl ⟨rfl, List.cons_ne_nil d' items⟩) open' ts
    rw [itemEvents, List.append_assoc, ← hitems]
    simp only [itemTokens, List.append_assoc, List.cons_append]
    rw [arrange_tokens hitem]
    simp only [arrange]

/-- The members of a record, which may be missing where it has just begun. -/
theorem arrange_memberTokens {place : Place} (members : List (String × Document))
    (hplace : place = .key ∧ members ≠ [] ∨ place = .firstKey) (open' : List Bracket)
    (ts : List Token) :
    arrange place (.record :: open') (memberTokens members ++ .closeRecord :: ts) =
      memberEvents .json members ++ .close :: arrange .behind open' ts := by
  -- A name is a key at either place, and the item behind its colon is never the first.
  have hkey : ∀ name ts, arrange place (.record :: open') (.text name :: .colon :: ts) =
      .text name :: arrange .item (.record :: open') ts := fun name ts => by
    obtain ⟨rfl, -⟩ | rfl := hplace <;> simp only [arrange]
  match members with
  | [] =>
    obtain ⟨-, hne⟩ | rfl := hplace
    · exact absurd rfl hne
    · simp only [memberTokens, memberEvents, List.nil_append, arrange]
  | [(name, d)] =>
    simp only [memberTokens, memberEvents, List.cons_append, List.append_nil]
    rw [hkey, arrange_tokens (.inl rfl)]
    simp only [arrange]
  | (name, d) :: member :: members =>
    have hmembers := arrange_memberTokens _ (.inl ⟨rfl, List.cons_ne_nil member members⟩) open' ts
    rw [memberEvents, List.cons_append, List.append_assoc, ← hmembers]
    simp only [memberTokens, List.append_assoc, List.cons_append]
    rw [hkey, arrange_tokens (.inl rfl)]
    simp only [arrange]

end

/-- **A document** that is written without blanks has its own events. -/
theorem events_compact (d : Document) : Json.events (compact d) = d.events .json := by
  have h := arrange_tokens (.inl rfl) [] [] d
  rw [List.append_nil] at h
  rw [Json.events, tokens_compact, h]
  exact List.append_nil _

mutual

theorem not_mem_events (fmt : Format) (d : Document) :
    .atom ∉ d.events fmt ∧ .broken ∉ d.events fmt := by
  match d with
  | text s => simp [events]
  | bytes b => cases fmt <;> simp [events, leaf]
  | natural n => simp [events]
  | seq items =>
    have hitems := not_mem_itemEvents fmt items
    cases fmt <;> simpa [events, closing] using hitems
  | record members =>
    have hmembers := not_mem_memberEvents fmt members
    cases fmt <;> simpa [events, closing] using hmembers

theorem not_mem_itemEvents (fmt : Format) (items : List Document) :
    .atom ∉ itemEvents fmt items ∧ .broken ∉ itemEvents fmt items := by
  match items with
  | [] => simp [itemEvents]
  | d :: items =>
    have hd := not_mem_events fmt d
    have hitems := not_mem_itemEvents fmt items
    simp [itemEvents, hd, hitems]

theorem not_mem_memberEvents (fmt : Format) (members : List (String × Document)) :
    .atom ∉ memberEvents fmt members ∧ .broken ∉ memberEvents fmt members := by
  match members with
  | [] => simp [memberEvents]
  | (name, d) :: members =>
    have hd := not_mem_events fmt d
    have hmembers := not_mem_memberEvents fmt members
    simp [memberEvents, hd, hmembers]

end

/-- **A text has the events of a document** if and only if it has its tokens. -/
theorem events_eq_iff {s : String} {d : Document} :
    Json.events s = d.events .json ↔ Json.tokens s = d.tokens := by
  have hd : arrange .item [] d.tokens = d.events .json := by
    rw [← events_compact, Json.events, tokens_compact]
  rw [← hd]
  refine ⟨fun h => (arrange_inj h.symm ?_ ?_).symm, fun h => by rw [Json.events, h]⟩
  · exact hd ▸ (not_mem_events .json d).1
  · exact hd ▸ (not_mem_events .json d).2

end Document

end GroupSignal
