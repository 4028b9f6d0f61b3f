import GroupSignal.Json.Token
import GroupSignal.Json.Writer
import GroupSignal.Proofs.Numeral.Digits

/-!
# A written text is cut into what it was written from

Every token that the writer writes is cut off whole, whatever stands behind it. Texts end at their
closing quote, as the escapes hide every other one; numbers end where no digit, fraction or exponent
follows, which is so in front of commas, closing brackets and the end.

## Main definitions

* `Cut`: characters and the tokens that they are cut into
* `Document.tokens`: the tokens of a document

## Main results

* `Cut.tokens_eq`: the tokens of a text
* `token?_quoted`, `token?_numeral`: texts and numbers are cut off whole
* `tokens_compact`: the tokens of a document that is written without blanks
-/

namespace GroupSignal

namespace Json

variable {c : Char} {cs rest : List Char} {t : Token} {ts : List Token}

/-! ## Cutting -/

/-- The characters are cut into the tokens, with blanks between them. -/
inductive Cut : List Char → List Token → Prop
  | nil : Cut [] []
  | blank {c : Char} {cs : List Char} {ts : List Token} (hblank : isBlank c = true)
    (hrest : Cut cs ts) : Cut (c :: cs) ts
  | token {c : Char} {cs rest : List Char} {t : Token} {ts : List Token}
    (hblank : isBlank c = false) (htoken : token? (c :: (cs ++ rest)) = some (t, rest))
    (hrest : Cut rest ts) : Cut (c :: (cs ++ rest)) (t :: ts)

theorem Cut.tokensFrom_eq (h : Cut cs ts) {room : ℕ} (hroom : cs.length ≤ room) :
    tokensFrom room cs = ts := by
  -- A token has one character at least, so room for as many tokens as characters is enough.
  induction h generalizing room with
  | nil => cases room <;> rfl
  | @blank c cs ts hblank _ ih =>
    cases room with
    | zero => exact absurd hroom (Nat.not_succ_le_zero _)
    | succ room =>
      rw [tokensFrom, List.dropWhile_cons_of_pos hblank, ← ih (Nat.le_of_succ_le hroom), tokensFrom]
  | @token c cs rest t ts hblank htoken _ ih =>
    cases room with
    | zero => exact absurd hroom (Nat.not_succ_le_zero _)
    | succ room =>
      rw [List.length_cons, List.length_append] at hroom
      rw [tokensFrom, List.dropWhile_cons_of_neg (by simp [hblank])]
      simp only [htoken]
      rw [ih (by omega)]

/-- A text has the tokens that its characters are cut into. -/
theorem Cut.tokens_eq (h : Cut cs ts) : tokens (String.ofList cs) = ts := by
  rw [tokens, String.toList_ofList, String.length_ofList]
  exact h.tokensFrom_eq (Nat.le_refl _)

/-! ## Texts -/

/-- How a character stands between quotes, and the piece that is read there. -/
inductive Escaped (c : Char) : List Char → Piece → Prop
  | short {e : Char} (hunit : e ≠ 'u') (hshort : shortEscape? e = some c) :
    Escaped c ['\\', e] (.char c)
  | unit {a b : Char} (hvalue : codeUnit? '0' '0' a b = some c.toNat) (hwhole : c.toNat < 0xD800) :
    Escaped c ['\\', 'u', '0', '0', a, b] (.unit c.toNat)
  | plain (hquote : c ≠ '"') (hslash : c ≠ '\\') (hvisible : ¬ c < ' ') : Escaped c [c] (.char c)

theorem exists_escaped (c : Char) : ∃ p, Escaped c (escape c) p := by
  rw [escape.eq_def]
  split
  iterate 7 exact ⟨_, .short (by decide) rfl⟩
  next hquote hslash _ _ _ _ _ =>
    split
    case isTrue hcontrol =>
      have hlt : c.toNat < 32 := hcontrol
      -- The remaining control characters have two digits behind `00`.
      have hall : ∀ n < 32, codeUnit? '0' '0' (Nat.digitChar (n / 16)) (Nat.digitChar (n % 16)) =
          some n := by
        decide
      have hbyte : (UInt8.ofNat c.toNat).toNat = c.toNat := by
        rw [UInt8.toNat_ofNat']
        omega
      refine ⟨.unit c.toNat, ?_⟩
      rw [Hex.digits, hbyte]
      exact .unit (hall _ hlt) (by omega)
    case isFalse hvisible => exact ⟨_, .plain hquote hslash hvisible⟩

namespace Escaped

variable {chars : List Char} {p : Piece}

theorem pieces?_append (h : Escaped c chars p) (rest : List Char) :
    pieces? (chars ++ rest) = (pieces? rest).map fun (ps, rest) => (p :: ps, rest) := by
  cases h with
  | short hunit hshort =>
    rw [List.cons_append, List.singleton_append, pieces?, hshort]
    · cases pieces? rest <;> rfl
    · grind
  | unit hvalue _ =>
    show pieces? ('\\' :: 'u' :: '0' :: '0' :: _ :: _ :: rest) = _
    rw [pieces?, hvalue]
    cases pieces? rest <;> rfl
  | plain hquote hslash hvisible =>
    rw [List.singleton_append, pieces?, if_neg hvisible]
    · cases pieces? rest <;> rfl
    all_goals grind

theorem characters?_cons (h : Escaped c chars p) (ps : List Piece) :
    characters? (p :: ps) = (characters? ps).map (c :: ·) := by
  cases h with
  | short | plain => rw [characters?]
  | unit _ hwhole =>
    have hhigh : isHighHalf c.toNat = false := by
      rw [isHighHalf]
      grind
    have hlow : isLowHalf c.toNat = false := by
      rw [isLowHalf]
      grind
    -- A unit in front is no half of a pair, so the unit behind it stays where it is.
    match ps with
    | [] | .char _ :: _ => simp [characters?, hhigh, hlow, Char.ofNat_toNat]
    | .unit m :: ps => simp [characters?, hhigh, hlow, Char.ofNat_toNat]

end Escaped

/-- A quoted text is read up to its closing quote, and has its characters as value. -/
theorem exists_pieces? (cs rest : List Char) : ∃ ps,
    pieces? (cs.flatMap escape ++ '"' :: rest) = some (ps, rest) ∧ characters? ps = some cs := by
  -- Induction on the characters, each of which is one piece and gives itself back.
  induction cs with
  | nil => exact ⟨[], rfl, rfl⟩
  | cons c cs ih =>
    obtain ⟨ps, hpieces, hvalue⟩ := ih
    obtain ⟨p, hp⟩ := exists_escaped c
    refine ⟨p :: ps, ?_, ?_⟩
    · rw [List.flatMap_cons, List.append_assoc, hp.pieces?_append, hpieces]
      rfl
    · rw [hp.characters?_cons, hvalue]
      rfl

/-- **A text** is cut off whole. -/
theorem token?_quoted (s : String) (rest : List Char) :
    token? (quoted s ++ rest) = some (.text s, rest) := by
  obtain ⟨ps, hpieces, hvalue⟩ := exists_pieces? s.toList rest
  rw [quoted, List.cons_append, List.append_assoc, List.singleton_append, token?, hpieces]
  show some (textToken ps, rest) = _
  rw [textToken, hvalue]
  show some (Token.text (String.ofList s.toList), rest) = _
  rw [String.ofList_toList]

/-! ## Numbers -/

/-- The characters behind a number that ends there: a comma, a closing bracket, or none. -/
def Ends (rest : List Char) : Prop := ∀ c ∈ rest.head?, c = ',' ∨ c = ']' ∨ c = '\x7d'

theorem splitDigits_append (hdigits : ∀ c ∈ cs, c.isDigit = true) (hrest : Ends rest) :
    splitDigits (cs ++ rest) = (cs, rest) := by
  have hstop : rest.takeWhile Char.isDigit = [] ∧ rest.dropWhile Char.isDigit = rest := by
    cases rest with
    | nil => exact ⟨rfl, rfl⟩
    | cons c rest =>
      have hc : c.isDigit = false := by rcases hrest c rfl with rfl | rfl | rfl <;> rfl
      simp [hc]
  rw [splitDigits, List.takeWhile_append_of_pos hdigits, List.dropWhile_append_of_pos hdigits,
    hstop.1, hstop.2, List.append_nil]

theorem decimal_toDigits (n : ℕ) : decimal (Nat.toDigits 10 n) = n := by
  have hfold : decimal (Nat.toDigits 10 n) = Nat.ofDigitChars 10 (Nat.toDigits 10 n) 0 := by
    simp only [decimal, Nat.ofDigitChars_eq_foldl, Nat.mul_comm]
    rfl
  rw [hfold, Nat.ofDigitChars_ten_toDigits]

theorem exists_numeral_eq_cons (n : UInt64) : ∃ c cs, numeral n = c :: cs ∧ c.isDigit = true := by
  obtain ⟨c, cs, hcs⟩ := List.exists_cons_of_ne_nil (Nat.toDigits_ne_nil (b := 10) (n := n.toNat))
  exact ⟨c, cs, hcs, Nat.isDigit_of_mem_toDigits (b := 10) (n := n.toNat) (by decide) (by decide)
    (hcs ▸ List.mem_cons_self ..)⟩

theorem wholePart?_numeral (n : UInt64) (hrest : Ends rest) :
    wholePart? (numeral n ++ rest) = some (numeral n, rest) := by
  have hsplit : splitDigits (numeral n ++ rest) = (numeral n, rest) :=
    splitDigits_append (fun c => Nat.isDigit_of_mem_toDigits (by decide) (by decide)) hrest
  obtain ⟨c, cs, hcs, -⟩ := exists_numeral_eq_cons n
  rw [wholePart?, hsplit]
  split
  case h_1 hnil =>
    rw [hcs] at hnil
    cases hnil
  case h_2 hzero =>
    -- Only zero itself begins with a zero, and it has no other digits.
    have hnumeral := congrArg Prod.fst hzero
    obtain hn | hn := Nat.eq_zero_or_pos n.toNat
    · rw [numeral, hn] at hnumeral
      cases hnumeral
    · refine absurd (congrArg List.head? hnumeral) ?_
      exact Numeral.head?_toDigits (by decide) (by decide) hn
  case h_3 heq =>
    cases heq
    rfl

theorem unsigned?_numeral (n : UInt64) (hrest : Ends rest) :
    unsigned? (numeral n ++ rest) = some (.natural n, rest) := by
  -- What ends a number begins no fraction and no exponent.
  have hfraction : fraction? rest = some (false, rest) := by
    rw [fraction?.eq_def]
    split
    · rcases hrest '.' rfl with h | h | h <;> exact absurd h (by decide)
    · rfl
  have hexponent : exponent? rest = some (false, rest) := by
    cases rest with
    | nil => rfl
    | cons c rest =>
      rw [exponent?, if_neg]
      rcases hrest c rfl with rfl | rfl | rfl <;> decide
  have hfits : ¬ UInt64.size ≤ decimal (numeral n) := by
    rw [numeral, decimal_toDigits]
    exact Nat.not_le.mpr n.toNat_lt
  have hvalue : UInt64.ofNat (decimal (numeral n)) = n := by
    rw [numeral, decimal_toDigits, UInt64.ofNat_toNat]
  simp [unsigned?, wholePart?_numeral n hrest, hfraction, hexponent, hfits, hvalue]

theorem token?_of_isDigit (hc : c.isDigit = true) : token? (c :: cs) = unsigned? (c :: cs) := by
  rw [token?.eq_def]
  split
  case h_12 => rfl
  all_goals
    next heq =>
      obtain rfl := (List.cons.inj heq).1
      exact absurd hc (by decide)

theorem isBlank_of_isDigit (hc : c.isDigit = true) : isBlank c = false := by
  refine Bool.eq_false_iff.mpr fun hblank => ?_
  simp only [isBlank, Bool.or_eq_true, decide_eq_true_eq, or_assoc] at hblank
  rcases hblank with rfl | rfl | rfl | rfl <;> exact absurd hc (by decide)

/-! ## Documents -/

namespace Cut

theorem quoted (h : Cut rest ts) (s : String) : Cut (quoted s ++ rest) (.text s :: ts) :=
  .token rfl (token?_quoted s rest) h

/-- **A number** is cut off whole where it ends. -/
theorem numeral (h : Cut rest ts) (hrest : Ends rest) (n : UInt64) :
    Cut (numeral n ++ rest) (.natural n :: ts) := by
  have htoken := unsigned?_numeral n hrest
  obtain ⟨c, cs, hcs, hc⟩ := exists_numeral_eq_cons n
  rw [hcs, List.cons_append, ← token?_of_isDigit hc] at htoken
  rw [hcs]
  exact .token (isBlank_of_isDigit hc) htoken h

/-- A bracket or a separator is cut off. -/
theorem mark (h : Cut rest ts) (hblank : isBlank c = false)
    (htoken : token? (c :: rest) = some (t, rest)) : Cut (c :: rest) (t :: ts) := by
  rw [← List.nil_append rest] at htoken ⊢
  exact .token hblank htoken h

end Cut

end Json

namespace Document

open Json

mutual

/-- The tokens of a document. -/
def tokens : Document → List Token
  | text s => [.text s]
  | bytes b => [.text (Hex.prefixed b)]
  | natural n => [.natural n]
  | seq items => .openSeq :: (itemTokens items ++ [.closeSeq])
  | record members => .openRecord :: (memberTokens members ++ [.closeRecord])

/-- The tokens of items with commas between them. -/
def itemTokens : List Document → List Token
  | [] => []
  | [d] => tokens d
  | d :: rest => tokens d ++ .comma :: itemTokens rest

/-- The tokens of members with commas between them. -/
def memberTokens : List (String × Document) → List Token
  | [] => []
  | [(name, d)] => .text name :: .colon :: tokens d
  | (name, d) :: rest => .text name :: .colon :: (tokens d ++ .comma :: memberTokens rest)

end

variable {rest : List Char} {ts : List Token}

theorem ends_comma : Ends (',' :: rest) := fun _ h => .inl (Option.some.inj h).symm

theorem ends_closeSeq : Ends (']' :: rest) := fun _ h => .inr (.inl (Option.some.inj h).symm)

theorem ends_closeRecord : Ends ('\x7d' :: rest) := fun _ h => .inr (.inr (Option.some.inj h).symm)

mutual

theorem cut_compactChars {rest : List Char} {ts : List Token} (h : Cut rest ts)
    (hrest : Ends rest) (d : Document) : Cut (compactChars d ++ rest) (d.tokens ++ ts) := by
  match d with
  | text s => exact h.quoted s
  | bytes b => exact h.quoted _
  | natural n => exact h.numeral hrest n
  | seq items =>
    -- The closing bracket is behind the last item, which may be a number, and ends it.
    have hclose : Cut (']' :: rest) (.closeSeq :: ts) := h.mark rfl rfl
    have hitems := cut_compactItems hclose ends_closeSeq items
    rw [compactChars, tokens, List.cons_append, List.cons_append, List.append_assoc,
      List.append_assoc]
    exact hitems.mark rfl rfl
  | record members =>
    have hclose : Cut ('\x7d' :: rest) (.closeRecord :: ts) := h.mark rfl rfl
    have hmembers := cut_compactMembers hclose ends_closeRecord members
    rw [compactChars, tokens, List.cons_append, List.cons_append, List.append_assoc,
      List.append_assoc]
    exact hmembers.mark rfl rfl

theorem cut_compactItems {rest : List Char} {ts : List Token} (h : Cut rest ts)
    (hrest : Ends rest) (items : List Document) :
    Cut (compactItems items ++ rest) (itemTokens items ++ ts) := by
  match items with
  | [] => exact h
  | [d] => exact cut_compactChars h hrest d
  | d :: d' :: items =>
    have hitems := cut_compactItems h hrest (d' :: items)
    have hcomma := hitems.mark (c := ',') rfl rfl
    have hd := cut_compactChars hcomma ends_comma d
    simp only [compactItems, itemTokens, List.append_assoc, List.cons_append]
    exact hd

theorem cut_compactMembers {rest : List Char} {ts : List Token} (h : Cut rest ts)
    (hrest : Ends rest) (members : List (String × Document)) :
    Cut (compactMembers members ++ rest) (memberTokens members ++ ts) := by
  match members with
  | [] => exact h
  | [(name, d)] =>
    have hd := cut_compactChars h hrest d
    have hcolon := hd.mark (c := ':') rfl rfl
    rw [compactMembers, memberTokens, List.append_assoc]
    exact hcolon.quoted name
  | (name, d) :: member :: members =>
    have hmembers := cut_compactMembers h hrest (member :: members)
    have hcomma := hmembers.mark (c := ',') rfl rfl
    have hd := cut_compactChars hcomma ends_comma d
    have hcolon := hd.mark (c := ':') rfl rfl
    simp only [compactMembers, memberTokens, List.append_assoc, List.cons_append]
    exact hcolon.quoted name

end

/-- **A document** that is written without blanks has its own tokens. -/
theorem tokens_compact (d : Document) : Json.tokens (compact d) = d.tokens := by
  have h := cut_compactChars .nil (fun _ h => by cases h) d
  rw [List.append_nil, List.append_nil] at h
  exact h.tokens_eq

end Document

end GroupSignal
