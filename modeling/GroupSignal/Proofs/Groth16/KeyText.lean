import GroupSignal.Groth16.KeyDocument
import GroupSignal.Proofs.Document.Records
import GroupSignal.Proofs.Groth16.Valid
import GroupSignal.Proofs.Json.Arranging
import GroupSignal.Proofs.Numeral.Canonical

/-!
# Keys are read from what is written for them

The text of a key has one member that its reader has no slot for, the name of the curve, and the
points in it have a third coordinate, which is one. Dividing by it changes nothing, and a point of
the group passes the two checks. So a key whose points lie in their groups is read back, as long as
none of them is the point at infinity.

## Main definitions

* `VerifyingKey.Valid`: the points lie in their groups
* `VerifyingKey.Finite`: none of them is the point at infinity
* `VerifyingKey.written`, `VerifyingKey.values`: the members of a written key, and their values
* `VerifyingKey.sample`: a key that is valid and finite, with any number of bases

## Main results

* `takes_readDecimal`, `takes_readPoint`, `takes_readPairing`: the parts of a key
* `VerifyingKey.ofText_toText`: a key is read back from its text
* `CircuitKey.load_toText`: so is the key of the circuit, from a file that holds its text
-/

namespace GroupSignal

open Reader

/-- What is written in decimal is read as a plain decimal numeral. -/
theorem Numeral.readDecimal?_toDigits (n : ℕ) :
    readDecimal? (String.ofList (Nat.toDigits 10 n)) = some n := by
  have hcanonical : Canonical 10 (Nat.toDigits 10 n) := canonical_toDigits (.inl rfl) n
  have hspells : Spells (String.ofList (Nat.toDigits 10 n)) n := by
    have h := Spells.decimal hcanonical
    rwa [value_toDigits (by decide) (by decide)] at h
  have hdigits : ∀ c ∈ Nat.toDigits 10 n, isDigit 10 c = true := fun c hc =>
    (isDigit_iff_mem_figures (.inl rfl)).mpr (hcanonical.mem_figures c hc)
  rw [readDecimal?, String.toList_ofList, if_pos (List.all_eq_true.mpr hdigits),
    readCanonical_eq_ok_iff.mpr hspells]
  rfl

/-- The text of a file is read in two steps. -/
theorem FileSystem.readText_run (files : FileSystem Id) (path : String) :
    (files.readText path).run =
      (files.read path).run >>= fun b => (Bytes.toText? b).elim (.error .notText) .ok := by
  rw [readText]
  cases hread : (files.read path).run with
  | error e =>
    have hread : files.read path = pure (.error e) := hread
    rw [hread]
    rfl
  | ok b =>
    have hread : files.read path = pure (.ok b) := hread
    rw [hread]
    rfl

namespace Groth16

/-! ## Coordinates -/

theorem takes_readDecimal (x : Coordinate) :
    Takes readDecimal ((decimalText x).events .json) x := by
  have hread : (Numeral.readDecimal? (String.ofList (Nat.toDigits 10 x.val)) >>=
      Residue.ofNat? baseModulus) = some x := by
    rw [Numeral.readDecimal?_toDigits]
    exact Residue.ofNat?_val x
  rw [← List.append_nil (Document.events _ _)]
  refine (takes_text .json _).bind ?_
  rw [hread]
  exact takes_pure x

theorem takes_readQuadratic (x : Quadratic) :
    Takes readQuadratic ((quadraticDocument x).events .json) x :=
  takes_tuple ((takes_readDecimal x.re).bind (takes_readDecimal x.im).bind_pure)

theorem takes_readSextic (x : Sextic) :
    Takes readSextic ((Document.seq [quadraticDocument x.c0, quadraticDocument x.c1,
      quadraticDocument x.c2]).events .json) x :=
  takes_tuple ((takes_readQuadratic x.c0).bind
    ((takes_readQuadratic x.c1).bind (takes_readQuadratic x.c2).bind_pure))

theorem takes_readPairing (f : Dodecic) :
    Takes readPairing ((pairingDocument f).events .json) f :=
  takes_tuple ((takes_readSextic f.c0).bind (takes_readSextic f.c1).bind_pure)

/-! ## Points -/

/-- Dividing by one changes no point. -/
theorem toPoint_of_one {F : Type} [LawfulCoordinateField F] {x y u : F} (hu : u = 1)
    (hone : CoordinateField.inverse? (1 : F) = some 1) :
    (⟨x, y, u⟩ : Jacobian F).toPoint = .affine x y := by
  subst hu
  have hpoint : (⟨x, y, 1⟩ : Jacobian F).toPoint = .affine (x * (1 * 1)) (y * (1 * 1) * 1) := by
    rw [Jacobian.toPoint, hone]
    rfl
  rw [hpoint, mul_one, mul_one, mul_one, mul_one]

section Triples

variable {F : Type} [LawfulCoordinateField F] {coordinate : Reader F} {document : F → Document}
  {x y u : F} (hcoordinate : ∀ x, Takes coordinate ((document x).events .json) x) (hu : u = 1)
  (hone : CoordinateField.inverse? (1 : F) = some 1)

include hcoordinate hu hone

theorem takes_triple : Takes (Reader.tuple .json 3 do
    return (⟨← coordinate, ← coordinate, ← coordinate⟩ : Jacobian F).toPoint)
    ((Document.seq [document x, document y, document u]).events .json) (.affine x y) := by
  rw [← toPoint_of_one hu hone]
  refine takes_tuple ((hcoordinate x).bind ((hcoordinate y).bind ?_))
  rw [Document.itemEvents, Document.itemEvents, List.append_nil]
  exact (hcoordinate u).bind_pure

theorem takes_readPoint [DecidableEq F] {C : Curve F} (hb : C.b ≠ 0)
    (h : C.InSubgroup (.affine x y)) : Takes (readPoint C coordinate)
      ((Document.seq [document x, document y, document u]).events .json) (.affine x y) := by
  -- Behind the three coordinates nothing is taken, but the point is checked.
  obtain ⟨hcontains, horder⟩ := (Curve.inSubgroup_iff hb).mp h
  rw [← List.append_nil (Document.events _ _)]
  refine (takes_triple hcoordinate hu hone).bind ?_
  rw [hcontains, horder]
  exact takes_pure _

end Triples

theorem coordinate_inverse?_one : Residue.inverse? (1 : Coordinate) = some 1 := by
  rw [Residue.inverse?_eq_some one_ne_zero, inv_one]

theorem quadratic_inverse?_one : Quadratic.inverse? (1 : Quadratic) = some 1 := by
  rw [Quadratic.inverse?_eq_some one_ne_zero, inv_one]

theorem takes_readPoint1 {p : G1.Point} (h : G1.curve.InSubgroup p) (hfinite : p ≠ .infinity) :
    Takes readPoint1 ((pointDocument1 p).events .json) p := by
  cases p with
  | infinity => exact absurd rfl hfinite
  | affine x y =>
    exact takes_readPoint takes_readDecimal rfl coordinate_inverse?_one G1.b_ne_zero h

theorem takes_readPoint2 {p : G2.Point} (h : G2.curve.InSubgroup p) (hfinite : p ≠ .infinity) :
    Takes readPoint2 ((pointDocument2 p).events .json) p := by
  cases p with
  | infinity => exact absurd rfl hfinite
  | affine x y =>
    exact takes_readPoint takes_readQuadratic rfl quadratic_inverse?_one G2.b_ne_zero h

/-! ## Keys -/

theorem takes_ignored_text (s : String) : Takes (ignored .json) [.text s] () := by
  intro rest
  have hpassed : passed? .json [.items 1] (.text s :: rest) = some rest := by
    simp [passed?, afterItem]
  refine run_bind_eq_ok_iff.mpr ⟨.text s :: rest, .text s :: rest, rfl, ?_⟩
  rw [hpassed]
  rfl

namespace VerifyingKey

/-- The points of a key lie in their groups. -/
structure Valid (key : VerifyingKey) : Prop where
  alpha : G1.curve.InSubgroup key.alpha
  beta : G2.curve.InSubgroup key.beta
  gamma : G2.curve.InSubgroup key.gamma
  delta : G2.curve.InSubgroup key.delta
  bases : ∀ p ∈ key.bases, G1.curve.InSubgroup p

/-- None of the points of a key is the point at infinity. -/
structure Finite (key : VerifyingKey) : Prop where
  alpha : key.alpha ≠ .infinity
  beta : key.beta ≠ .infinity
  gamma : key.gamma ≠ .infinity
  delta : key.delta ≠ .infinity
  bases : ∀ p ∈ key.bases, p ≠ .infinity

variable {key : VerifyingKey}

/-- The members of a written key, with the events of their values. -/
def written (key : VerifyingKey) : List (String × List Event) := [
  ("IC", (Document.seq (key.bases.map pointDocument1)).events .json),
  ("curve", (Document.text "bn128").events .json),
  ("nPublic", (Document.natural (UInt64.ofNat key.publicValues)).events .json),
  ("protocol", (Document.text "groth16").events .json),
  ("vk_alpha_1", (pointDocument1 key.alpha).events .json),
  ("vk_alphabeta_12", (pairingDocument (pairing key.alpha key.beta)).events .json),
  ("vk_beta_2", (pointDocument2 key.beta).events .json),
  ("vk_delta_2", (pointDocument2 key.delta).events .json),
  ("vk_gamma_2", (pointDocument2 key.gamma).events .json)]

/-- What the members of a written key are read as. -/
def values (key : VerifyingKey) : Members.Values
    [String, UInt64, G1.Point, G2.Point, G2.Point, G2.Point, Dodecic, List G1.Point] :=
  ("groth16", UInt64.ofNat key.publicValues, key.alpha, key.beta, key.gamma, key.delta,
    pairing key.alpha key.beta, key.bases, ())

theorem events_document (key : VerifyingKey) : key.document.events .json =
    .openRecord none :: (Members.namedEvents key.written ++ [.close]) := by
  simp only [document, written, Document.events, Document.memberEvents, Document.counted,
    Document.closing, Members.namedEvents, List.flatMap_cons, List.flatMap_nil, List.cons_append]

theorem nodup_names : members.names.Nodup := by decide

theorem nodup_written (key : VerifyingKey) : (key.written.map Prod.fst).Nodup := by
  have hnames : ["IC", "curve", "nPublic", "protocol", "vk_alpha_1", "vk_alphabeta_12", "vk_beta_2",
      "vk_delta_2", "vk_gamma_2"].Nodup := by
    decide
  exact hnames

theorem takes_read (hvalid : key.Valid) (hfinite : key.Finite) :
    Takes read (key.document.events .json) key := by
  have hbases : Takes (Reader.list readPoint1)
      ((Document.seq (key.bases.map pointDocument1)).events .json) key.bases :=
    takes_list fun p hp => takes_readPoint1 (hvalid.bases p hp) (hfinite.bases p hp)
  have hall : ∀ name ∈ members.names, name ∈ key.written.map Prod.fst := by
    simp [members, Members.required, Members.names, written]
  have hadmits : ∀ member ∈ key.written, members.Admits .json key.values member := by
    simp only [written, List.forall_mem_cons, Members.Admits, members, Members.required, values,
      Members.Holds, String.reduceEq, ↓reduceIte]
    refine ⟨.inl hbases, .inr ⟨?_, takes_ignored_text _⟩, .inl (takes_natural .json _),
      .inl (takes_text .json _), .inl (takes_readPoint1 hvalid.alpha hfinite.alpha),
      .inl (takes_readPairing _), .inl (takes_readPoint2 hvalid.beta hfinite.beta),
      .inl (takes_readPoint2 hvalid.delta hfinite.delta),
      .inl (takes_readPoint2 hvalid.gamma hfinite.gamma), List.forall_mem_nil _⟩
    -- The name of the curve is not among those that are described.
    decide
  rw [events_document]
  exact (Members.takes_read nodup_names key.nodup_written hall hadmits).bind_pure

theorem ofText_toText (hvalid : key.Valid) (hfinite : key.Finite) :
    ofText key.toText = .ok key := by
  rw [ofText, toText, Document.events_compact, (takes_read hvalid hfinite).runJson]
  rfl

/-- A key whose points are those of the sample proof, with this many bases. -/
def sample (size : ℕ) : VerifyingKey where
  alpha := Proof.sample.a
  beta := Proof.sample.b
  gamma := Proof.sample.b
  delta := Proof.sample.b
  bases := List.replicate size Proof.sample.a

theorem valid_sample (size : ℕ) : (sample size).Valid := by
  obtain ⟨ha, hb, -⟩ := Proof.valid_sample
  refine ⟨ha, hb, hb, hb, fun p hp => ?_⟩
  rwa [List.eq_of_mem_replicate hp]

theorem finite_sample (size : ℕ) : (sample size).Finite := by
  have ha : Proof.sample.a ≠ .infinity := nofun
  have hb : Proof.sample.b ≠ .infinity := nofun
  refine ⟨ha, hb, hb, hb, fun p hp => ?_⟩
  rwa [List.eq_of_mem_replicate hp]

end VerifyingKey

/-! ## Files -/

/-- A file is loaded in two steps, of which the first words its failures with the path. -/
theorem CircuitKey.load_run (files : FileSystem Id) (path : String) : (load files path).run =
    (files.readText path).run.mapError (ProofSystemError.unreadable path) >>= ofText := by
  rw [load]
  cases hread : (files.readText path).run with
  | error cause =>
    have hread : files.readText path = pure (.error cause) := hread
    rw [hread]
    rfl
  | ok s =>
    have hread : files.readText path = pure (.ok s) := hread
    rw [hread]
    rfl

/-- **The key of the circuit** is loaded from a file that holds the text of its key. -/
theorem CircuitKey.load_toText {circuit : CircuitKey} {files : FileSystem Id} {path : String}
    (hvalid : circuit.key.Valid) (hfinite : circuit.key.Finite)
    (hfile : (files.read path).run = .ok (Bytes.ofText circuit.key.toText)) :
    (load files path).run = .ok circuit := by
  have htext : (files.readText path).run = .ok circuit.key.toText := by
    rw [FileSystem.readText_run]
    refine bind_eq_ok_iff.mpr ⟨_, hfile, ?_⟩
    rw [Bytes.toText?_ofText]
    rfl
  rw [load_run]
  refine bind_eq_ok_iff.mpr ⟨_, mapError_eq_ok_iff.mpr htext, ?_⟩
  refine bind_eq_ok_iff.mpr ⟨_, VerifyingKey.ofText_toText hvalid hfinite, ?_⟩
  exact dif_pos circuit.publicValues_eq

end Groth16

end GroupSignal
