/-!
# Residues

Arithmetic modulo a number `p`. A residue is held as its representative below `p`, so equality of
residues is equality of representatives. When `p` is prime the residues form a field, and the
inverse is the power `p - 2`.

Two primes matter here: the order of the curve group, modulo which are the scalars that the hash,
the tree and the public values live in, and the characteristic of the field that the curve is
defined over, modulo which are the coordinates of its points.

## Main definitions

* `Modulus p`, `Residue p`: the numbers above zero, and the residues modulo one of them
* `Residue.ofNat`, `Residue.val`: reduction and the representative
* `power`: repeated multiplication by squaring, for any product
* `Residue.inverse?`: the inverse, which zero lacks
* `Scalar`, `Coordinate`: the two prime fields
-/

namespace GroupSignal

/-- The `n`-fold product of `a` under `mul`, by squaring: half as many factors of `a * a`, and one
more `a` when `n` is odd. -/
def power {α : Type} (mul : α → α → α) (one : α) (a : α) (n : Nat) : α :=
  if n = 0 then one
  else
    let rest := power mul one (mul a a) (n / 2)
    if n % 2 = 1 then mul a rest else rest
termination_by n

/-- A number that residues are taken modulo is not zero. -/
class Modulus (p : Nat) : Prop where
  pos : 0 < p

/-- A residue modulo `p`, held as its representative below `p`. -/
structure Residue (p : Nat) where
  val : Nat
  isLt : val < p
  deriving DecidableEq

namespace Residue

variable {p : Nat}

@[ext] theorem ext {a b : Residue p} (h : a.val = b.val) : a = b := by
  cases a; cases b; cases h; rfl

instance : Add (Residue p) where
  add a b :=
    if h : a.val + b.val < p then ⟨a.val + b.val, h⟩
    else ⟨a.val + b.val - p, by have := a.isLt; have := b.isLt; omega⟩

instance : Neg (Residue p) where
  neg a := if h : a.val = 0 then a else ⟨p - a.val, by have := a.isLt; omega⟩

instance : Sub (Residue p) where
  sub a b :=
    if h : b.val ≤ a.val then ⟨a.val - b.val, by have := a.isLt; omega⟩
    else ⟨a.val + p - b.val, by have := b.isLt; omega⟩

instance : Mul (Residue p) where
  mul a b := ⟨a.val * b.val % p, Nat.mod_lt _ (Nat.zero_lt_of_lt a.isLt)⟩

variable [Modulus p]

/-- The residue of a natural number. -/
def ofNat (p : Nat) [Modulus p] (n : Nat) : Residue p := ⟨n % p, Nat.mod_lt _ Modulus.pos⟩

/-- The residue of a number that is already reduced, and nothing for any other. -/
def ofNat? (p n : Nat) : Option (Residue p) := if h : n < p then some ⟨n, h⟩ else none

instance (n : Nat) : OfNat (Residue p) n where
  ofNat := ofNat p n

instance : Inhabited (Residue p) where
  default := 0

instance : Pow (Residue p) Nat where
  pow a n := power (· * ·) 1 a n

/-- The square. -/
def square (a : Residue p) : Residue p := a * a

/-- The multiplicative inverse for a prime modulus: the power `p - 2`. Zero has none. -/
def inverse? (a : Residue p) : Option (Residue p) := if a.val = 0 then none else some (a ^ (p - 2))

omit [Modulus p] in
theorem val_add (a b : Residue p) : (a + b).val = (a.val + b.val) % p := by
  have ha := a.isLt
  have hb := b.isLt
  show (if h : a.val + b.val < p then (⟨a.val + b.val, h⟩ : Residue p) else _).val = _
  split
  · rename_i h; exact (Nat.mod_eq_of_lt h).symm
  · rename_i h
    show a.val + b.val - p = _
    rw [Nat.mod_eq_sub_mod (by omega), Nat.mod_eq_of_lt (by omega)]

omit [Modulus p] in
theorem val_mul (a b : Residue p) : (a * b).val = a.val * b.val % p := rfl

@[simp] theorem ofNat_val (a : Residue p) : ofNat p a.val = a :=
  ext (Nat.mod_eq_of_lt a.isLt)

omit [Modulus p] in
@[simp] theorem ofNat?_val (a : Residue p) : ofNat? p a.val = some a := by
  simp [ofNat?, a.isLt]

omit [Modulus p] in
theorem ofNat?_eq_some_iff {n : Nat} {a : Residue p} : ofNat? p n = some a ↔ n = a.val := by
  rw [ofNat?]
  split
  case isTrue h => exact (Option.some.injEq ..).to_iff.trans Residue.ext_iff
  case isFalse h => exact iff_of_false (fun ha => by cases ha) fun ha => h (ha ▸ a.isLt)

omit [Modulus p] in
theorem ofNat?_eq_none_iff {n : Nat} : ofNat? p n = none ↔ p ≤ n := by
  rw [ofNat?, dite_eq_right_iff, ← Nat.not_lt]
  exact ⟨fun h hn => (by cases h hn), fun h hn => absurd hn h⟩

end Residue

/-! ## The two prime fields -/

/-- The order of the curve group: the modulus of the scalars. -/
def scalarModulus : Nat :=
  21888242871839275222246405745257275088548364400416034343698204186575808495617

/-- The characteristic of the field of coordinates. -/
def baseModulus : Nat :=
  21888242871839275222246405745257275088696311157297823662689037894645226208583

instance : Modulus scalarModulus := ⟨by decide⟩

instance : Modulus baseModulus := ⟨by decide⟩

/-- A scalar: a residue modulo the order of the curve group. -/
abbrev Scalar := Residue scalarModulus

/-- A coordinate: an element of the prime field that the curve is defined over. -/
abbrev Coordinate := Residue baseModulus

end GroupSignal
