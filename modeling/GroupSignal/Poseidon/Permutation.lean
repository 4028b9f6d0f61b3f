import GroupSignal.Residue

/-!
# The permutation

An instance of the permutation on `t` lanes is fixed by how many rounds are full and how many are
partial, the matrix that mixes the lanes, and one row of constants for every round. Half of the full
rounds come first and half come last, so their number is even.

A round adds its row of constants, raises lanes to the fifth power, and mixes the lanes with the
matrix. A full round raises every lane, a partial round the first one only.

## Main definitions

* `Parameters F t`: the parameters on `t` lanes over `F`
* `Parameters.ofRows?`: the parameters of a matrix and rows of constants that fit the round numbers
* `round`: one round
* `permute`: all rounds in order
-/

namespace GroupSignal.Poseidon

/-- The parameters of the permutation on `t` lanes. -/
structure Parameters (F : Type) (t : Nat) where
  /-- How many rounds raise every lane. -/
  fullRounds : Nat
  /-- How many rounds raise the first lane only. -/
  partialRounds : Nat
  /-- The rows of the mixing matrix. -/
  matrix : Vector (Vector F t) t
  /-- The rows of constants, one for each round in order. -/
  constants : List (Vector F t)
  /-- The full rounds split into two halves. -/
  even_fullRounds : fullRounds % 2 = 0
  /-- Every round has its row of constants. -/
  length_constants : constants.length = fullRounds + partialRounds

namespace Parameters

variable {F : Type} {t : Nat}

/-- The number of rounds. -/
def rounds (P : Parameters F t) : Nat := P.fullRounds + P.partialRounds

/-- The parameters with the given round numbers, if the full rounds split into halves and there is
one row of constants for every round. -/
def ofRows? (fullRounds partialRounds : Nat) (matrix : Vector (Vector F t) t)
    (constants : List (Vector F t)) : Option (Parameters F t) :=
  if h : fullRounds % 2 = 0 ∧ constants.length = fullRounds + partialRounds then
    some { fullRounds, partialRounds, matrix, constants
           even_fullRounds := h.1
           length_constants := h.2 }
  else none

/-- Round `i` is full when it belongs to the first or to the last half of the full rounds. -/
def isFull (P : Parameters F t) (i : Nat) : Bool :=
  i < P.fullRounds / 2 || P.fullRounds / 2 + P.partialRounds ≤ i

end Parameters

/-! ## Rounds -/

variable {p : Nat} [Modulus p] {t : Nat}

/-- The fifth power. -/
def fifth (x : Residue p) : Residue p :=
  let square := x * x
  x * (square * square)

/-- Adds two rows lane by lane. -/
def addRow (s row : Vector (Residue p) t) : Vector (Residue p) t :=
  Vector.zipWith (· + ·) s row

/-- Raises every lane, or the first one only. -/
def raise (full : Bool) (s : Vector (Residue p) t) : Vector (Residue p) t :=
  if full then s.map fifth else s.mapIdx fun i x => if i = 0 then fifth x else x

/-- The sum of the products of two rows. -/
def dot (row s : Vector (Residue p) t) : Residue p :=
  (Vector.zipWith (· * ·) row s).foldl (· + ·) 0

/-- Multiplies the lanes by a matrix. -/
def mix (matrix : Vector (Vector (Residue p) t) t) (s : Vector (Residue p) t) :
    Vector (Residue p) t :=
  matrix.map fun row => dot row s

/-- One round with its row of constants. -/
def round (matrix : Vector (Vector (Residue p) t) t) (full : Bool) (row s : Vector (Residue p) t) :
    Vector (Residue p) t :=
  mix matrix (raise full (addRow s row))

/-- Runs the rounds whose rows of constants remain, the first of which has number `i`. -/
def runFrom (P : Parameters (Residue p) t) (i : Nat) (rows : List (Vector (Residue p) t))
    (s : Vector (Residue p) t) : Vector (Residue p) t :=
  match rows with
  | [] => s
  | row :: rest => runFrom P (i + 1) rest (round P.matrix (P.isFull i) row s)

/-- The permutation of the lanes. -/
def permute (P : Parameters (Residue p) t) (s : Vector (Residue p) t) : Vector (Residue p) t :=
  runFrom P 0 P.constants s

end GroupSignal.Poseidon
