import GroupSignal.Poseidon.Permutation
import GroupSignal.Poseidon.Width2
import GroupSignal.Poseidon.Width3

/-!
# Hashing scalars

There are two instances of the permutation over the scalars: 8 full rounds on either count of lanes,
and 56 partial rounds on two lanes or 57 on three. For the hashes of one and of two scalars, the
inputs fill the lanes behind a zero lane, and the first lane of the permuted state is the hash.

## Main definitions

* `Poseidon.width2`, `Poseidon.width3`: the parameters on two and on three lanes
* `hash1`, `hash2`: the hashes of one and of two scalars
-/

namespace GroupSignal

namespace Poseidon

/-- The parameters on two lanes. -/
def width2 : Parameters Scalar 2 where
  fullRounds := 8
  partialRounds := 56
  matrix := matrix2
  constants := constants2
  even_fullRounds := rfl
  length_constants := rfl

/-- The parameters on three lanes. -/
def width3 : Parameters Scalar 3 where
  fullRounds := 8
  partialRounds := 57
  matrix := matrix3
  constants := constants3
  even_fullRounds := rfl
  length_constants := rfl

end Poseidon

/-- The hash of one scalar. -/
def hash1 (x : Scalar) : Scalar := (Poseidon.permute Poseidon.width2 #v[0, x])[0]

/-- The hash of two scalars, in order. -/
def hash2 (x y : Scalar) : Scalar := (Poseidon.permute Poseidon.width3 #v[0, x, y])[0]

end GroupSignal
