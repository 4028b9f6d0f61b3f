import GroupSignal.Proofs.Poseidon.Permutation
import GroupSignal.Proofs.Poseidon.Tables

/-!
# The schedule of the rounds

One loop takes the rows of constants in order, and compares the number of each round with two bounds
to tell of which kind the round is. So the rows fall into three pieces, and the permutation is three
runs of rounds of one kind: half of the full rounds, the partial ones, and the other half. A round
is given here by its entries: those of the sum with the row, the fifth powers of some of them, and
the sums of the products with the rows of the matrix.

A partial round looks up the first lane. Where there is none, a round of this kind breaks off.

## Main definitions

* `vectorRound`, `fullRound`, `partialRound`: rounds on vectors, entry by entry
* `Phases`: the rows of constants in three pieces

## Main results

* `lanes_runFrom`: a run of rounds of one kind
* `lanes_permute`: the permutation in three phases
* `permute?_eq_ite`: when the permutation breaks off
* `permute_phases`: all accepted parameters
-/

namespace GroupSignal.Poseidon

variable {p t : ℕ} [Modulus p]

/-! ## Rounds on vectors -/

/-- A round that raises some of the lanes: the row of constants is added to the lanes, those to be
raised are taken to the fifth power, and every row of the matrix is multiplied with the column of
lanes. -/
def vectorRound (raised : Fin t → Prop) [DecidablePred raised]
    (matrix : Vector (Vector (Residue p) t) t) (s : Fin t → Residue p)
    (row : Vector (Residue p) t) : Fin t → Residue p :=
  fun i => ∑ j, toMatrix matrix i j *
    if raised j then (s j + lanes row j) ^ 5 else s j + lanes row j

/-- A full round raises every lane. -/
def fullRound (matrix : Vector (Vector (Residue p) t) t) :
    (Fin t → Residue p) → Vector (Residue p) t → Fin t → Residue p :=
  vectorRound (fun _ => True) matrix

/-- A partial round raises the first lane only. -/
def partialRound (matrix : Vector (Vector (Residue p) t) t) :
    (Fin t → Residue p) → Vector (Residue p) t → Fin t → Residue p :=
  vectorRound (fun j => j.val = 0) matrix

section Rounds

variable (matrix : Vector (Vector (Residue p) t) t) (row s : Vector (Residue p) t)

theorem lanes_round_eq_vectorRound {full : Bool} {raised : Fin t → Prop} [DecidablePred raised]
    (h : ∀ j, raised j ↔ full = true ∨ j.val = 0) :
    lanes (round matrix full row s) = vectorRound raised matrix (lanes s) row := by
  have hlane : ∀ j, raiseLane full j (lanes s j + lanes row j) =
      if raised j then (lanes s j + lanes row j) ^ 5 else lanes s j + lanes row j := by
    intro j
    by_cases hj : raised j
    · rw [raiseLane, if_pos ((h j).mp hj), if_pos hj, fifth_eq]
    · rw [raiseLane, if_neg (mt (h j).mpr hj), if_neg hj, id]
  rw [lanes_round]
  funext i
  show ∑ j, toMatrix matrix i j * raiseLane full j (lanes s j + lanes row j) = _
  simp only [hlane]
  rfl

theorem lanes_round_full : lanes (round matrix true row s) = fullRound matrix (lanes s) row :=
  lanes_round_eq_vectorRound matrix row s fun _ => by simp

theorem lanes_round_partial :
    lanes (round matrix false row s) = partialRound matrix (lanes s) row :=
  lanes_round_eq_vectorRound matrix row s fun _ => by simp

end Rounds

/-! ## Runs of rounds -/

section Runs

variable {P : Parameters (Residue p) t}

theorem runFrom_append (first rest : List (Vector (Residue p) t)) (i : ℕ)
    (s : Vector (Residue p) t) :
    runFrom P i (first ++ rest) s = runFrom P (i + first.length) rest (runFrom P i first s) := by
  induction first generalizing i s with
  | nil => rfl
  | cons row first ih =>
    rw [List.cons_append, runFrom, ih, runFrom, List.length_cons, Nat.add_right_comm, Nat.add_assoc]

theorem runFrom?_append (first rest : List (Vector (Residue p) t)) (i : ℕ)
    (s : Vector (Residue p) t) : runFrom? P i (first ++ rest) s =
      (runFrom? P i first s).bind (runFrom? P (i + first.length) rest) := by
  induction first generalizing i s with
  | nil => rfl
  | cons row first ih =>
    rw [List.cons_append, runFrom?, runFrom?, List.length_cons, ← Nat.add_assoc,
      Nat.add_right_comm]
    simp only [Option.bind_eq_bind, ih, Option.bind_assoc]

/-- **A run of rounds of one kind** takes the rows in order. -/
theorem lanes_runFrom {full : Bool}
    {kind : (Fin t → Residue p) → Vector (Residue p) t → Fin t → Residue p}
    (hkind : ∀ row s, lanes (round P.matrix full row s) = kind (lanes s) row)
    {rows : List (Vector (Residue p) t)} {i : ℕ}
    (hfull : ∀ k < rows.length, P.isFull (i + k) = full) (s : Vector (Residue p) t) :
    lanes (runFrom P i rows s) = rows.foldl kind (lanes s) := by
  induction rows generalizing i s with
  | nil => rfl
  | cons row rows ih =>
    have hfirst : P.isFull i = full := hfull 0 (Nat.zero_lt_succ _)
    have hrest : ∀ k < rows.length, P.isFull (i + 1 + k) = full := by
      intro k hk
      rw [Nat.add_assoc, Nat.add_comm 1]
      exact hfull (k + 1) (Nat.succ_lt_succ hk)
    rw [runFrom, ih hrest, hfirst, hkind, List.foldl_cons]

/-- Full rounds look no lane up. -/
theorem runFrom?_of_full {rows : List (Vector (Residue p) t)} {i : ℕ}
    (hfull : ∀ k < rows.length, P.isFull (i + k) = true) (s : Vector (Residue p) t) :
    runFrom? P i rows s = some (runFrom P i rows s) := by
  induction rows generalizing i s with
  | nil => rfl
  | cons row rows ih =>
    have hfirst : P.isFull i = true := hfull 0 (Nat.zero_lt_succ _)
    rw [runFrom?, runFrom, hfirst]
    refine ih (fun k hk => ?_) _
    rw [Nat.add_assoc, Nat.add_comm 1]
    exact hfull (k + 1) (Nat.succ_lt_succ hk)

/-- A partial round on no lanes breaks off. -/
theorem runFrom?_of_partial {P : Parameters (Residue p) 0} {row : Vector (Residue p) 0}
    {rows : List (Vector (Residue p) 0)} {i : ℕ} (h : P.isFull i = false)
    (s : Vector (Residue p) 0) : runFrom? P i (row :: rows) s = none := by
  rw [runFrom?, h]
  rfl

end Runs

/-! ## Three phases -/

/-- Rows of constants in three pieces: one row for each of the first half of the full rounds, then
for each partial round, then for each of the other half. -/
structure Phases {α : Type} (fullRounds partialRounds : ℕ) (rows first middle last : List α) :
    Prop where
  append_eq : first ++ (middle ++ last) = rows
  length_first : first.length = fullRounds / 2
  length_middle : middle.length = partialRounds
  length_last : last.length = fullRounds / 2

theorem exists_phases {α : Type} {fullRounds partialRounds : ℕ} {rows : List α}
    (heven : fullRounds % 2 = 0) (hlength : rows.length = fullRounds + partialRounds) :
    ∃ first middle last, Phases fullRounds partialRounds rows first middle last := by
  refine ⟨rows.take (fullRounds / 2), (rows.drop (fullRounds / 2)).take partialRounds,
    (rows.drop (fullRounds / 2)).drop partialRounds, ?_, ?_, ?_, ?_⟩
  · rw [List.take_append_drop, List.take_append_drop]
  · rw [List.length_take]
    omega
  · rw [List.length_take, List.length_drop]
    omega
  · rw [List.length_drop, List.length_drop]
    omega

namespace Parameters

variable {P : Parameters (Residue p) t} {i : ℕ}

omit [Modulus p]

theorem isFull_of_lt (h : i < P.fullRounds / 2) : P.isFull i = true := by
  simp [isFull, h]

theorem isFull_of_le (h : P.fullRounds / 2 + P.partialRounds ≤ i) : P.isFull i = true := by
  simp [isFull, h]

theorem isFull_of_mem_middle (hle : P.fullRounds / 2 ≤ i)
    (hlt : i < P.fullRounds / 2 + P.partialRounds) : P.isFull i = false := by
  simp [isFull, hle, hlt]

theorem ofRows?_eq_some_iff {F : Type} {fullRounds partialRounds : ℕ}
    {matrix : Vector (Vector F t) t} {constants : List (Vector F t)} {P : Parameters F t} :
    ofRows? fullRounds partialRounds matrix constants = some P ↔ P.fullRounds = fullRounds ∧
      P.partialRounds = partialRounds ∧ P.matrix = matrix ∧ P.constants = constants := by
  unfold ofRows?
  constructor
  · intro h
    split at h
    · obtain rfl := Option.some.inj h
      exact ⟨rfl, rfl, rfl, rfl⟩
    · cases h
  · rintro ⟨rfl, rfl, rfl, rfl⟩
    rw [dif_pos ⟨P.even_fullRounds, P.length_constants⟩]

/-- **Which parameters are accepted.** -/
theorem exists_ofRows?_iff {F : Type} {fullRounds partialRounds : ℕ}
    {matrix : Vector (Vector F t) t} {constants : List (Vector F t)} :
    (∃ P, ofRows? fullRounds partialRounds matrix constants = some P) ↔
      fullRounds % 2 = 0 ∧ constants.length = fullRounds + partialRounds := by
  constructor
  · rintro ⟨P, hP⟩
    obtain ⟨rfl, rfl, rfl, rfl⟩ := ofRows?_eq_some_iff.mp hP
    exact ⟨P.even_fullRounds, P.length_constants⟩
  · intro h
    exact ⟨_, dif_pos h⟩

end Parameters

section Permutation

variable {P : Parameters (Residue p) t} {first middle last : List (Vector (Residue p) t)}

/-- **The permutation in three phases.** -/
theorem lanes_permute (h : Phases P.fullRounds P.partialRounds P.constants first middle last)
    (s : Vector (Residue p) t) : lanes (permute P s) =
      last.foldl (fullRound P.matrix) (middle.foldl (partialRound P.matrix)
        (first.foldl (fullRound P.matrix) (lanes s))) := by
  rw [permute, ← h.append_eq, runFrom_append, runFrom_append, Nat.zero_add, h.length_first,
    h.length_middle]
  have hfirst : ∀ k < first.length, P.isFull (0 + k) = true := by
    intro k hk
    rw [Nat.zero_add]
    exact P.isFull_of_lt (hk.trans_eq h.length_first)
  have hmiddle : ∀ k < middle.length, P.isFull (P.fullRounds / 2 + k) = false := by
    intro k hk
    exact P.isFull_of_mem_middle (Nat.le_add_right ..)
      (Nat.add_lt_add_left (hk.trans_eq h.length_middle) _)
  have hlast : ∀ k < last.length,
      P.isFull (P.fullRounds / 2 + P.partialRounds + k) = true :=
    fun k _ => P.isFull_of_le (Nat.le_add_right ..)
  rw [lanes_runFrom (lanes_round_full P.matrix) hlast,
    lanes_runFrom (lanes_round_partial P.matrix) hmiddle,
    lanes_runFrom (lanes_round_full P.matrix) hfirst]

/-- **The permutation breaks off** just if it has a partial round and there is no lane. -/
theorem permute?_eq_ite (P : Parameters (Residue p) t) (s : Vector (Residue p) t) :
    permute? P s = if t = 0 ∧ 0 < P.partialRounds then none else some (permute P s) := by
  by_cases ht : 0 < t
  · rw [permute?_eq ht, if_neg fun h => ht.ne' h.1]
  · obtain rfl : t = 0 := Nat.eq_zero_of_not_pos ht
    obtain ⟨first, middle, last, h⟩ := exists_phases P.even_fullRounds P.length_constants
    by_cases hpartial : 0 < P.partialRounds
    · rw [if_pos ⟨rfl, hpartial⟩]
      cases middle with
      | nil => exact absurd (h.length_middle.symm.trans List.length_nil) hpartial.ne'
      | cons row middle =>
        -- The run comes to this row after the first phase, if it comes as far.
        have hrow : P.isFull (0 + first.length) = false := by
          rw [Nat.zero_add, h.length_first]
          exact P.isFull_of_mem_middle le_rfl (Nat.lt_add_of_pos_right hpartial)
        rw [permute?, ← h.append_eq, runFrom?_append, List.cons_append]
        exact Option.bind_eq_none_iff.mpr fun s _ => runFrom?_of_partial hrow s
    · rw [if_neg fun h => hpartial h.2, permute?, permute]
      refine runFrom?_of_full (fun k hk => ?_) s
      rcases Nat.lt_or_ge (0 + k) (P.fullRounds / 2) with hlt | hge
      · exact P.isFull_of_lt hlt
      · exact P.isFull_of_le (by omega)

end Permutation

/-- **The schedule of the permutation**, on any number of lanes. Parameters are accepted just if the
full rounds split into halves and there is one row of constants for every round. With accepted ones
the rows are those of three phases, and every state is taken through the full rounds of the first,
the partial ones of the second and the full ones of the last, each with its own row. The first lane
that a partial round looks up is missing only where there are no lanes at all. -/
theorem permute_phases (p : ℕ) [Modulus p] (t fullRounds partialRounds : ℕ)
    (matrix : Vector (Vector (Residue p) t) t) (constants : List (Vector (Residue p) t)) :
    ((∃ P, Parameters.ofRows? fullRounds partialRounds matrix constants = some P) ↔
      fullRounds % 2 = 0 ∧ constants.length = fullRounds + partialRounds) ∧
    ∀ P, Parameters.ofRows? fullRounds partialRounds matrix constants = some P →
      ∃ first middle last, Phases fullRounds partialRounds constants first middle last ∧
        ∀ s, lanes (permute P s) =
            last.foldl (fullRound matrix) (middle.foldl (partialRound matrix)
              (first.foldl (fullRound matrix) (lanes s))) ∧
          permute? P s = if t = 0 ∧ 0 < partialRounds then none else some (permute P s) := by
  refine ⟨Parameters.exists_ofRows?_iff, fun P hP => ?_⟩
  obtain ⟨rfl, rfl, rfl, rfl⟩ := Parameters.ofRows?_eq_some_iff.mp hP
  obtain ⟨first, middle, last, h⟩ := exists_phases P.even_fullRounds P.length_constants
  exact ⟨first, middle, last, h, fun s => ⟨lanes_permute h s, permute?_eq_ite P s⟩⟩

/-- A full round on each side of a partial one, over the field of coordinates; and one partial round
on no lanes. -/
theorem permute_phases_three :
    let matrix : Vector (Vector Coordinate 2) 2 := #v[#v[2, 1], #v[1, 1]]
    (∃ P, Parameters.ofRows? 2 1 matrix [#v[1, 2], #v[3, 4], #v[5, 6]] = some P ∧
      ∀ s, lanes (permute P s) = fullRound matrix
        (partialRound matrix (fullRound matrix (lanes s) #v[1, 2]) #v[3, 4]) #v[5, 6]) ∧
    ∃ P : Parameters Coordinate 0, Parameters.ofRows? 0 1 #v[] [#v[]] = some P ∧
      ∀ s, permute? P s = none := by
  intro matrix
  obtain ⟨haccepted, hphases⟩ :=
    permute_phases baseModulus 2 2 1 matrix [#v[1, 2], #v[3, 4], #v[5, 6]]
  obtain ⟨P, hP⟩ := haccepted.mpr ⟨rfl, rfl⟩
  obtain ⟨haccepted', hphases'⟩ := permute_phases baseModulus 0 0 1 #v[] [#v[]]
  obtain ⟨Q, hQ⟩ := haccepted'.mpr ⟨rfl, rfl⟩
  refine ⟨⟨P, hP, fun s => ?_⟩, Q, hQ, fun s => ?_⟩
  · obtain ⟨first, middle, last, h, hrun⟩ := hphases P hP
    obtain ⟨a, rfl⟩ := List.length_eq_one_iff.mp h.length_first
    obtain ⟨b, rfl⟩ := List.length_eq_one_iff.mp h.length_middle
    obtain ⟨c, rfl⟩ := List.length_eq_one_iff.mp h.length_last
    have hrows : [a, b, c] = [#v[1, 2], #v[3, 4], #v[5, 6]] := h.append_eq
    simp only [List.cons.injEq, and_true] at hrows
    obtain ⟨rfl, rfl, rfl⟩ := hrows
    simpa only [List.foldl_cons, List.foldl_nil] using (hrun s).1
  · obtain ⟨first, middle, last, -, hrun⟩ := hphases' Q hQ
    rw [(hrun s).2, if_pos ⟨rfl, Nat.one_pos⟩]

end GroupSignal.Poseidon
