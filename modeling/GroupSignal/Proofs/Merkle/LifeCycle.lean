import GroupSignal.Proofs.Merkle.Membership

/-!
# The life of a tree

Leaves are offered to a tree one after the other. As long as there is room each is taken at the next
index, and the first offer beyond the capacity and all later ones are refused. What has been taken
is never lost, and what has been refused leaves no trace: the tree is that of the leaves that fit.

## Main definitions

* `MerkleTree.offer`, `MerkleTree.offerAll`: what becomes of one leaf, and of leaves in order
* `MerkleTree.answerAt`: what is answered to the offer with a number
* `MerkleTree.LifeCycle`: what has become of a tree after offers

## Main results

* `Reached.offer_eq`: one offer
* `Reached.offerAll_reached`, `Reached.offerAll_answers`: offers in order
* `exists_lifeCycle`: the whole life of a tree
-/

namespace GroupSignal.MerkleTree

/-- Offers a leaf to a tree: what is answered, and the tree that there is afterwards. A refusal
hands back no tree, so the one that was there stays. -/
def offer (tree : MerkleTree) (leaf : Scalar) : Except TreeError ℕ × MerkleTree :=
  match tree.insert leaf with
  | .ok (index, next) => (.ok index, next)
  | .error cause => (.error cause, tree)

/-- Offers leaves in order: all answers, and the tree at the end. -/
def offerAll (tree : MerkleTree) : List Scalar → List (Except TreeError ℕ) × MerkleTree
  | [] => ([], tree)
  | leaf :: rest =>
    ((tree.offer leaf).1 :: ((tree.offer leaf).2.offerAll rest).1,
      ((tree.offer leaf).2.offerAll rest).2)

/-- The answer to the offer number `k` to a tree of a depth, counted from zero. -/
def answerAt (depth k : ℕ) : Except TreeError ℕ :=
  if k < 2 ^ depth then .ok k else .error (.full (2 ^ depth))

/-! ## Offers -/

section Offers

variable {depth : ℕ} {past offers : List Scalar} {leaf : Scalar} {tree : MerkleTree}

/-- **One offer**: after any number of offers the next leaf is taken at the index that is its
number, or it is refused and the tree stays. In both cases the tree holds the leaves that fit. -/
theorem Reached.offer_eq (h : Reached depth (past.take (2 ^ depth)) tree) (leaf : Scalar) :
    (tree.offer leaf).1 = answerAt depth past.length ∧
      Reached depth ((past ++ [leaf]).take (2 ^ depth)) (tree.offer leaf).2 ∧
      (2 ^ depth ≤ past.length → (tree.offer leaf).2 = tree) := by
  have hrep := h.represents.2.2
  rcases Nat.lt_or_ge past.length (2 ^ depth) with hroom | hfull
  · -- Everything so far has been taken, and so is this leaf.
    rw [List.take_of_length_le hroom.le] at h hrep
    obtain ⟨next, hinsert, -⟩ := hrep.exists_insert hroom leaf
    have hoffer : tree.offer leaf = (.ok past.length, next) := by
      unfold offer
      rw [hinsert]
    rw [hoffer, answerAt, if_pos hroom]
    refine ⟨rfl, ?_, fun hge => absurd hroom hge.not_gt⟩
    rw [List.take_of_length_le (by rw [List.length_append]; exact hroom)]
    exact h.insert hinsert
  · have hlength : (past.take (2 ^ depth)).length = 2 ^ depth := by
      rw [List.length_take, Nat.min_eq_left hfull]
    have hoffer : tree.offer leaf = (.error (.full (2 ^ depth)), tree) := by
      unfold offer
      rw [hrep.insert_eq_full hlength]
    rw [hoffer, answerAt, if_neg hfull.not_gt]
    refine ⟨rfl, ?_, fun _ => rfl⟩
    rwa [List.take_append_of_le_length hfull]

/-- **Offers in order** keep the leaves that fit. -/
theorem Reached.offerAll_reached (h : Reached depth (past.take (2 ^ depth)) tree)
    (offers : List Scalar) :
    Reached depth ((past ++ offers).take (2 ^ depth)) (tree.offerAll offers).2 := by
  induction offers generalizing past tree with
  | nil => rwa [List.append_nil]
  | cons leaf rest ih =>
    rw [List.append_cons]
    exact ih (h.offer_eq leaf).2.1

/-- **The answers to offers in order** count on from the offers before. -/
theorem Reached.offerAll_answers (h : Reached depth (past.take (2 ^ depth)) tree)
    (offers : List Scalar) :
    (tree.offerAll offers).1 =
      (List.range' past.length offers.length).map (answerAt depth) := by
  induction offers generalizing past tree with
  | nil => rfl
  | cons leaf rest ih =>
    obtain ⟨hanswer, hnext, -⟩ := h.offer_eq leaf
    have hlater := ih hnext
    rw [List.length_append, List.length_singleton] at hlater
    rw [List.length_cons, List.range'_succ, List.map_cons, offerAll, hanswer, hlater]

/-- A tree that has been offered as many leaves as it holds stays as it is. -/
theorem Reached.offerAll_of_full (h : Reached depth (past.take (2 ^ depth)) tree)
    (hfull : 2 ^ depth ≤ past.length) (offers : List Scalar) : (tree.offerAll offers).2 = tree := by
  induction offers with
  | nil => rfl
  | cons leaf rest ih =>
    rw [offerAll, (h.offer_eq leaf).2.2 hfull]
    exact ih

theorem offerAll_append (tree : MerkleTree) (offers more : List Scalar) :
    (tree.offerAll (offers ++ more)).2 = ((tree.offerAll offers).2.offerAll more).2 := by
  induction offers generalizing tree with
  | nil => rfl
  | cons leaf rest ih => exact ih (tree.offer leaf).2

/-- As many offers are taken as there are indices below the capacity. -/
theorem countP_answerAt (depth count : ℕ) :
    ((List.range' 0 count).map (answerAt depth)).countP Except.isOk = min count (2 ^ depth) := by
  induction count with
  | zero => rw [Nat.zero_min]; rfl
  | succ count ih =>
    rw [List.range'_concat, List.map_append, List.countP_append, ih]
    rcases Nat.lt_or_ge count (2 ^ depth) with hroom | hfull
    · have htaken : answerAt depth (0 + 1 * count) = .ok count := by
        rw [Nat.one_mul, Nat.zero_add, answerAt, if_pos hroom]
      rw [List.map_singleton, htaken, Nat.min_eq_left hroom.le, Nat.min_eq_left hroom]
      rfl
    · have hrefused : answerAt depth (0 + 1 * count) = .error (.full (2 ^ depth)) := by
        rw [Nat.one_mul, Nat.zero_add, answerAt, if_neg hfull.not_gt]
      rw [List.map_singleton, hrefused, Nat.min_eq_right hfull,
        Nat.min_eq_right (hfull.trans (Nat.le_succ count))]
      rfl

end Offers

/-! ## How full a tree is -/

section Filling

variable {depth : ℕ} {leaves : List Scalar} {tree : MerkleTree}

theorem Represents.filling_eq_empty_iff (h : tree.Represents depth leaves) :
    tree.filling = .empty ↔ leaves.length = 0 := by
  rw [filling, h.size_eq]
  split
  · exact iff_of_true rfl ‹_›
  · refine iff_of_false ?_ ‹_›
    split <;> exact nofun

theorem Represents.filling_eq_full_iff (h : tree.Represents depth leaves) :
    tree.filling = .full ↔ leaves.length = 2 ^ depth := by
  rw [filling, h.size_eq, h.capacity_eq]
  split
  · -- Every tree has room for a leaf, so an empty one is not full.
    have hpos := Nat.two_pow_pos depth
    exact iff_of_false nofun (by omega)
  · split
    · exact iff_of_true rfl ‹_›
    · exact iff_of_false nofun ‹_›

theorem filling_eq_partlyFilled_iff :
    tree.filling = .partlyFilled ↔ tree.filling ≠ .empty ∧ tree.filling ≠ .full := by
  cases tree.filling <;> simp

end Filling

/-! ## The whole life -/

/-- What has become of a tree of a depth that was empty at the `start`, after some offers. -/
structure LifeCycle (depth : ℕ) (start : MerkleTree) (offers : List Scalar)
    (answers : List (Except TreeError ℕ)) (tree : MerkleTree) : Prop where
  length_answers : answers.length = offers.length
  /-- The offer number `k` is taken at index `k` below the capacity, and refused from there on. -/
  getElem?_answers : ∀ k < offers.length,
    answers[k]? = some (if k < 2 ^ depth then .ok k else .error (.full (2 ^ depth)))
  size_eq : tree.size = min offers.length (2 ^ depth)
  /-- Below the size stands at every index the leaf that was offered as its number. -/
  leaf?_eq : ∀ index : UInt64,
    tree.leaf? index = if index.toNat < tree.size then offers[index.toNat]? else none
  filling_eq_empty_iff : tree.filling = .empty ↔ answers.countP Except.isOk = 0
  filling_eq_full_iff : tree.filling = .full ↔ answers.countP Except.isOk = 2 ^ depth
  filling_eq_partlyFilled_iff :
    tree.filling = .partlyFilled ↔ tree.filling ≠ .empty ∧ tree.filling ≠ .full
  /-- An offer that is refused leaves no trace. -/
  eq_of_refused : ∀ leaf cause, (tree.offer leaf).1 = .error cause →
    (start.offerAll (offers ++ [leaf])).2 = tree
  /-- The tree is that of the offers that fit. -/
  eq_fitting : tree = (start.offerAll (offers.take (2 ^ depth))).2
  /-- No later offer changes a leaf. -/
  leaf?_later : ∀ (more : List Scalar) (index : UInt64), index.toNat < tree.size →
    (start.offerAll (offers ++ more)).2.leaf? index = tree.leaf? index

section LifeCycle

variable {depth : ℕ} {start : MerkleTree}

/-- Before any offer nothing has been taken. -/
theorem reached_take_nil (h : create depth = .ok start) :
    Reached depth (([] : List Scalar).take (2 ^ depth)) start := by
  rw [List.take_nil]
  exact .create h

theorem reached_offerAll (h : create depth = .ok start) (offers : List Scalar) :
    Reached depth (offers.take (2 ^ depth)) (start.offerAll offers).2 :=
  (reached_take_nil h).offerAll_reached offers

theorem answers_offerAll (h : create depth = .ok start) (offers : List Scalar) :
    (start.offerAll offers).1 = (List.range' 0 offers.length).map (answerAt depth) :=
  (reached_take_nil h).offerAll_answers offers

theorem size_offerAll (h : create depth = .ok start) (offers : List Scalar) :
    (start.offerAll offers).2.size = min offers.length (2 ^ depth) := by
  rw [(reached_offerAll h offers).represents.2.2.size_eq, List.length_take, Nat.min_comm]

theorem countP_answers (h : create depth = .ok start) (offers : List Scalar) :
    (start.offerAll offers).1.countP Except.isOk = (offers.take (2 ^ depth)).length := by
  rw [answers_offerAll h, countP_answerAt, List.length_take, Nat.min_comm]

theorem leaf?_offerAll (h : create depth = .ok start) (offers : List Scalar) (index : UInt64) :
    (start.offerAll offers).2.leaf? index = (offers.take (2 ^ depth))[index.toNat]? := by
  obtain ⟨⟨hmin, -⟩, -, hrep⟩ := (reached_offerAll h offers).represents
  exact hrep.leaf?_eq hmin

/-- What is refused meets a full tree. -/
theorem two_pow_le_of_refused (h : create depth = .ok start) {offers : List Scalar} {leaf : Scalar}
    {cause : TreeError} (hrefused : ((start.offerAll offers).2.offer leaf).1 = .error cause) :
    2 ^ depth ≤ offers.length := by
  by_contra hroom
  rw [((reached_offerAll h offers).offer_eq leaf).1, answerAt,
    if_pos (Nat.lt_of_not_le hroom)] at hrefused
  cases hrefused

theorem lifeCycle_offerAll (h : create depth = .ok start) (offers : List Scalar) :
    LifeCycle depth start offers (start.offerAll offers).1 (start.offerAll offers).2 where
  length_answers := by rw [answers_offerAll h, List.length_map, List.length_range']
  getElem?_answers := by
    intro k hk
    rw [answers_offerAll h, List.getElem?_map, List.getElem?_range' hk, Nat.one_mul, Nat.zero_add]
    rfl
  size_eq := size_offerAll h offers
  leaf?_eq := by
    intro index
    rw [leaf?_offerAll h, size_offerAll h, List.getElem?_take]
    by_cases hroom : index.toNat < 2 ^ depth
    · by_cases hgiven : index.toNat < offers.length
      · rw [if_pos hroom, if_pos (Nat.lt_min.mpr ⟨hgiven, hroom⟩)]
      · rw [if_pos hroom, if_neg fun h => hgiven (Nat.lt_min.mp h).1]
        exact List.getElem?_eq_none (Nat.le_of_not_lt hgiven)
    · rw [if_neg hroom, if_neg fun h => hroom (Nat.lt_min.mp h).2]
  filling_eq_empty_iff := by
    rw [(reached_offerAll h offers).represents.2.2.filling_eq_empty_iff, countP_answers h]
  filling_eq_full_iff := by
    rw [(reached_offerAll h offers).represents.2.2.filling_eq_full_iff, countP_answers h]
  filling_eq_partlyFilled_iff := MerkleTree.filling_eq_partlyFilled_iff
  eq_of_refused := by
    intro leaf cause hrefused
    rw [offerAll_append]
    exact (reached_offerAll h offers).offerAll_of_full (two_pow_le_of_refused h hrefused) [leaf]
  eq_fitting := by
    rcases Nat.le_total offers.length (2 ^ depth) with hle | hge
    · rw [List.take_of_length_le hle]
    · -- The offers are those that fit, and those that meet the full tree.
      have hfull : 2 ^ depth ≤ (offers.take (2 ^ depth)).length := by
        rw [List.length_take, Nat.min_eq_left hge]
      have hstays := (reached_offerAll h (offers.take (2 ^ depth))).offerAll_of_full hfull
        (offers.drop (2 ^ depth))
      rwa [← offerAll_append, List.take_append_drop] at hstays
  leaf?_later := by
    intro more index hindex
    rw [size_offerAll h] at hindex
    obtain ⟨hgiven, hroom⟩ := Nat.lt_min.mp hindex
    rw [leaf?_offerAll h, leaf?_offerAll h, List.getElem?_take, List.getElem?_take, if_pos hroom,
      if_pos hroom, List.getElem?_append_left hgiven]

/-- **The life of a tree** of a supported depth: there is an empty one, and this is what becomes of
it, whatever leaves it is offered. -/
theorem exists_lifeCycle (hmin : 1 ≤ depth) (hmax : depth ≤ 32) :
    ∃ start, create depth = .ok start ∧ ∀ offers : List Scalar,
      LifeCycle depth start offers (start.offerAll offers).1 (start.offerAll offers).2 := by
  obtain ⟨start, hstart⟩ := exists_create hmin hmax
  exact ⟨start, hstart, lifeCycle_offerAll hstart⟩

/-- Six leaves are offered to a tree of depth two: the last two are refused. -/
theorem exists_lifeCycle_two : (1 ≤ 2 ∧ 2 ≤ 32) ∧ ∃ start, create 2 = .ok start ∧
    (start.offerAll [5, 6, 7, 8, 9, 10]).1[3]? = some (.ok 3) ∧
    (start.offerAll [5, 6, 7, 8, 9, 10]).1[4]? = some (.error (.full 4)) ∧
    (start.offerAll [5, 6, 7, 8, 9, 10]).2.size = 4 ∧
    (start.offerAll [5, 6, 7, 8, 9, 10]).2 = (start.offerAll [5, 6, 7, 8]).2 := by
  obtain ⟨start, hstart, hlife⟩ := @exists_lifeCycle 2 (by decide) (by decide)
  have h := hlife [5, 6, 7, 8, 9, 10]
  exact ⟨by decide, start, hstart, h.getElem?_answers 3 (by decide),
    h.getElem?_answers 4 (by decide), h.size_eq, h.eq_fitting⟩

end LifeCycle

end GroupSignal.MerkleTree
