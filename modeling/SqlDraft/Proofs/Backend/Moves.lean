import SqlDraft.Backend.ResultSet

/-!
# Moving in a result

A cursor means a place, which is a whole number. A place on a row is gone to and the row is read; from a place outside
of the rows nothing is read, and the current place is just before the first row or just past the last.
A fetch does so exactly if a signed 64-bit word holds the place that is meant (`fetch_ideal_iff`): a greater row number or
distance leaves the reader at the wrong end.
-/

namespace SqlDraft
namespace ResultSet

/-! ## What is read from where -/

/-- One use of a result. -/
inductive Reading
  | one (cursor : Cursor)
  | rest
  deriving DecidableEq

/-- The result behind a use of it. -/
def after (s : ResultSet) : Reading → ResultSet
  | .one cursor => (s.fetch cursor).2
  | .rest => s.fetchAll.2

def afterAll (s : ResultSet) (readings : List Reading) : ResultSet := readings.foldl after s

/-- The rows are still these, and the place is on one of them, just before the first or just past the last. -/
structure Placed (rows : List Row) (s : ResultSet) : Prop where
  kept : s.rows = rows
  low : -1 ≤ s.place
  high : s.place ≤ rows.length

variable {rows : List Row} {s : ResultSet}

theorem placed_ofRows (rows : List Row) : Placed rows (ofRows rows) := by
  refine ⟨rfl, Int.le_refl _, ?_⟩
  simp only [ofRows]
  omega

theorem placed_seek (same : s.rows = rows) (place : Int) : Placed rows (s.seek place).2 := by
  subst same
  refine ⟨rfl, ?_, ?_⟩
  · simp only [seek]
    omega
  · simp only [seek]
    omega

theorem placed_after (placed : Placed rows s) (reading : Reading) : Placed rows (s.after reading) := by
  obtain ⟨same, low, high⟩ := placed
  cases reading with
  | one cursor => exact placed_seek same _
  | rest =>
    refine ⟨same, ?_, ?_⟩
    · simp only [after, fetchAll]
      omega
    · simp only [after, fetchAll, same]
      omega

theorem placed_afterAll (rows : List Row) (readings : List Reading) : Placed rows ((ofRows rows).afterAll readings) :=
  List.foldlRecOn readings after (placed_ofRows rows) fun _ placed reading _ => placed_after placed reading

/-! ## What a cursor means -/

/-- The place that a cursor means. -/
def meant (s : ResultSet) : Cursor → Int
  | .next => s.place + 1
  | .prior => s.place - 1
  | .first => 0
  | .last => s.rows.length - 1
  | .absolute index => index.toNat
  | .relative distance => s.place + distance.toInt

/-- A number that a signed 64-bit word holds. -/
def IsWord (n : Int) : Prop := -0x8000000000000000 ≤ n ∧ n < 0x8000000000000000

instance (n : Int) : Decidable (IsWord n) := inferInstanceAs (Decidable (_ ∧ _))

/-- How a fetch should end, by the place that its cursor means. -/
inductive Ideal (s : ResultSet) (cursor : Cursor) : Option Row → ResultSet → Prop
  | before (low : s.meant cursor < 0) : Ideal s cursor none { s with place := -1 }
  | on {index : Nat} {row : Row} (means : s.meant cursor = index) (there : s.rows[index]? = some row) :
    Ideal s cursor (some row) { s with place := index }
  | past (high : s.rows.length ≤ s.meant cursor) : Ideal s cursor none { s with place := s.rows.length }

theorem ideal_seek (s : ResultSet) (cursor : Cursor) :
    Ideal s cursor (s.seek (s.meant cursor)).1 (s.seek (s.meant cursor)).2 := by
  generalize place : s.meant cursor = n
  by_cases low : n < 0
  · have clamped : max (-1) (min n s.rows.length) = -1 := by omega
    simp only [seek, low, if_true, clamped]
    exact .before (place ▸ low)
  · obtain ⟨index, rfl⟩ := Int.eq_ofNat_of_zero_le (Int.not_lt.mp low)
    by_cases inside : index < s.rows.length
    · have there : s.rows[index]? = some s.rows[index] := List.getElem?_eq_getElem inside
      have clamped : max (-1) (min (index : Int) s.rows.length) = index := by omega
      simp only [seek, low, if_false, Int.toNat_natCast, there, clamped]
      exact .on place there
    · have nothing : s.rows[index]? = none := List.getElem?_eq_none (Nat.not_lt.mp inside)
      have clamped : max (-1) (min (index : Int) s.rows.length) = s.rows.length := by omega
      simp only [seek, low, if_false, Int.toNat_natCast, nothing, clamped]
      exact .past (by omega)

theorem Ideal.place_neg_iff {cursor : Cursor} {found : Option Row} {s' : ResultSet} (ideal : Ideal s cursor found s') :
    s'.place < 0 ↔ s.meant cursor < 0 := by
  cases ideal with
  | before low => exact iff_of_true (show (-1 : Int) < 0 by decide) low
  | on means there => rw [means]
  | past high =>
    refine iff_of_false ?_ ?_
    · simp only
      omega
    · omega

/-! ## Words -/

theorem wrap64_of_isWord {n : Int} (word : IsWord n) : wrap64 n = n := by
  obtain ⟨low, high⟩ := word
  simp only [wrap64, Int.bmod]
  omega

/-- A number that is not too far from the words keeps its sign in no case but theirs. -/
theorem wrap64_neg_iff {n : Int} (low : -0x10000000000000000 ≤ n) (high : n < 0x10000000000000000)
    (far : ¬ IsWord n) : wrap64 n < 0 ↔ ¬ n < 0 := by
  simp only [IsWord] at far
  simp only [wrap64, Int.bmod]
  omega

theorem meant_bounds (placed : Placed rows s) (short : rows.length < 0x7fffffffffffffff) (cursor : Cursor) :
    -0x10000000000000000 ≤ s.meant cursor ∧ s.meant cursor < 0x10000000000000000 := by
  obtain ⟨kept, low, high⟩ := placed
  cases cursor with
  | absolute index =>
    have bound := index.toNat_lt
    simp only [meant]
    omega
  | relative distance =>
    have least := distance.le_toInt
    have greatest := distance.toInt_lt
    simp only [meant]
    omega
  | _ => simp only [meant, kept]; omega

/-- Only a row number or a distance of the caller's can mean a place that no word holds. -/
theorem far_iff (placed : Placed rows s) (short : rows.length < 0x7fffffffffffffff) (cursor : Cursor) :
    ¬ IsWord (s.meant cursor) ↔ (∃ index, cursor = .absolute index ∧ 0x8000000000000000 ≤ index.toNat) ∨
      ∃ distance, cursor = .relative distance ∧ ¬ IsWord (s.place + distance.toInt) := by
  obtain ⟨kept, low, high⟩ := placed
  cases cursor with
  | absolute index =>
    have far : ¬ IsWord (index.toNat : Int) ↔ 0x8000000000000000 ≤ index.toNat := by
      simp only [IsWord]
      omega
    simpa [meant] using far
  | relative distance => simp [meant]
  | _ =>
    refine iff_of_false ?_ (by simp)
    simp only [IsWord, meant, kept]
    omega

theorem target_eq (placed : Placed rows s) (short : rows.length < 0x7fffffffffffffff) (cursor : Cursor) :
    s.target cursor = wrap64 (s.meant cursor) := by
  by_cases far : IsWord (s.meant cursor)
  · rw [wrap64_of_isWord far]
    cases cursor with
    | absolute index => exact wrap64_of_isWord far
    | relative distance => exact wrap64_of_isWord far
    | _ => rfl
  · obtain ⟨index, rfl, _⟩ | ⟨distance, rfl, _⟩ := (far_iff placed short cursor).mp far
    · rfl
    · rfl

theorem place_seek_neg_iff (s : ResultSet) (place : Int) : (s.seek place).2.place < 0 ↔ place < 0 := by
  simp only [seek]
  omega

/-- Behind any uses of a result with fewer rows than a word can number, a fetch goes where its cursor means and reads
the row there, exactly if a word holds that place. It always does but for row numbers and distances of the caller's. -/
theorem fetch_ideal_iff (rows : List Row) (short : rows.length < 0x7fffffffffffffff) (earlier : List Reading)
    (cursor : Cursor) :
    let s := (ofRows rows).afterAll earlier
    (Ideal s cursor (s.fetch cursor).1 (s.fetch cursor).2 ↔ IsWord (s.meant cursor)) ∧
      (¬ IsWord (s.meant cursor) ↔ (∃ index, cursor = .absolute index ∧ 0x8000000000000000 ≤ index.toNat) ∨
        ∃ distance, cursor = .relative distance ∧ ¬ IsWord (s.place + distance.toInt)) := by
  intro s
  have placed : Placed rows s := placed_afterAll rows earlier
  refine ⟨?_, far_iff placed short cursor⟩
  have goes : s.fetch cursor = s.seek (wrap64 (s.meant cursor)) := by rw [fetch, target_eq placed short]
  rw [goes]
  constructor
  · intro ideal
    -- Outside of the words the sign of the place is lost, and with it the end at which the reader stands.
    by_cases word : IsWord (s.meant cursor)
    · exact word
    · obtain ⟨low, high⟩ := meant_bounds placed short cursor
      have sign := wrap64_neg_iff low high word
      have goal := ideal.place_neg_iff
      rw [place_seek_neg_iff] at goal
      omega
  · intro word
    rw [wrap64_of_isWord word]
    exact ideal_seek s cursor

theorem fetch_ideal_iff_prior :
    let row : Row := ⟨[("c0", .int 5)]⟩
    let s := (ofRows [row]).afterAll [.one .last, .one .next]
    [row].length < 0x7fffffffffffffff ∧ Ideal s .prior (s.fetch .prior).1 (s.fetch .prior).2 :=
  ⟨by decide, (fetch_ideal_iff [⟨[("c0", .int 5)]⟩] (by decide) [.one .last, .one .next] .prior).1.mpr (by decide)⟩

/-- A row number just past the words leaves the reader before the first row, which is then read again as the next. -/
theorem fetch_before_first :
    let row : Row := ⟨[("c0", .int 5)]⟩
    let cursor := Cursor.absolute 0x8000000000000000
    let s := ofRows [row]
    s.rows.length ≤ s.meant cursor ∧ ¬ Ideal s cursor (s.fetch cursor).1 (s.fetch cursor).2 ∧
      (s.fetch cursor).2.place = -1 ∧ ((s.fetch cursor).2.fetch .next).1 = some row := by
  intro row cursor s
  have before : (s.fetch cursor).2.place = -1 := by decide
  refine ⟨by decide, ?_, before, by decide⟩
  intro ideal
  have low := ideal.place_neg_iff.mp (by rw [before]; decide)
  exact absurd low (by decide)

end ResultSet
end SqlDraft
