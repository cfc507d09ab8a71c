import SqlDraft.Proofs.Backend.Moves

/-!
# Going through a result

However a result was used before, what its later uses find are the rows on one side of its place, each of them once and
in order: those behind it for the next rows and the rest, those ahead of it, backwards, for the prior ones
(`traversal_complete`). The rows on either side are told by their numbers (`behind`, `ahead`); a step forwards takes the
first row behind, a step backwards the last one ahead (`fetch_next_cases`, `fetch_prior_cases`).
-/

namespace SqlDraft
namespace ResultSet

/-! ## The rows on either side -/

/-- The rows with a greater number than the current place. -/
def behind (s : ResultSet) : List Row := (s.rows.zipIdx.filter fun (_, number) => s.place < number).map Prod.fst

/-- The rows with a smaller number than the current place. -/
def ahead (s : ResultSet) : List Row := (s.rows.zipIdx.filter fun (_, number) => number < s.place).map Prod.fst

variable {rows : List Row} {s : ResultSet}

theorem filter_number_ge (rows : List Row) (offset : Nat) (place : Int) :
    ((rows.zipIdx offset).filter fun (_, number) => place < number).map Prod.fst =
      rows.drop (place + 1 - offset).toNat := by
  induction rows generalizing offset with
  | nil => simp
  | cons row rest ih =>
    rw [List.zipIdx_cons, List.filter_cons]
    by_cases greater : place < offset
    · have here : (place + 1 - offset).toNat = 0 := by omega
      have later : (place + 1 - (offset + 1 : Nat)).toNat = 0 := by omega
      simp only [greater, decide_true, if_true, List.map_cons, ih, here, later, List.drop_zero]
    · obtain ⟨count, here⟩ : ∃ count, (place + 1 - offset).toNat = count + 1 :=
        ⟨(place - offset).toNat, by omega⟩
      have later : (place + 1 - (offset + 1 : Nat)).toNat = count := by omega
      simp only [greater, decide_false, Bool.false_eq_true, if_false, ih, here, later, List.drop_succ_cons]

theorem filter_number_lt (rows : List Row) (offset : Nat) (place : Int) :
    ((rows.zipIdx offset).filter fun (_, number) => number < place).map Prod.fst =
      rows.take (place - offset).toNat := by
  induction rows generalizing offset with
  | nil => simp
  | cons row rest ih =>
    rw [List.zipIdx_cons, List.filter_cons]
    by_cases smaller : offset < place
    · obtain ⟨count, here⟩ : ∃ count, (place - offset).toNat = count + 1 :=
        ⟨(place - offset - 1).toNat, by omega⟩
      have later : (place - (offset + 1 : Nat)).toNat = count := by omega
      simp only [smaller, decide_true, if_true, List.map_cons, ih, here, later, List.take_succ_cons]
    · have here : (place - offset).toNat = 0 := by omega
      have later : (place - (offset + 1 : Nat)).toNat = 0 := by omega
      simp only [smaller, decide_false, Bool.false_eq_true, if_false, ih, here, later, List.take_zero]

theorem behind_eq_drop (s : ResultSet) : s.behind = s.rows.drop (s.place + 1).toNat := by
  rw [behind, filter_number_ge]
  simp

theorem ahead_eq_take (s : ResultSet) : s.ahead = s.rows.take s.place.toNat := by
  rw [ahead, filter_number_lt]
  simp

/-! ## Steps -/

/-- Past the last row. -/
def finished (rows : List Row) : ResultSet := ⟨rows, rows.length⟩

theorem fetchAll_eq (placed : Placed rows s) : s.fetchAll = (s.behind, finished rows) := by
  rw [behind_eq_drop, fetchAll, finished, placed.kept]

theorem behind_finished (rows : List Row) : (finished rows).behind = [] := by
  rw [behind_eq_drop]
  exact List.drop_eq_nil_of_le (by simp only [finished]; omega)

theorem ahead_finished (rows : List Row) : (finished rows).ahead = rows := by
  rw [ahead_eq_take]
  exact List.take_of_length_le (by simp only [finished]; omega)

theorem placed_finished (rows : List Row) : Placed rows (finished rows) := by
  refine ⟨rfl, ?_, Int.le_refl _⟩
  simp only [finished]
  omega

/-- A step forwards takes the first row behind, or there is none and it goes past the last row. -/
theorem fetch_next_cases (placed : Placed rows s) :
    (s.behind = [] ∧ s.fetch .next = (none, finished rows)) ∨
      ∃ row, (s.fetch .next).1 = some row ∧ s.behind = row :: (s.fetch .next).2.behind := by
  obtain ⟨kept, low, high⟩ := placed
  obtain ⟨index, there⟩ := Int.eq_ofNat_of_zero_le (show 0 ≤ s.place + 1 by omega)
  have rest : s.behind = rows.drop index := by rw [behind_eq_drop, kept, there, Int.toNat_natCast]
  have goes : s.fetch .next = s.seek index := by rw [fetch, target, there]
  rw [goes, rest]
  by_cases inside : index < rows.length
  · refine .inr ⟨rows[index], ?_, ?_⟩
    · simp [seek, kept, inside]
    · have clamped : max (-1) (min (index : Int) rows.length) = index := by omega
      have after : (s.seek index).2.behind = rows.drop (index + 1) := by
        rw [behind_eq_drop]
        simp only [seek, kept, clamped]
        congr 1
      rw [after, List.drop_eq_getElem_cons inside]
  · refine .inl ⟨List.drop_eq_nil_of_le (Nat.not_lt.mp inside), ?_⟩
    have nothing : rows[index]? = none := List.getElem?_eq_none (Nat.not_lt.mp inside)
    have clamped : max (-1) (min (index : Int) rows.length) = rows.length := by omega
    simp only [seek, kept, Int.toNat_natCast, nothing, ite_self, clamped, finished]

/-- A step backwards takes the last row ahead, or there is none and it goes before the first row. -/
theorem fetch_prior_cases (placed : Placed rows s) :
    (s.ahead = [] ∧ s.fetch .prior = (none, ofRows rows)) ∨
      ∃ row, (s.fetch .prior).1 = some row ∧ s.ahead = (s.fetch .prior).2.ahead ++ [row] := by
  obtain ⟨kept, low, high⟩ := placed
  have goes : s.fetch .prior = s.seek (s.place - 1) := rfl
  rw [goes, ahead_eq_take, kept]
  by_cases positive : 0 < s.place
  · obtain ⟨index, there⟩ := Int.eq_ofNat_of_zero_le (show 0 ≤ s.place - 1 by omega)
    have place : s.place.toNat = index + 1 := by omega
    have inside : index < rows.length := by omega
    rw [there, place]
    refine .inr ⟨rows[index], ?_, ?_⟩
    · simp [seek, kept, inside]
    · have clamped : max (-1) (min (index : Int) rows.length) = index := by omega
      have after : (s.seek index).2.ahead = rows.take index := by
        rw [ahead_eq_take]
        simp only [seek, kept, clamped, Int.toNat_natCast]
      rw [after, List.take_succ_eq_append_getElem inside]
  · refine .inl ⟨by rw [Int.toNat_of_nonpos (Int.not_lt.mp positive), List.take_zero], ?_⟩
    have outside : s.place - 1 < 0 := by omega
    have clamped : max (-1) (min (s.place - 1) (rows.length : Int)) = -1 := by omega
    simp only [seek, outside, if_true, kept, clamped, ofRows]

/-! ## Runs -/

/-- Fetches with one cursor until there is no row, what they read and the result behind them. -/
inductive Walk (cursor : Cursor) : ResultSet → List Row → ResultSet → Prop
  | done {s : ResultSet} (nothing : (s.fetch cursor).1 = none) : Walk cursor s [] (s.fetch cursor).2
  | step {s last : ResultSet} {row : Row} {later : List Row} (found : (s.fetch cursor).1 = some row)
    (rest : Walk cursor (s.fetch cursor).2 later last) : Walk cursor s (row :: later) last

theorem Walk.unique {cursor : Cursor} {read read' : List Row} {last last' : ResultSet}
    (walk : Walk cursor s read last) (walk' : Walk cursor s read' last') : read = read' ∧ last = last' := by
  induction walk generalizing read' with
  | done nothing =>
    cases walk' with
    | done _ => exact ⟨rfl, rfl⟩
    | step found _ => simp [nothing] at found
  | step found _ ih =>
    cases walk' with
    | done nothing => simp [nothing] at found
    | step found' rest' =>
      obtain ⟨same, lasts⟩ := ih rest'
      have row := Option.some.inj (found.symm.trans found')
      exact ⟨by rw [row, same], lasts⟩

theorem Walk.iff_eq {cursor : Cursor} {read read' : List Row} {last last' : ResultSet} (walk : Walk cursor s read last) :
    Walk cursor s read' last' ↔ read' = read ∧ last' = last := by
  constructor
  · intro walk'
    exact walk'.unique walk
  · rintro ⟨rfl, rfl⟩
    exact walk

/-- Some fetches of the next row, the rows that they read and the result behind them. -/
def nexts (s : ResultSet) : Nat → List Row × ResultSet
  | 0 => ([], s)
  | count + 1 =>
    let (found, onwards) := s.fetch .next
    let (later, last) := onwards.nexts count
    (found.toList ++ later, last)

theorem placed_fetch (placed : Placed rows s) (cursor : Cursor) : Placed rows (s.fetch cursor).2 :=
  placed_seek placed.kept _

theorem walk_next (placed : Placed rows s) : Walk .next s s.behind (finished rows) := by
  -- The steps take one row each from those behind, until none is left.
  induction rest : s.behind generalizing s with
  | nil =>
    obtain ⟨_, goes⟩ | ⟨row, _, more⟩ := fetch_next_cases placed
    · have walk : Walk .next s [] (s.fetch .next).2 := .done (by rw [goes])
      rwa [goes] at walk
    · simp [rest] at more
  | cons row later ih =>
    obtain ⟨none, _⟩ | ⟨row', found, more⟩ := fetch_next_cases placed
    · simp [rest] at none
    · obtain ⟨rfl, rfl⟩ := List.cons.inj (rest.symm.trans more)
      exact .step found (ih (placed_fetch placed .next) rfl)

theorem walk_prior (placed : Placed rows s) : Walk .prior s s.ahead.reverse (ofRows rows) := by
  induction rest : s.ahead.reverse generalizing s with
  | nil =>
    obtain ⟨_, goes⟩ | ⟨row, _, more⟩ := fetch_prior_cases placed
    · have walk : Walk .prior s [] (s.fetch .prior).2 := .done (by rw [goes])
      rwa [goes] at walk
    · simp [more] at rest
  | cons row later ih =>
    obtain ⟨none, _⟩ | ⟨row', found, more⟩ := fetch_prior_cases placed
    · simp [none] at rest
    · rw [more, List.reverse_append] at rest
      obtain ⟨rfl, rfl⟩ := List.cons.inj rest
      exact .step found (ih (placed_fetch placed .prior) rfl)

theorem nexts_append_fetchAll (placed : Placed rows s) (count : Nat) :
    (s.nexts count).1 ++ (s.nexts count).2.fetchAll.1 = s.behind := by
  induction count generalizing s with
  | zero => simp only [nexts, fetchAll_eq placed, List.nil_append]
  | succ count ih =>
    have later := ih (placed_fetch placed .next)
    simp only [nexts, List.append_assoc, later]
    obtain ⟨none, goes⟩ | ⟨row, found, more⟩ := fetch_next_cases placed
    · simp only [goes, none, Option.toList_none, List.nil_append, behind_finished]
    · simp only [found, more, Option.toList_some, List.singleton_append]

theorem fetchAll_finished (rows : List Row) : (finished rows).fetchAll.1 = [] := by
  rw [fetchAll_eq (placed_finished rows), behind_finished]

theorem fetch_next_finished (rows : List Row) : ((finished rows).fetch .next).1 = none := by
  obtain ⟨_, goes⟩ | ⟨row, _, more⟩ := fetch_next_cases (placed_finished rows)
  · rw [goes]
  · simp [behind_finished] at more

theorem fetch_prior_finished (rows : List Row) : ((finished rows).fetch .prior).1 = rows.getLast? := by
  obtain ⟨none, goes⟩ | ⟨row, found, more⟩ := fetch_prior_cases (placed_finished rows)
  · rw [ahead_finished] at none
    rw [goes, none, List.getLast?_nil]
  · rw [ahead_finished] at more
    rw [found, more, List.getLast?_concat]

theorem behind_of_before (placed : Placed rows s) (before : s.place = -1) : s.behind = rows := by
  rw [behind_eq_drop, before, placed.kept]
  rfl

/-- However a result was used before, its place stays in bounds. The rest are the rows behind the place, and then there is
no next row and the prior one is the last. Next rows and then the rest are together the rows behind, and all of the rows
if the place is before the first. Next rows until there is none are the same, and prior rows from there are all of the
rows backwards. -/
theorem traversal_complete (rows : List Row) (earlier : List Reading) :
    let s := (ofRows rows).afterAll earlier
    (s.rows = rows ∧ -1 ≤ s.place ∧ s.place ≤ rows.length) ∧
      (s.fetchAll.1 = s.behind ∧ s.fetchAll.2.place = rows.length) ∧
      (s.fetchAll.2.fetchAll.1 = [] ∧ (s.fetchAll.2.fetch .next).1 = none ∧
        (s.fetchAll.2.fetch .prior).1 = rows.getLast?) ∧
      (s.place = -1 → s.behind = rows) ∧
      (∀ count, (s.nexts count).1 ++ (s.nexts count).2.fetchAll.1 = s.behind) ∧
      (∀ forwards between, Walk .next s forwards between ↔ forwards = s.behind ∧ between = s.fetchAll.2) ∧
      ∀ backwards last, Walk .prior s.fetchAll.2 backwards last ↔ backwards = rows.reverse ∧ last = ofRows rows := by
  intro s
  have placed : Placed rows s := placed_afterAll rows earlier
  have goes := fetchAll_eq placed
  have backwards := walk_prior (placed_finished rows)
  rw [ahead_finished] at backwards
  refine ⟨⟨placed.kept, placed.low, placed.high⟩, ?_, ?_, behind_of_before placed, nexts_append_fetchAll placed, ?_, ?_⟩
  · rw [goes]
    exact ⟨rfl, rfl⟩
  · rw [goes]
    exact ⟨fetchAll_finished rows, fetch_next_finished rows, fetch_prior_finished rows⟩
  · intro _ _
    rw [goes]
    exact (walk_next placed).iff_eq
  · intro _ _
    rw [goes]
    exact backwards.iff_eq

end ResultSet
end SqlDraft
