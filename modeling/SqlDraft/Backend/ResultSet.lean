import SqlDraft.Backend

/-!
# Result sets

The rows of an executed statement and a place among them: on a row, before the first row, or past the
last one. A fetch goes to its target and reads the row there; beyond either end there is no row, and
the place is the nearest one just outside.
-/

namespace SqlDraft

/-- Rows and the place of the current one, from -1 (before the first) to the number of rows. -/
structure ResultSet where
  rows : List Row
  place : Int

namespace ResultSet

/-- A place before the first of some rows. -/
def ofRows (rows : List Row) : ResultSet := ⟨rows, -1⟩

/-- The set without rows. -/
def empty : ResultSet := ofRows []

/-- A signed 64-bit word holds whole numbers up to multiples of 2 ^ 64. -/
def wrap64 (n : Int) : Int := Int.bmod n 0x10000000000000000

/-- The place that a cursor means. Distances and row numbers are signed 64-bit words. -/
def target (s : ResultSet) : Cursor → Int
  | .next => s.place + 1
  | .prior => s.place - 1
  | .first => 0
  | .last => (s.rows.length : Int) - 1
  | .absolute n => wrap64 n.toNat
  | .relative n => wrap64 (s.place + n.toInt)

/-- Goes to a place, or as near to it as a set allows, and reads the row there. -/
def seek (s : ResultSet) (place : Int) : Option Row × ResultSet :=
  (if place < 0 then none else s.rows[place.toNat]?,
    { s with place := max (-1) (min place s.rows.length) })

/-- Reads the row that a cursor means. -/
def fetch (s : ResultSet) (cursor : Cursor) : Option Row × ResultSet := s.seek (s.target cursor)

/-- Reads the rows behind the current one and goes past the last. -/
def fetchAll (s : ResultSet) : List Row × ResultSet :=
  (s.rows.drop (s.place + 1).toNat, { s with place := s.rows.length })

end ResultSet
end SqlDraft
