import SqlDraft.Proofs.Draft.Alignment
import SqlDraft.Template.Interpolation

/-!
# Interpolation and inlining

Putting values into a statement's text by scanning it gives what the template has with every value in its
place (`interpolated_eq_inlined`). The scanner keeps count of quotes only, so this asks that the texts a
caller gives close their quotes and have question marks between quotes alone; it asks nothing of values,
whose literals the scanner does not read again.
-/

namespace SqlDraft

/-! ## Enclosed texts -/

/-- The text has single quotes in pairs, and each of its question marks has an odd number of quotes before
it and so stands between quotes. -/
def Enclosed (s : String) : Prop :=
  s.toList.count '\x27' % 2 = 0 ∧
    ∀ before after, s.toList = before ++ '?' :: after → before.count '\x27' % 2 = 1

/-- Scans a text, given whether it starts between quotes: every question mark must be between quotes, and
the end must not be. -/
def closes : Bool → List Char → Bool
  | quoted, [] => !quoted
  | quoted, c :: rest => if c = '\x27' then closes (!quoted) rest else (c != '?' || quoted) && closes quoted rest

/-- The quote that is open before a text, as a number to count on from. -/
def openQuotes (quoted : Bool) : Nat := if quoted then 1 else 0

theorem openQuotes_not (quoted : Bool) (n : Nat) :
    (openQuotes (!quoted) + n) % 2 = (openQuotes quoted + (n + 1)) % 2 := by
  cases quoted with
  | false => simp only [openQuotes, Bool.not_false, if_true, Bool.false_eq_true, if_false]; omega
  | true => simp only [openQuotes, Bool.not_true, if_true, Bool.false_eq_true, if_false]; omega

/-- Every question mark of a text has an odd number of quotes before it, an open one included. -/
def MarksBetween (quoted : Bool) (s : List Char) : Prop :=
  ∀ before after, s = before ++ '?' :: after → (openQuotes quoted + before.count '\x27') % 2 = 1

theorem marksBetween_quote (quoted : Bool) (rest : List Char) :
    MarksBetween quoted ('\x27' :: rest) ↔ MarksBetween (!quoted) rest := by
  constructor
  · intro all before after split
    have odd := all ('\x27' :: before) after (congrArg ('\x27' :: ·) split)
    rwa [List.count_cons_self, ← openQuotes_not] at odd
  · intro all before after split
    cases before with
    | nil => simp at split
    | cons d more =>
      obtain ⟨rfl, tail⟩ := List.cons.inj split
      rw [List.count_cons_self, ← openQuotes_not]
      exact all more after tail

theorem marksBetween_other {c : Char} (quote : c ≠ '\x27') (quoted : Bool) (rest : List Char) :
    MarksBetween quoted (c :: rest) ↔ (c != '?' || quoted) = true ∧ MarksBetween quoted rest := by
  have skip : ∀ l : List Char, (c :: l).count '\x27' = l.count '\x27' := fun l => List.count_cons_of_ne quote
  constructor
  · intro all
    constructor
    · by_cases mark : c = '?'
      · subst mark
        have odd := all [] rest rfl
        cases quoted with
        | true => rfl
        | false => simp [openQuotes] at odd
      · simp [mark]
    · intro before after split
      have odd := all (c :: before) after (congrArg (c :: ·) split)
      rwa [skip] at odd
  · rintro ⟨here, all⟩ before after split
    cases before with
    | nil =>
      obtain ⟨rfl, _⟩ := List.cons.inj split
      have between : quoted = true := by simpa using here
      subst between
      rfl
    | cons d more =>
      obtain ⟨rfl, tail⟩ := List.cons.inj split
      rw [skip]
      exact all more after tail

/-- The scan counts quotes. -/
theorem closes_iff (quoted : Bool) (s : List Char) :
    closes quoted s = true ↔ (openQuotes quoted + s.count '\x27') % 2 = 0 ∧ MarksBetween quoted s := by
  induction s generalizing quoted with
  | nil =>
    cases quoted with
    | false => simp [closes, openQuotes, MarksBetween]
    | true => simp [closes, openQuotes]
  | cons c rest ih =>
    by_cases quote : c = '\x27'
    · subst quote
      rw [closes, if_pos rfl, ih, List.count_cons_self, openQuotes_not, marksBetween_quote]
    · rw [closes, if_neg quote, Bool.and_eq_true, ih, List.count_cons_of_ne quote, marksBetween_other quote]
      exact and_left_comm

theorem enclosed_iff (s : String) : Enclosed s ↔ closes false s.toList = true := by
  rw [closes_iff, Enclosed, MarksBetween]
  simp [openQuotes]

instance (s : String) : Decidable (Enclosed s) := decidable_of_iff _ (enclosed_iff s).symm

theorem closes_quote (quoted : Bool) (rest : List Char) : closes quoted ('\x27' :: rest) = closes (!quoted) rest := rfl

/-- A character that is no quote may stand anywhere, but a question mark only between quotes. -/
theorem closes_other {quoted : Bool} {c : Char} (quote : c ≠ '\x27') (rest : List Char) :
    closes quoted (c :: rest) = true ↔ ¬ (c = '?' ∧ quoted = false) ∧ closes quoted rest = true := by
  have allowed : (c != '?' || quoted) = true ↔ ¬ (c = '?' ∧ quoted = false) := by
    cases quoted with
    | true => simp
    | false => simp
  rw [closes, if_neg quote, Bool.and_eq_true, allowed]

/-- A text that closes its quotes leaves the scan of what follows as it would be without it. -/
theorem closes_append {quoted : Bool} {s : List Char} (closed : closes quoted s = true) (rest : List Char) :
    closes quoted (s ++ rest) = closes false rest := by
  induction s generalizing quoted with
  | nil =>
    cases quoted with
    | false => rfl
    | true => cases closed
  | cons c more ih =>
    rw [List.cons_append, closes]
    rw [closes] at closed
    by_cases quote : c = '\x27'
    · rw [if_pos quote] at closed ⊢
      exact ih closed
    · rw [if_neg quote, Bool.and_eq_true] at closed
      rw [if_neg quote, closed.1, Bool.true_and]
      exact ih closed.2

theorem closes_plain {s : List Char} (plain : ∀ c ∈ s, c ≠ '?' ∧ c ≠ '\x27') : closes false s = true := by
  induction s with
  | nil => rfl
  | cons c rest ih =>
    obtain ⟨mark, quote⟩ := plain c List.mem_cons_self
    have later := ih fun d member => plain d (List.mem_cons_of_mem c member)
    exact (closes_other quote rest).mpr ⟨fun slot => mark slot.1, later⟩

theorem composable_enclosed : Composable Enclosed := by
  constructor
  · intro a b first second
    rw [enclosed_iff] at first second ⊢
    rw [String.toList_append, closes_append first]
    exact second
  · intro a plain
    rw [enclosed_iff]
    exact closes_plain plain

/-! ## Scanning a template -/

theorem interpolateFrom_quote (quoted : Bool) (rest : List Char) (params : List Value) :
    interpolateFrom quoted ('\x27' :: rest) params = '\x27' :: interpolateFrom (!quoted) rest params := by
  rw [interpolateFrom.eq_def]
  rfl

/-- A character that is no quote, and no question mark outside of quotes, stays. -/
theorem interpolateFrom_other {quoted : Bool} {c : Char} (quote : c ≠ '\x27') (noSlot : ¬ (c = '?' ∧ quoted = false))
    (rest : List Char) (params : List Value) :
    interpolateFrom quoted (c :: rest) params = c :: interpolateFrom quoted rest params := by
  rw [interpolateFrom.eq_def]
  simp only [quote, noSlot, if_false]

theorem interpolateFrom_slot (rest : List Char) (v : Value) (params : List Value) :
    interpolateFrom false ('?' :: rest) (v :: params) = v.literal.toList ++ interpolateFrom false rest params := by
  rw [interpolateFrom.eq_def]
  rfl

/-- A text that closes its quotes takes no value and is left as it is. -/
theorem interpolateFrom_closes {quoted : Bool} {s : List Char} (closed : closes quoted s = true)
    (rest : List Char) (params : List Value) :
    interpolateFrom quoted (s ++ rest) params = s ++ interpolateFrom false rest params := by
  induction s generalizing quoted with
  | nil =>
    cases quoted with
    | false => rfl
    | true => cases closed
  | cons c more ih =>
    rw [List.cons_append, List.cons_append]
    by_cases quote : c = '\x27'
    · subst quote
      rw [closes_quote] at closed
      rw [interpolateFrom_quote, ih closed]
    · obtain ⟨noSlot, later⟩ := (closes_other quote more).mp closed
      rw [interpolateFrom_other quote noSlot, ih later]

namespace Template

theorem inlined_cons (p : Piece) (t : Template) : inlined (p :: t) = p.inlined ++ inlined t := by
  rw [inlined, List.map_cons, String.join_cons]
  rfl

/-- The scan meets the slots in their order. -/
theorem interpolateFrom_sql {t : Template} (spelled : t.Spelled Enclosed) :
    interpolateFrom false t.sql.toList t.slots = t.inlined.toList := by
  induction t with
  | nil => rfl
  | cons p rest ih =>
    have later := ih fun s member => spelled s (List.mem_cons_of_mem p member)
    rw [sql_cons, inlined_cons, String.toList_append, String.toList_append]
    cases p with
    | text s =>
      -- The text ends outside of quotes, so the scan goes on behind it as it started.
      have closed := (enclosed_iff s).mp (spelled s List.mem_cons_self)
      rw [slots_text, Piece.sql, Piece.inlined, interpolateFrom_closes closed, later]
    | slot v =>
      have mark : (Piece.slot v).sql.toList = ['?'] := by rw [Piece.sql]; decide
      rw [slots_slot, mark, List.singleton_append, interpolateFrom_slot, later]
      rfl

theorem interpolate_sql {t : Template} (spelled : t.Spelled Enclosed) : interpolate t.sql t.slots = t.inlined := by
  rw [interpolate, interpolateFrom_sql spelled, String.ofList_toList]

end Template

namespace Draft

/-- A coherent draft's statement interpolates to its template with the values in place. -/
theorem interpolated_build {d : Draft} (coherent : d.Coherent) (spelled : d.Spelled Enclosed) :
    d.build.map Statement.interpolated = d.template.map Template.inlined := by
  rw [build_eq]
  cases made : d.template with
  | error e => rfl
  | ok t =>
    have params : d.params = t.slots := (params_of_coherent coherent).trans (slots_template made).symm
    have texts := spelled_template composable_enclosed spelled made
    rw [params]
    exact congrArg Except.ok (Template.interpolate_sql texts)

/-- However a draft is finished, if the texts that were given close their quotes and have question marks
between quotes alone, then there is an interpolated statement exactly if there is a template, with the same
complaint if there is none, and it is the template with every value's literal in its slot. -/
theorem interpolated_eq_inlined {d : Draft} (made : d.MadeFrom Enclosed) :
    d.interpolated = d.template.map Template.inlined ∧
      ∀ f : Finish, f.Given Enclosed →
        (d.statement f).map Statement.interpolated = (d.staged f >>= Draft.template).map Template.inlined := by
  have coherent := coherent_made made
  have spelled := spelled_made made
  constructor
  · rw [← interpolated_build coherent spelled, interpolated, build]
    cases d.toSql with
    | error e => rfl
    | ok sql => rfl
  · intro f given
    rw [statement_eq]
    cases turned : d.staged f with
    | error e => rfl
    | ok staged => exact interpolated_build (coherent_staged coherent given turned) (spelled_staged spelled given turned)

/-- A deletion with question marks in a fragment, in an expression and in a value full of quotes. -/
theorem interpolated_eq_inlined_delete :
    ((Draft.empty.applyAll [.table "t", .condition .and "note = 'why?'", .compare .or "a" "=" (.text "it's ?"),
        .isIn .and "b" [.raw "'x?y'", .null] true]).statement .delete).map Statement.interpolated =
      .ok "DELETE FROM t WHERE note = 'why?' OR a = 'it''s ?' AND b NOT IN ('x?y', NULL)" := by
  have made : (Draft.empty.applyAll [.table "t", .condition .and "note = 'why?'",
      .compare .or "a" "=" (.text "it's ?"), .isIn .and "b" [.raw "'x?y'", .null] true]).MadeFrom Enclosed :=
    ⟨_, by decide, rfl⟩
  rw [(interpolated_eq_inlined made).2 .delete trivial]
  rfl

end Draft
end SqlDraft
