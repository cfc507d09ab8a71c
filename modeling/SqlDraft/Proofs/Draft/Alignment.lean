import SqlDraft.Proofs.Draft.Finish

/-!
# Question marks and bound values

A statement made of a draft has as many question marks as values, and they belong together in order
(`statement_aligned`). The text and the values come from two places, the clauses and the bindings; what
ties them is that a coherent draft binds what its template has slots for.
-/

namespace SqlDraft

/-- A text without question marks. -/
def Unmarked (s : String) : Prop := '?' ∉ s.toList

instance (s : String) : Decidable (Unmarked s) := inferInstanceAs (Decidable ('?' ∉ s.toList))

theorem composable_unmarked : Composable Unmarked := by
  constructor
  · intro a b first second member
    rw [String.toList_append] at member
    rcases List.mem_append.mp member with inFirst | inSecond
    · exact first inFirst
    · exact second inSecond
  · intro a plain member
    exact (plain '?' member).1 rfl

namespace Template

/-- Where no piece of text has a question mark, every question mark is a slot's. -/
theorem count_sql {t : Template} (spelled : t.Spelled Unmarked) : t.sql.toList.count '?' = t.slots.length := by
  induction t with
  | nil => rfl
  | cons p rest ih =>
    have later := ih fun s member => spelled s (List.mem_cons_of_mem p member)
    rw [sql_cons, String.toList_append, List.count_append, later]
    cases p with
    | text s =>
      have none : s.toList.count '?' = 0 := List.count_eq_zero.mpr (spelled s List.mem_cons_self)
      rw [Piece.sql, none, slots_text, Nat.zero_add]
    | slot v =>
      have one : (Piece.slot v).sql.toList.count '?' = 1 := by rw [Piece.sql]; decide
      rw [one, slots_slot, List.length_cons, Nat.add_comm]

/-- The slot of the value at a place divides a template so that there are as many slots before it. -/
theorem exists_slot {t : Template} {k : Nat} {v : Value} (at_k : t.slots[k]? = some v) :
    ∃ before after : Template, t = before ++ .slot v :: after ∧ before.slots.length = k := by
  induction t generalizing k with
  | nil => simp at at_k
  | cons p rest ih =>
    cases p with
    | text s =>
      rw [slots_text] at at_k
      obtain ⟨before, after, rfl, many⟩ := ih at_k
      exact ⟨.text s :: before, after, rfl, many⟩
    | slot w =>
      rw [slots_slot] at at_k
      cases k with
      | zero =>
        simp only [List.getElem?_cons_zero, Option.some.injEq] at at_k
        subst at_k
        exact ⟨[], rest, rfl, rfl⟩
      | succ k =>
        rw [List.getElem?_cons_succ] at at_k
        obtain ⟨before, after, rfl, many⟩ := ih at_k
        refine ⟨.slot w :: before, after, rfl, ?_⟩
        rw [slots_slot, List.length_cons, many]

end Template

/-- A statement is what a template becomes when its slots are separated from its text: every question mark
of the text belongs to the value at its place. -/
structure Statement.Aligned (st : Statement) (t : Template) : Prop where
  text : st.sql = t.sql
  values : st.params = t.slots
  count : st.sql.toList.count '?' = st.params.length
  bound : ∀ v ∈ st.params, v.isRaw = false
  marks : ∀ (k : Nat) (v : Value), st.params[k]? = some v → ∃ before after : Template,
    t = before ++ .slot v :: after ∧ st.sql = before.sql ++ "?" ++ after.sql ∧ before.sql.toList.count '?' = k

/-- The statement of a template whose text has no question marks is aligned with it. -/
theorem aligned_of_spelled {st : Statement} {t : Template} (text : st.sql = t.sql) (values : st.params = t.slots)
    (bound : ∀ v ∈ st.params, v.isRaw = false) (spelled : t.Spelled Unmarked) : st.Aligned t := by
  refine ⟨text, values, ?_, bound, ?_⟩
  · rw [text, values]
    exact Template.count_sql spelled
  · intro k v at_k
    rw [values] at at_k
    obtain ⟨before, after, split, many⟩ := Template.exists_slot at_k
    subst split
    have front : Template.Spelled Unmarked before := fun s member => spelled s (List.mem_append_left _ member)
    refine ⟨before, after, rfl, ?_, (Template.count_sql front).trans many⟩
    rw [text, Template.sql_append, Template.sql_cons, ← String.append_assoc]
    rfl

namespace Draft

/-- However a draft is finished, if no text that was given has a question mark, then the statement binds
what is written and what the conditions compare with, expressions apart, and each of its question marks is
the slot of the value at its place. -/
theorem statement_aligned {d : Draft} (made : d.MadeFrom Unmarked) {f : Finish} (given : f.Given Unmarked)
    {st : Statement} (ok : d.statement f = .ok st) :
    st.params = boundValues (f.written ++ d.clauses.conditionValues) ∧
      ∃ staged t, d.staged f = .ok staged ∧ staged.template = .ok t ∧ st.Aligned t := by
  rw [statement_eq] at ok
  obtain ⟨staged, turned, built⟩ := bind_eq_ok.mp ok
  obtain ⟨t, rendered, rfl⟩ := build_eq_ok built
  have params : staged.params = boundValues staged.named :=
    params_of_coherent (coherent_staged (coherent_made made) given turned)
  have named := named_staged made given turned
  have spelled := spelled_template composable_unmarked (spelled_staged (spelled_made made) given turned) rendered
  refine ⟨params.trans (congrArg boundValues named), staged, t, turned, rendered, ?_⟩
  refine aligned_of_spelled rfl (params.trans (slots_template rendered).symm) ?_ spelled
  intro v member
  rw [params] at member
  exact isRaw_of_mem_boundValues member

/-- An update with an expression among its assignments, one in a list and one at the end of a range. -/
theorem statement_aligned_update :
    ∃ st : Statement, (Draft.empty.applyAll [.table "t", .compare .and "c" " = " (.text "what?"),
          .isIn .or "d" [.bool true, .raw "now()", .text "it's"] false,
          .between .and "e" (.raw "low") .null]).statement
        (.update (.ofList [("a", .int 1), ("b", .raw "b + 1")])) = .ok st ∧
      st.sql = "UPDATE t SET a = ?, b = b + 1 WHERE c = ? OR d IN (?, now(), ?) AND e BETWEEN low AND ?" ∧
      st.params = [.int 1, .text "what?", .bool true, .text "it's", .null] ∧ ∃ t, st.Aligned t := by
  have made : (Draft.empty.applyAll [.table "t", .compare .and "c" " = " (.text "what?"),
      .isIn .or "d" [.bool true, .raw "now()", .text "it's"] false,
      .between .and "e" (.raw "low") .null]).MadeFrom Unmarked := ⟨_, by decide, rfl⟩
  have given : (Finish.update (.ofList [("a", .int 1), ("b", .raw "b + 1")])).Given Unmarked := by
    rw [Finish.Given]
    decide
  obtain ⟨_, _, t, _, _, aligned⟩ := statement_aligned made given (by rfl)
  exact ⟨_, by rfl, by rfl, by rfl, t, aligned⟩

end Draft
end SqlDraft
