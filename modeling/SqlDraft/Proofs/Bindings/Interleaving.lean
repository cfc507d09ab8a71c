import Mathlib.Data.List.DropRight
import SqlDraft.Proofs.Draft.Coherence

/-!
# Interleaved changes to bindings

Bindings are filled and cleared step by step, and steps for different parts come in any order. Each step does to a part
what depends on that part and changes no other (`of_perform`). So a part holds what was given to it behind the last step
that cleared it (`of_performAll`), and how the steps for one part stand among those for the others does not count
(`flattened_by_part`).
-/

namespace SqlDraft
namespace Bindings

/-- One change to bindings. -/
inductive Step
  | add (part : Part) (v : Value)
  | addAll (part : Part) (vs : List Value)
  | clear (part : Part)
  /-- Clears every part. -/
  | clearAll
  deriving DecidableEq

namespace Step

/-- Whether a step drops the values of a part. -/
def clears (part : Part) : Step → Bool
  | clear other => other = part
  | clearAll => true
  | add .. | addAll .. => false

/-- The values that a step gives to a part, expressions included. -/
def gives (part : Part) : Step → List Value
  | add other v => if other = part then [v] else []
  | addAll other vs => if other = part then vs else []
  | clear _ | clearAll => []

/-- Whether a step is about a part. -/
def concerns (part : Part) : Step → Bool
  | add other _ | addAll other _ | clear other => other = part
  | clearAll => true

end Step

/-- Makes one change. -/
def perform (b : Bindings) : Step → Bindings
  | .add part v => b.add part v
  | .addAll part vs => b.addAll part vs
  | .clear part => b.clear part
  | .clearAll => [Part.insert, .assign, .filter].foldl clear b

/-- Makes changes one after the other. -/
def performAll (b : Bindings) (steps : List Step) : Bindings := steps.foldl perform b

/-- The values given to a part behind the last step that clears it, each in its turn; expressions are not bound. -/
def given (part : Part) (steps : List Step) : List Value :=
  boundValues ((steps.rtakeWhile fun s => !s.clears part).flatMap (Step.gives part))

variable {part : Part}

theorem performAll_cons (b : Bindings) (s : Step) (rest : List Step) :
    b.performAll (s :: rest) = (b.perform s).performAll rest := rfl

theorem performAll_concat (b : Bindings) (steps : List Step) (s : Step) :
    b.performAll (steps ++ [s]) = (b.performAll steps).perform s := List.foldl_concat ..

/-- Bindings are their three parts. -/
theorem ext_of {b b' : Bindings} (same : ∀ part, b.of part = b'.of part) : b = b' := by
  obtain ⟨insert, assign, filter⟩ := b
  obtain ⟨insert', assign', filter'⟩ := b'
  obtain rfl : insert = insert' := same .insert
  obtain rfl : assign = assign' := same .assign
  obtain rfl : filter = filter' := same .filter
  rfl

/-! ## One step -/

theorem of_addAll_eq (b : Bindings) (other : Part) (vs : List Value) :
    (b.addAll other vs).of part = b.of part ++ boundValues (if other = part then vs else []) := by
  by_cases here : other = part
  · subst here
    rw [if_pos rfl, of_addAll, boundValues]
  · rw [if_neg here, of_addAll_other b here, boundValues_nil, List.append_nil]

theorem of_clearAll (b : Bindings) : (b.perform .clearAll).of part = [] := by
  cases part <;> rfl

/-- What a part holds behind a step: nothing of what it held if the step clears it, and then what the step gives. -/
theorem of_perform (b : Bindings) (s : Step) :
    (b.perform s).of part = (if s.clears part then [] else b.of part) ++ boundValues (s.gives part) := by
  cases s with
  | add other v => exact of_addAll_eq b other [v]
  | addAll other vs => exact of_addAll_eq b other vs
  | clear other =>
    rw [perform, of_clear]
    simp [Step.clears, Step.gives]
  | clearAll =>
    rw [of_clearAll]
    rfl

/-- A step about other parts leaves a part as it is. -/
theorem of_perform_of_apart (b : Bindings) {s : Step} (apart : s.concerns part = false) :
    (b.perform s).of part = b.of part := by
  rw [of_perform]
  cases s with
  | add other v => simp_all [Step.concerns, Step.clears, Step.gives]
  | addAll other vs => simp_all [Step.concerns, Step.clears, Step.gives]
  | clear other => simp_all [Step.concerns, Step.clears, Step.gives]
  | clearAll => cases apart

/-! ## Runs of steps -/

theorem given_concat (steps : List Step) (s : Step) :
    given part (steps ++ [s]) = (if s.clears part then [] else given part steps) ++ boundValues (s.gives part) := by
  rw [given, List.rtakeWhile_concat]
  cases clears : s.clears part with
  | false => simp [given]
  | true =>
    cases s with
    | add other v => cases clears
    | addAll other vs => cases clears
    | clear other => rfl
    | clearAll => rfl

/-- After a run of steps a part holds what was given to it since it was last cleared. -/
theorem of_performAll (steps : List Step) : (empty.performAll steps).of part = given part steps := by
  induction steps using List.reverseRecOn with
  | nil => cases part <;> rfl
  | append_singleton steps s ih => rw [performAll_concat, of_perform, ih, given_concat]

/-- What a part holds after a run depends on what it held before and on the steps about it. -/
theorem of_performAll_filter {b b' : Bindings} (same : b.of part = b'.of part) (steps : List Step) :
    (b.performAll steps).of part = (b'.performAll (steps.filter (Step.concerns part))).of part := by
  induction steps generalizing b b' with
  | nil => exact same
  | cons s rest ih =>
    cases concerned : s.concerns part with
    | false =>
      rw [performAll_cons, List.filter_cons_of_neg (by simp [concerned])]
      exact ih ((of_perform_of_apart b concerned).trans same)
    | true =>
      rw [performAll_cons, List.filter_cons_of_pos concerned, performAll_cons]
      refine ih ?_
      rw [of_perform, of_perform, same]

/-- After any steps the bound values are those that each part was given since it was last cleared, the parts in the order
of a statement and the values of a part in the order in which they were given, and the size is the number of these
values. Runs with the same steps about each part, in which a step that clears all is about every part, come to the same
bindings. -/
theorem flattened_by_part :
    (∀ steps, (empty.performAll steps).toList = given .insert steps ++ given .assign steps ++ given .filter steps ∧
      (empty.performAll steps).size = (empty.performAll steps).toList.length) ∧
    ∀ (b : Bindings) (steps steps' : List Step),
      (∀ part, steps.filter (Step.concerns part) = steps'.filter (Step.concerns part)) →
        b.performAll steps = b.performAll steps' := by
  refine ⟨fun steps => ⟨?_, (length_toList _).symm⟩, fun b steps steps' same => ext_of fun part => ?_⟩
  · rw [← of_performAll, ← of_performAll, ← of_performAll]
    rfl
  · calc (b.performAll steps).of part
        = (b.performAll (steps.filter (Step.concerns part))).of part := of_performAll_filter rfl steps
      _ = (b.performAll (steps'.filter (Step.concerns part))).of part := by rw [same part]
      _ = (b.performAll steps').of part := (of_performAll_filter rfl steps').symm

/-- Two runs that give to the parts in turn and clear one of them, and all of them in between. -/
theorem flattened_by_part_cleared :
    let steps : List Step := [.add .filter (.int 9), .clearAll, .addAll .filter [.int 5, .raw "NOW()"],
      .add .insert (.int 1), .add .assign .null, .clear .insert, .addAll .insert [.int 2, .int 3], .add .filter (.int 6)]
    let steps' : List Step := [.add .filter (.int 9), .clearAll, .add .insert (.int 1), .clear .insert,
      .addAll .insert [.int 2, .int 3], .add .assign .null, .addAll .filter [.int 5, .raw "NOW()"], .add .filter (.int 6)]
    (∀ part, steps.filter (Step.concerns part) = steps'.filter (Step.concerns part)) ∧
      empty.performAll steps = empty.performAll steps' ∧
      (empty.performAll steps).toList = [.int 2, .int 3, .null, .int 5, .int 6] := by
  intro steps steps'
  have same : ∀ part, steps.filter (Step.concerns part) = steps'.filter (Step.concerns part) := by
    intro part
    cases part <;> decide
  refine ⟨same, flattened_by_part.2 empty steps steps' same, ?_⟩
  rw [(flattened_by_part.1 steps).1]
  decide

end Bindings
end SqlDraft
