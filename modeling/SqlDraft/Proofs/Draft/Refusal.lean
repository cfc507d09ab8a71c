import SqlDraft.Draft.Setter

/-!
# Refused operators

A setter whose operator is not known is refused. It leaves the draft as it is and a note of the refusal, and
only the first such note is kept: a run of setters ends with the first refusal in it
(`rejection_applyAll`), and otherwise as the run without the refused setters (`pardoned_applyAll`).
-/

namespace SqlDraft

/-- The refusal of a setter, if its operator is not known. -/
def Setter.refusal? : Setter → Option Rejection
  | .compare _ column operator _ =>
    if (Comparison.read? operator).isNone then some (.comparison operator column) else none
  | .join _ name _ operator _ =>
    if (Comparison.read? operator).isNone then some (.join operator name) else none
  | _ => none

theorem Setter.isRejected_eq (s : Setter) : s.isRejected = s.refusal?.isSome := by
  cases s with
  | compare connective column operator v =>
    simp only [isRejected, refusal?]
    cases Comparison.read? operator <;> rfl
  | join side name left operator right =>
    simp only [isRejected, refusal?]
    cases Comparison.read? operator <;> rfl
  | _ => rfl

theorem Setter.refusal?_of_accepted {s : Setter} (accepted : s.isRejected = false) : s.refusal? = none := by
  rw [s.isRejected_eq] at accepted
  simpa using accepted

/-- The first refusal of a run is that of a setter with none refused before it. -/
theorem Setter.exists_first_refusal {setters : List Setter} (refused : ∃ s ∈ setters, s.isRejected = true) :
    ∃ before s after cause, setters = before ++ s :: after ∧ (∀ x ∈ before, x.isRejected = false) ∧
      s.refusal? = some cause ∧ setters.findSome? refusal? = some cause := by
  obtain ⟨s, member, rejected⟩ := refused
  rw [s.isRejected_eq] at rejected
  obtain ⟨cause, found⟩ := Option.isSome_iff_exists.mp (List.findSome?_isSome_iff.mpr ⟨s, member, rejected⟩)
  obtain ⟨before, first, after, split, refuses, none⟩ := List.findSome?_eq_some_iff.mp found
  refine ⟨before, first, after, cause, split, ?_, refuses, found⟩
  intro x inside
  simp [x.isRejected_eq, none x inside]

namespace Draft

/-- The draft without the note of a refusal. -/
def pardoned (d : Draft) : Draft := { d with rejection := none }

theorem apply_of_refusal {s : Setter} {cause : Rejection} (refuses : s.refusal? = some cause) (d : Draft) :
    d.apply s = d.reject cause := by
  cases s with
  | compare connective column operator v =>
    simp only [Setter.refusal?, Option.isNone_iff_eq_none] at refuses
    split at refuses
    · next unknown =>
      cases refuses
      simp only [apply, compare, unknown]
    · cases refuses
  | join side name left operator right =>
    simp only [Setter.refusal?, Option.isNone_iff_eq_none] at refuses
    split at refuses
    · next unknown =>
      cases refuses
      simp only [apply, join, unknown]
    · cases refuses
  | _ => cases refuses

theorem apply_of_accepted {s : Setter} (accepted : s.isRejected = false) (d : Draft) :
    (d.apply s).rejection = d.rejection ∧ (d.apply s).pardoned = d.pardoned.apply s := by
  cases s with
  | compare connective column operator v =>
    simp only [apply, compare]
    split
    · exact ⟨rfl, rfl⟩
    · next unknown => simp [Setter.isRejected, unknown] at accepted
  | join side name left operator right =>
    simp only [apply, join]
    split
    · exact ⟨rfl, rfl⟩
    · next unknown => simp [Setter.isRejected, unknown] at accepted
  | _ => exact ⟨rfl, rfl⟩

theorem rejection_apply (d : Draft) (s : Setter) : (d.apply s).rejection = d.rejection.or s.refusal? := by
  by_cases refused : s.isRejected = true
  · obtain ⟨cause, refuses⟩ := Option.isSome_iff_exists.mp (s.isRejected_eq ▸ refused)
    rw [apply_of_refusal refuses, refuses, reject]
    cases d.rejection <;> rfl
  · have accepted := Bool.eq_false_iff.mpr refused
    rw [(apply_of_accepted accepted d).1, Setter.refusal?_of_accepted accepted, Option.or_none]

theorem pardoned_apply (d : Draft) (s : Setter) :
    (d.apply s).pardoned = if s.isRejected then d.pardoned else d.pardoned.apply s := by
  by_cases refused : s.isRejected = true
  · obtain ⟨cause, refuses⟩ := Option.isSome_iff_exists.mp (s.isRejected_eq ▸ refused)
    rw [if_pos refused, apply_of_refusal refuses]
    rfl
  · rw [if_neg refused]
    exact (apply_of_accepted (Bool.eq_false_iff.mpr refused) d).2

/-- Of the refusals in a run the first counts, and one from before the run counts before it. -/
theorem rejection_applyAll (d : Draft) (setters : List Setter) :
    (d.applyAll setters).rejection = d.rejection.or (setters.findSome? Setter.refusal?) := by
  induction setters generalizing d with
  | nil => simp
  | cons s rest ih =>
    rw [applyAll_cons, ih, rejection_apply, List.findSome?_cons, Option.or_assoc]
    cases s.refusal? <;> rfl

theorem pardoned_applyAll (d : Draft) (setters : List Setter) :
    (d.applyAll setters).pardoned = d.pardoned.applyAll (setters.filter (!·.isRejected)) := by
  induction setters generalizing d with
  | nil => rfl
  | cons s rest ih =>
    rw [applyAll_cons, ih, pardoned_apply]
    by_cases refused : s.isRejected = true
    · simp [refused]
    · simp [refused]

theorem rejection_of_accepted {d : Draft} {setters : List Setter} (accepted : ∀ s ∈ setters, s.isRejected = false) :
    (d.applyAll setters).rejection = d.rejection := by
  have none : setters.findSome? Setter.refusal? = none :=
    List.findSome?_eq_none_iff.mpr fun s member => Setter.refusal?_of_accepted (accepted s member)
  rw [rejection_applyAll, none, Option.or_none]

end Draft
end SqlDraft
