/-!
# Powers of two and ten

The powers that scale binary and decimal fractions.
-/

namespace SqlDraft

/-- The power of two with an exponent. -/
def twoTo (k : Nat) : Nat := Nat.pow 2 k

/-- The power of ten with an exponent. -/
def tenTo (k : Nat) : Nat := Nat.pow 10 k

@[simp] theorem tenTo_zero : tenTo 0 = 1 := rfl

theorem tenTo_succ (k : Nat) : tenTo (k + 1) = tenTo k * 10 := rfl

end SqlDraft
