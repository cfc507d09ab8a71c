import Mathlib.Data.List.Forall2
import SqlDraft.Proofs.Session.Mirror

/-!
# Statements call by call

The calls of a statement have an order: the text is prepared, its values are bound at the positions from one up,
each with its own hint, it is executed, and something is read. They are made in this order up to the first that
fails, and that failure is reported together with the statement (`calls_in_sequence`). If none fails, only a row
that cannot be made into what is asked for may be complained of.
-/

namespace SqlDraft

variable {σ α β γ : Type}

/-! ## The order of calls -/

/-- The calls of a statement before anything is read. -/
def Statement.sequence (st : Statement) : List Request :=
  .prepare st.sql :: ((st.params.zipIdx 1).map fun e => .bind e.2 e.1 e.1.typeHint) ++ [.execute]

theorem bindRequests_eq (position : Nat) (values : List Value) :
    bindRequests position values = (values.zipIdx position).map fun e => .bind e.2 e.1 e.1.typeHint := by
  induction values generalizing position with
  | nil => rfl
  | cons v rest ih => rw [bindRequests, ih, List.zipIdx_cons, List.map_cons]

theorem Statement.requests_eq (st : Statement) (read : List Request) : st.requests read = st.sequence ++ read := by
  rw [requests, bindRequests_eq, sequence]
  simp

/-- Calls are made in an order, and none behind one that failed. Unless one failed, all are made. -/
structure KeepsTo (sequence : List Request) (made : List Traced.Entry) : Prop where
  inOrder : made.map (·.request) <+: sequence
  stops : ∀ before entry after, made = before ++ entry :: after → entry.failure ≠ none → after = []
  whole : (∀ entry ∈ made, entry.failure = none) → made.map (·.request) = sequence

namespace Ran

variable {script : List Request} {entries : List Traced.Entry} {failure : Option BackendError}

theorem succeeded (ran : Ran script entries none) : ∀ entry ∈ entries, entry.failure = none := by
  generalize finished : (none : Option BackendError) = outcome at ran
  induction ran with
  | done => simp
  | stopped request rest e => cases finished
  | step request _ ih => exact List.forall_mem_cons.mpr ⟨finished, ih finished⟩

/-- The call that failed is the last one made. -/
theorem exists_failed {e : BackendError} (ran : Ran script entries (some e)) :
    ∃ done request, entries = done ++ [⟨request, some e⟩] ∧ ∀ entry ∈ done, entry.failure = none := by
  generalize failed : some e = outcome at ran
  induction ran with
  | done => cases failed
  | stopped request rest e' =>
    cases failed
    exact ⟨[], request, rfl, List.forall_mem_nil _⟩
  | step request _ ih =>
    obtain ⟨done, last, rfl, fine⟩ := ih failed
    exact ⟨⟨request, none⟩ :: done, last, rfl, List.forall_mem_cons.mpr ⟨rfl, fine⟩⟩

theorem failure_of_mem (ran : Ran script entries failure) {entry : Traced.Entry} (member : entry ∈ entries)
    {e : BackendError} (failed : entry.failure = some e) : failure = some e := by
  cases failure with
  | none =>
    have fine := ran.succeeded entry member
    rw [failed] at fine
    cases fine
  | some e' =>
    obtain ⟨done, request, rfl, fine⟩ := ran.exists_failed
    rcases List.mem_append.mp member with inside | last
    · have none := fine entry inside
      rw [failed] at none
      cases none
    · cases List.mem_singleton.mp last
      exact failed

theorem stops (ran : Ran script entries failure) {before after : List Traced.Entry} {entry : Traced.Entry}
    (split : entries = before ++ entry :: after) (failed : entry.failure ≠ none) : after = [] := by
  induction ran generalizing before with
  | done => simp at split
  | stopped request rest e =>
    cases before with
    | nil => cases split; rfl
    | cons first more => simp at split
  | step request _ ih =>
    cases before with
    | nil =>
      cases split
      exact absurd rfl failed
    | cons first more =>
      cases split
      exact ih rfl

theorem keepsTo (ran : Ran script entries failure) : KeepsTo script entries := by
  refine ⟨ran.requests_prefix, fun _ _ _ split failed => ran.stops split failed, ?_⟩
  intro fine
  cases failure with
  | none => exact ran.requests_of_none
  | some e =>
    obtain ⟨done, request, rfl, _⟩ := ran.exists_failed
    cases fine ⟨request, some e⟩ (by simp)

end Ran

/-- With one call that is asked for at the end only: it is asked for just if no other failed. -/
theorem KeepsTo.whole_iff {sequence : List Request} {last : Request} {made : List Traced.Entry}
    (keeps : KeepsTo (sequence ++ [last]) made) (apart : last ∉ sequence) :
    made.map (·.request) = sequence ++ [last] ↔ ∀ entry ∈ made, entry.failure ≠ none → entry.request = last := by
  constructor
  · intro whole entry member failed
    obtain ⟨before, after, rfl⟩ := List.append_of_mem member
    cases keeps.stops before entry after rfl failed
    rw [List.map_append, List.map_singleton] at whole
    exact List.singleton_inj.mp (List.append_inj' whole rfl).2
  · intro others
    by_cases fine : ∀ entry ∈ made, entry.failure = none
    · exact keeps.whole fine
    · obtain ⟨entry, member, failed⟩ : ∃ entry ∈ made, entry.failure ≠ none := by simpa using fine
      have asked : last ∈ made.map (·.request) := others entry member failed ▸ List.mem_map_of_mem member
      rcases List.prefix_concat_iff.mp keeps.inOrder with whole | short
      · exact whole
      · exact absurd (short.subset asked) apart

/-! ## What is read -/

/-- Rows are made into items one by one, and the first that cannot be is complained of. -/
def Decodes [OfRow α] (rows : List Row) : Except Failure (List α) → Prop
  | .ok items => List.Forall₂ (fun row item => ofRow row = .ok item) rows items
  | .error f => ∃ before row after, rows = before ++ row :: after ∧
    (∀ other ∈ before, ∃ item : α, ofRow other = .ok item) ∧ (ofRow row : Except Failure α) = .error f

theorem decodes_mapM [OfRow α] (rows : List Row) : Decodes rows (rows.mapM ofRow : Except Failure (List α)) := by
  induction rows with
  | nil => exact .nil
  | cons row rest ih =>
    rw [List.mapM_cons]
    cases first : (ofRow row : Except Failure α) with
    | error f => exact ⟨[], row, rest, rfl, List.forall_mem_nil _, first⟩
    | ok item =>
      cases others : (rest.mapM ofRow : Except Failure (List α)) with
      | ok items =>
        rw [others] at ih
        exact .cons first ih
      | error f =>
        rw [others] at ih
        obtain ⟨before, stuck, after, rfl, fine, fails⟩ := ih
        exact ⟨row :: before, stuck, after, rfl, List.forall_mem_cons.mpr ⟨⟨item, first⟩, fine⟩, fails⟩

/-- A row that may be missing, as it is asked for. -/
def decodeOne [OfRow α] : Option Row → Except Failure (Option α)
  | none => .ok none
  | some row => (ofRow row).map some

theorem decodes_decodeOne [OfRow α] (found : Option Row) :
    Decodes found.toList ((decodeOne found : Except Failure (Option α)).map Option.toList) := by
  cases found with
  | none => exact .nil
  | some row =>
    cases first : (ofRow row : Except Failure α) with
    | error f =>
      rw [decodeOne, first]
      exact ⟨[], row, [], rfl, List.forall_mem_nil _, first⟩
    | ok item =>
      rw [decodeOne, first]
      exact .cons first .nil

/-! ## Running a statement -/

/-- A statement is run from a state to the next, also where no account is kept: its calls keep to their order, and
the failure of a call is reported together with the statement. -/
structure Sequenced (watched : Action (Traced σ) α) (plain : Action σ α) (st : Statement) (read : List Request)
    (t t' : Traced σ) (made : List Traced.Entry) (outcome : Except Failure α) : Prop where
  watched : watched (some t) = (outcome, some t')
  plain : plain (some t.store) = (outcome, some t'.store)
  calls : t'.calls = t.calls ++ made
  keeps : KeepsTo (st.sequence ++ read) made
  reported : ∀ entry ∈ made, ∀ e, entry.failure = some e →
    outcome = .error (.query (interpolate st.sql st.params) e)

namespace Action

theorem ofExcept_some (r : Except Failure α) (store : σ) : ofExcept r (some store) = (r, some store) := by
  cases r with
  | ok a => rfl
  | error f => rfl

theorem map_ofExcept (f : α → β) (r : Except Failure α) :
    (f <$> ofExcept r : Action σ β) = ofExcept (r.map f) := by
  cases r with
  | ok a => rfl
  | error e => rfl

end Action

namespace Session

/-- A statement that is run, and what is made of what was read. -/
theorem run_sequenced (s : Session σ) (st : Statement) {read : Call (Traced σ) β} {script : List Request}
    (follows : read.Follows script) {make : β → Except Failure α} {watched : Action (Traced σ) α} {plain : Action σ α}
    (runs : watched = s.traced.run st read >>= fun b => Action.ofExcept (make b))
    (mirrored : Mirrored Traced.slot watched plain) (t : Traced σ) :
    ∃ outcome t' made, Sequenced watched plain st script t t' made outcome ∧
      ((∀ entry ∈ made, entry.failure = none) →
        ∃ before b, s.traced.backend.start st t = (.ok (), before) ∧ read before = (.ok b, t') ∧ outcome = make b) := by
  obtain ⟨result, t', made, run, calls, ran, reads⟩ := s.run_some st follows t
  rw [st.requests_eq] at ran
  have watches : watched (some t) = (result.mapError (.query st.interpolated) >>= make, some t') := by
    rw [runs, Call.bind_apply, run]
    cases result with
    | error e => rfl
    | ok b => exact Action.ofExcept_some (make b) t'
  have plainly : plain (some t.store) = (result.mapError (.query st.interpolated) >>= make, some t'.store) := by
    have same := mirrored (some t)
    rw [watches] at same
    exact same
  refine ⟨_, t', made, ⟨watches, plainly, calls, ran.keepsTo, ?_⟩, ?_⟩
  · intro entry member e failed
    have stopped := ran.failure_of_mem member failed
    cases result with
    | ok b => cases stopped
    | error e' =>
      cases stopped
      rfl
  · intro fine
    cases result with
    | error e =>
      obtain ⟨done, request, rfl, _⟩ := ran.exists_failed
      cases fine ⟨request, some e⟩ (by simp)
    | ok b =>
      obtain ⟨before, started, answered⟩ := reads b rfl
      exact ⟨before, b, started, answered, rfl⟩

theorem execute_eq (s : Session σ) (st : Statement) :
    s.execute st = s.run st (.reading s.backend.rowCount) >>= fun rows => Action.ofExcept (.ok rows) :=
  (bind_pure (s.execute st)).symm

theorem fetchOne_eq (s : Session σ) [OfRow α] (st : Statement) (cursor : Cursor) :
    (s.fetchOne st cursor : Action σ (Option α)) =
      s.run st (s.backend.fetchOne cursor) >>= fun found => Action.ofExcept (decodeOne found) := by
  refine bind_congr fun found => ?_
  cases found with
  | none => rfl
  | some row => exact Action.map_ofExcept some (ofRow row)

theorem fetchAll_eq (s : Session σ) [OfRow α] (st : Statement) :
    (s.fetchAll st : Action σ (List α)) =
      s.run st s.backend.fetchAll >>= fun rows => Action.ofExcept (rows.mapM ofRow) := rfl

/-- Rows are read at the end of a statement. The read is asked for just if no call before it failed, and if it did not
fail either, the rows that it gave are made into items. -/
structure Fetches (s : Session σ) [OfRow α] (st : Statement) (request : Request) (read : Call (Traced σ) β)
    (rows : β → List Row) (t t' : Traced σ) (made : List Traced.Entry) (items : Except Failure (List α)) : Prop where
  asked : made.map (·.request) = st.sequence ++ [request] ↔
    ∀ entry ∈ made, entry.failure ≠ none → entry.request = request
  decoded : (∀ entry ∈ made, entry.failure = none) → ∃ before b,
    s.traced.backend.start st t = (.ok (), before) ∧ read before = (.ok b, t') ∧ Decodes (rows b) items

theorem run_fetches (s : Session σ) [OfRow α] (st : Statement) {request : Request} {read : Call (Traced σ) β}
    (follows : read.Follows [request]) (apart : request ∉ st.sequence) {rows : β → List Row}
    {make : β → Except Failure γ} {items : γ → List α} (decodes : ∀ b, Decodes (rows b) ((make b).map items))
    {watched : Action (Traced σ) γ} {plain : Action σ γ}
    (runs : watched = s.traced.run st read >>= fun b => Action.ofExcept (make b))
    (mirrored : Mirrored Traced.slot watched plain) (t : Traced σ) :
    ∃ outcome t' made, Sequenced watched plain st [request] t t' made outcome ∧
      s.Fetches st request read rows t t' made (outcome.map items) := by
  obtain ⟨outcome, t', made, sequenced, finished⟩ := s.run_sequenced st follows runs mirrored t
  refine ⟨outcome, t', made, sequenced, sequenced.keeps.whole_iff apart, ?_⟩
  intro fine
  obtain ⟨before, b, started, answered, rfl⟩ := finished fine
  exact ⟨before, b, started, answered, decodes b⟩

/-- Whatever the statement, the state and the calls that fail: running a statement, reading one row of it and
reading all its rows make its calls in order, up to the first that fails, and report that failure with the statement.
The number of changed rows is given just if none failed. Where rows are read and none failed, only a row can be
complained of, and it is the first that cannot be made into what was asked for. -/
theorem calls_in_sequence (s : Session σ) (st : Statement) (t : Traced σ) :
    (∃ outcome t' made, Sequenced (s.traced.execute st) (s.execute st) st [] t t' made outcome ∧
      ((∀ entry ∈ made, entry.failure = none) ↔ outcome = .ok (s.backend.rowCount t'.store))) ∧
    ∀ (α : Type) [OfRow α],
      (∀ cursor, ∃ (outcome : Except Failure (Option α)) (t' : Traced σ) (made : List Traced.Entry),
        Sequenced (s.traced.fetchOne st cursor) (s.fetchOne st cursor) st [.fetchOne cursor] t t' made outcome ∧
          s.Fetches st (.fetchOne cursor) (s.traced.backend.fetchOne cursor) Option.toList t t' made
            (outcome.map Option.toList)) ∧
      ∃ (outcome : Except Failure (List α)) (t' : Traced σ) (made : List Traced.Entry),
        Sequenced (s.traced.fetchAll st) (s.fetchAll st) st [.fetchAll] t t' made outcome ∧
          s.Fetches st .fetchAll s.traced.backend.fetchAll id t t' made outcome := by
  refine ⟨?_, fun α _ => ⟨fun cursor => ?_, ?_⟩⟩
  · have follows := Call.follows_reading s.traced.backend.rowCount
    obtain ⟨outcome, t', made, sequenced, finished⟩ :=
      s.run_sequenced st follows (s.traced.execute_eq st) (s.mirrored_execute st) t
    refine ⟨outcome, t', made, sequenced, ?_, ?_⟩
    · intro fine
      obtain ⟨before, rows, _, counted, rfl⟩ := finished fine
      cases counted
      rfl
    · rintro rfl entry member
      cases failure : entry.failure with
      | none => rfl
      | some e => cases sequenced.reported entry member e failure
  · have follows : (s.traced.backend.fetchOne cursor).Follows [.fetchOne cursor] := Call.follows_traced _ _
    have apart : Request.fetchOne cursor ∉ st.sequence := by simp [Statement.sequence]
    exact s.run_fetches st follows apart decodes_decodeOne (s.traced.fetchOne_eq st cursor)
      (s.mirrored_fetchOne st cursor) t
  · have follows : s.traced.backend.fetchAll.Follows [.fetchAll] := Call.follows_traced _ _
    have apart : Request.fetchAll ∉ st.sequence := by simp [Statement.sequence]
    have decodes : ∀ rows, Decodes (id rows) ((rows.mapM ofRow : Except Failure (List α)).map id) := by
      intro rows
      rw [Except.map_id]
      exact decodes_mapM rows
    have fetches := s.run_fetches st follows apart decodes (s.traced.fetchAll_eq st) (s.mirrored_fetchAll st) t
    simpa only [Except.map_id, id] using fetches

end Session
end SqlDraft
