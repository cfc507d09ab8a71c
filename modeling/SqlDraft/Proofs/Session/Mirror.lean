import SqlDraft.Proofs.Session.Terminals

/-!
# Accounts and what they watch

Keeping an account of the calls changes nothing: a query on a connection that keeps one ends as it does on
the connection itself, and leaves the store behind in the same state (`terminals_mirrored`). So what is
proved of the calls of a watched connection is true of the connection.
-/

namespace SqlDraft

variable {ε σ τ α β : Type}

/-- A computation on larger states does what another one does on the part of them that a view shows. -/
def Mirrored (view : τ → σ) (watched : ExceptT ε (StateM τ) α) (plain : ExceptT ε (StateM σ) α) : Prop :=
  ∀ t, plain (view t) = ((watched t).1, view (watched t).2)

theorem mirrored_pure (view : τ → σ) (a : α) :
    Mirrored view (pure a : ExceptT ε (StateM τ) α) (pure a) := by
  intro t
  rfl

theorem Mirrored.bind {view : τ → σ} {watched : ExceptT ε (StateM τ) α} {plain : ExceptT ε (StateM σ) α}
    {f : α → ExceptT ε (StateM τ) β} {g : α → ExceptT ε (StateM σ) β} (head : Mirrored view watched plain)
    (next : ∀ a, Mirrored view (f a) (g a)) : Mirrored view (watched >>= f) (plain >>= g) := by
  intro t
  rw [Call.bind_apply, Call.bind_apply, head t]
  rcases watched t with ⟨outcome, t'⟩
  cases outcome with
  | ok a => exact next a t'
  | error e => rfl

theorem Mirrored.map {view : τ → σ} {watched : ExceptT ε (StateM τ) α} {plain : ExceptT ε (StateM σ) α}
    (head : Mirrored view watched plain) (f : α → β) : Mirrored view (f <$> watched) (f <$> plain) := by
  rw [map_eq_pure_bind, map_eq_pure_bind]
  exact head.bind fun a => mirrored_pure view (f a)

theorem Mirrored.tryCatch {view : τ → σ} {watched : ExceptT ε (StateM τ) α} {plain : ExceptT ε (StateM σ) α}
    {f : ε → ExceptT ε (StateM τ) α} {g : ε → ExceptT ε (StateM σ) α} (body : Mirrored view watched plain)
    (handle : ∀ e, Mirrored view (f e) (g e)) :
    Mirrored view (tryCatch watched f) (tryCatch plain g) := by
  intro t
  rw [Call.tryCatch_apply, Call.tryCatch_apply, body t]
  rcases watched t with ⟨outcome, t'⟩
  cases outcome with
  | ok a => rfl
  | error e => exact handle e t'

/-! ## Calls -/

theorem mirrored_traced (request : Request) (call : Call σ α) :
    Mirrored Traced.store (call.traced request) call := by
  intro t
  rfl

theorem mirrored_bindAll (b : Backend σ) (position : Nat) (values : List Value) :
    Mirrored Traced.store (b.traced.bindAll position values) (b.bindAll position values) := by
  induction values generalizing position with
  | nil => exact mirrored_pure Traced.store ()
  | cons v rest ih => exact (mirrored_traced _ (b.bind position v v.typeHint)).bind fun _ => ih (position + 1)

/-! ## Actions -/

/-- What an account shows of a state that may be lent. -/
def Traced.slot (slot : Option (Traced σ)) : Option σ := slot.map Traced.store

theorem mirrored_ofUsage (r : Except UsageError α) :
    Mirrored Traced.slot (Action.ofUsage r : Action (Traced σ) α) (Action.ofUsage r) := by
  intro slot
  cases r with
  | ok a => rfl
  | error e => rfl

theorem mirrored_ofExcept (r : Except Failure α) :
    Mirrored Traced.slot (Action.ofExcept r : Action (Traced σ) α) (Action.ofExcept r) := by
  intro slot
  cases r with
  | ok a => rfl
  | error e => rfl

namespace Session

theorem mirrored_lend (s : Session σ) (wrap : BackendError → Failure) {watched : Call (Traced σ) α}
    {plain : Call σ α} (calls : Mirrored Traced.store watched plain) :
    Mirrored Traced.slot (s.traced.lend wrap watched) (s.lend wrap plain) := by
  intro slot
  cases slot with
  | none => rfl
  | some t =>
    rw [lend_some, Traced.slot, Option.map_some, lend_some, calls t]
    rfl

theorem mirrored_attempt (s : Session σ) {watched : Call (Traced σ) α} {plain : Call σ α}
    (calls : Mirrored Traced.store watched plain) :
    Mirrored Traced.slot (s.traced.attempt watched) (s.attempt plain) := by
  intro slot
  cases slot with
  | none => rfl
  | some t =>
    rw [Traced.slot, Option.map_some, attempt, calls t]
    rfl

theorem mirrored_run (s : Session σ) (st : Statement) {watched : Call (Traced σ) α} {plain : Call σ α}
    (reads : Mirrored Traced.store watched plain) :
    Mirrored Traced.slot (s.traced.run st watched) (s.run st plain) := by
  refine s.mirrored_lend _ ?_
  refine (mirrored_traced _ (s.backend.prepare st.sql)).bind fun _ => ?_
  refine (mirrored_bindAll s.backend 1 st.params).bind fun _ => ?_
  exact (mirrored_traced _ s.backend.execute).bind fun _ => reads

theorem mirrored_execute (s : Session σ) (st : Statement) :
    Mirrored Traced.slot (s.traced.execute st) (s.execute st) := by
  refine s.mirrored_run st ?_
  intro t
  rfl

theorem mirrored_fetchOne (s : Session σ) [OfRow α] (st : Statement) (cursor : Cursor) :
    Mirrored Traced.slot (s.traced.fetchOne st cursor : Action (Traced σ) (Option α)) (s.fetchOne st cursor) := by
  refine (s.mirrored_run st (mirrored_traced _ (s.backend.fetchOne cursor))).bind fun found => ?_
  cases found with
  | none => exact mirrored_pure Traced.slot none
  | some row => exact (mirrored_ofExcept (ofRow row)).map some

theorem mirrored_fetchAll (s : Session σ) [OfRow α] (st : Statement) :
    Mirrored Traced.slot (s.traced.fetchAll st : Action (Traced σ) (List α)) (s.fetchAll st) :=
  (s.mirrored_run st (mirrored_traced _ s.backend.fetchAll)).bind fun rows => mirrored_ofExcept (rows.mapM ofRow)

theorem mirrored_lastInsertId (s : Session σ) : Mirrored Traced.slot s.traced.lastInsertId s.lastInsertId :=
  s.mirrored_lend _ (mirrored_traced _ s.backend.lastInsertId)

end Session

/-! ## Queries -/

namespace Query

theorem mirrored_first (s : Session σ) (d : Draft) [OfRow α] :
    Mirrored Traced.slot ((traced s d).first : Action (Traced σ) (Option α)) (first ⟨some s, d⟩) :=
  (mirrored_ofUsage d.build).bind fun st => s.mirrored_fetchOne st .next

theorem mirrored_execute (s : Session σ) (d : Draft) :
    Mirrored Traced.slot (traced s d).execute (execute ⟨some s, d⟩) :=
  (mirrored_ofUsage d.build).bind fun st => s.mirrored_execute st

theorem mirrored_insert (s : Session σ) (d : Draft) (payload : InsertPayload) :
    Mirrored Traced.slot ((traced s d).insert payload) (insert ⟨some s, d⟩ payload) := by
  refine (mirrored_ofUsage (d.stageInsert payload)).bind fun staged => ?_
  refine (mirrored_ofUsage staged.build).bind fun st => ?_
  exact (s.mirrored_execute st).bind fun _ => s.mirrored_lastInsertId

theorem mirrored_updateOrInsert (s : Session σ) (d : Draft) (search update : Record) :
    Mirrored Traced.slot ((traced s d).updateOrInsert search update)
      (updateOrInsert ⟨some s, d⟩ search update) := by
  have looks := mirrored_first (α := Row) s ((traced s d).matching search).draft
  refine looks.bind fun found => ?_
  cases found with
  | some row => exact (mirrored_execute s (((traced s d).matching search).draft.stageUpdate update)).map Upsert.updated
  | none =>
    exact (mirrored_insert s ((traced s d).matching search).target.draft (.row (search.merge update))).map Upsert.inserted

/-- However a query is run, it ends and leaves the store as it does without an account. -/
theorem terminals_mirrored (s : Session σ) (d : Draft) :
    (∀ (α : Type) [OfRow α],
      Mirrored Traced.slot ((traced s d).get : Action (Traced σ) (List α)) (get ⟨some s, d⟩) ∧
        Mirrored Traced.slot ((traced s d).first : Action (Traced σ) (Option α)) (first ⟨some s, d⟩)) ∧
      (∀ column v, Mirrored Traced.slot ((traced s d).find column v) (find ⟨some s, d⟩ column v)) ∧
      (∀ function column,
        Mirrored Traced.slot ((traced s d).aggregate function column) (aggregate ⟨some s, d⟩ function column)) ∧
      (∀ payload, Mirrored Traced.slot ((traced s d).insert payload) (insert ⟨some s, d⟩ payload)) ∧
      (∀ assignments, Mirrored Traced.slot ((traced s d).update assignments) (update ⟨some s, d⟩ assignments)) ∧
      Mirrored Traced.slot (traced s d).delete (delete ⟨some s, d⟩) ∧
      ∀ search update, Mirrored Traced.slot ((traced s d).updateOrInsert search update)
        (updateOrInsert ⟨some s, d⟩ search update) := by
  refine ⟨?_, ?_, ?_, ?_, ?_, ?_, mirrored_updateOrInsert s d⟩
  · intro α _
    exact ⟨(mirrored_ofUsage d.build).bind fun st => s.mirrored_fetchAll st, mirrored_first s d⟩
  · intro column v
    exact mirrored_first s (d.equals column v)
  · intro function column
    exact (mirrored_first s (d.stageAggregate function column)).bind fun row => mirrored_pure Traced.slot _
  · exact mirrored_insert s d
  · intro assignments
    exact mirrored_execute s (d.stageUpdate assignments)
  · exact mirrored_execute s d.stageDelete

end Query
end SqlDraft
