import GuardedSql.Proofs.Steps

/-! The life of a session. It is open from its start until a step ends it, and closed from then
on, even if the driver fails to close its connection. The connection is closed by one call. What
is asked of a closed session is refused without a call; what is asked of an open one leaves the
session as it was, however it goes. -/

namespace GuardedSql.Session

open Result (Fails)
open Failure (Within)

variable {s : Session} {step : Step} {r : Request}

/-- What a step may do in the life of a session. -/
structure Lives (s : Session) (step : Step) : Prop where
  closes : (s.step step).session.closed = true ↔ s.closed = true ∨ step = .close ∨ step = .exit
  silent : s.closed = true → (s.step step).calls = []
  refuses : s.closed = true → step.request?.isSome = true →
    (s.step step).answer = .error (.database { kind := .connection })
  /-- An open session is never said to be without a connection. -/
  answers : s.closed = false → step.request?.isSome = true → ∀ error,
    (s.step step).answer = .error (.database error) → error.kind ≠ .connection
  keeps : step.request?.isSome = true → (s.step step).session = s

theorem closed_eq_true_iff : s.closed = true ↔ s.connection = none := by
  rw [closed, Option.isNone_iff_eq_none]

theorem closed_step (s : Session) (step : Step) :
    (s.step step).session.closed = (s.closed || step.ends) := by
  rw [session_step, closed, closed]
  cases step.ends with
  | true => simp
  | false => simp

/-! Calls -/

theorem calls_of_closed (hclosed : s.connection = none) : (s.step step).calls = [] := by
  cases hr : step.request? with
  | some r => rw [step_of_closed hr hclosed, calls_conclude]
  | none =>
    cases hends : step.ends with
    | true => rw [step_of_ends hends, close_of_closed hclosed]
    | false => exact (step_of_quiet hr hends).1

/-- No query closes the connection. -/
theorem closeConnection_notMem_of_request (hr : step.request? = some r) :
    .closeConnection ∉ (s.step step).calls := by
  cases hconn : s.connection with
  | none => simp [calls_of_closed hconn]
  | some conn =>
    cases hprepare : prepare s.softDelete r.rowsExpected conn r.template r.replacements with
    | error f => simp [step_of_refused hr hconn hprepare]
    | ok prepared =>
      rw [step_of_prepared hr hconn hprepare, calls_conclude]
      exact Execution.closeConnection_notMem_run _ _ _ _

/-- The connection is closed by the step that ends the session and by no other. -/
theorem count_closeConnection_step (s : Session) (step : Step) :
    (s.step step).calls.count .closeConnection + s.closed.toNat
      = (s.step step).session.closed.toNat := by
  rw [closed_step]
  cases hconn : s.connection with
  | none =>
    rw [calls_of_closed hconn, closed_eq_true_iff.mpr hconn]
    rfl
  | some conn =>
    have hopen : s.closed = false := by rw [closed, hconn]; rfl
    rw [hopen, Bool.false_or]
    cases hends : step.ends with
    | true =>
      rw [step_of_ends hends, (close_of_open hconn).2]
      rfl
    | false =>
      have hnone : .closeConnection ∉ (s.step step).calls := by
        cases hr : step.request? with
        | some r => exact closeConnection_notMem_of_request hr
        | none => simp [(step_of_quiet hr hends).1]
      rw [List.count_eq_zero.mpr hnone]
      rfl

/-- Summed up over a run: one call for an end that took place in it. -/
theorem count_closeConnection_callsOf (s : Session) (taken : List Step) :
    (s.callsOf taken).count .closeConnection + s.closed.toNat = (s.after taken).closed.toNat := by
  induction taken generalizing s with
  | nil => exact Nat.zero_add _
  | cons step rest ih =>
    have hcalls : s.callsOf (step :: rest)
        = (s.step step).calls ++ (s.step step).session.callsOf rest := by
      simp only [callsOf, steps, List.flatMap_cons]
    have hafter : s.after (step :: rest) = (s.step step).session.after rest := rfl
    -- the count of every step is the difference that it makes to `closed`
    have hstep := count_closeConnection_step s step
    have hrest := ih (s.step step).session
    rw [hcalls, hafter, List.count_append]
    omega

/-! Answers -/

theorem answer_of_closed (hr : step.request? = some r) (hclosed : s.connection = none) :
    (s.step step).answer = .error (.database { kind := .connection }) := by
  rw [step_of_closed hr hclosed]
  rfl

/-- The kinds of errors that a query of an open session can end in. -/
def openKinds : List ErrorKind := [.encoding, .template, .guard, .shape, .execution]

theorem fails_finished (step : Step) (product : Product) (kind : Sql.CommandKind)
    (statement : Text) (reply : Reply) :
    Fails (Within openKinds)
      ((Execution.run product kind statement reply).2.bind step.finish) := by
  have hrun := Execution.fails_run product kind statement reply
  refine (Failure.fails_mono hrun (by simp [openKinds])).bind ?_
  intro outcome
  exact (step.fails_finish outcome).mono fun f hf => hf.within.mono (by simp [openKinds])

/-- The effect of a query of an open session: a conclusion from one of those errors, if any. -/
theorem exists_conclusion {conn : Connection} (hr : step.request? = some r)
    (hopen : s.connection = some conn) : ∃ calls records result,
      s.step step = s.conclude r.template calls records result ∧
        Fails (Within openKinds) result := by
  have hprepared := fails_prepare s.softDelete r.rowsExpected conn r.template r.replacements
  cases hprepare : prepare s.softDelete r.rowsExpected conn r.template r.replacements with
  | error f =>
    have hf : Within openKinds f := (hprepared f hprepare).mono (by simp [openKinds])
    exact ⟨_, _, _, step_of_refused hr hopen hprepare, Result.fails_error hf⟩
  | ok prepared => exact ⟨_, _, _, step_of_prepared hr hopen hprepare, fails_finished step _ _ _ _⟩

/-- A query of an open session may fail in many ways, but not for want of a connection. -/
theorem kind_ne_connection {conn : Connection} (hr : step.request? = some r)
    (hopen : s.connection = some conn) {error : DatabaseError}
    (h : (s.step step).answer = .error (.database error)) : error.kind ≠ .connection := by
  obtain ⟨calls, records, result, hstep, hresult⟩ := exists_conclusion hr hopen
  rw [hstep] at h
  obtain ⟨f, e, hf, hreported, rfl⟩ := exists_reported_of_answer h
  have hkind := kind_of_reported (hresult f hf) hreported
  intro hgeneric
  have hconnection : e.kind = .connection := hgeneric
  simp [hconnection, openKinds] at hkind

theorem session_of_request (hr : step.request? = some r) : (s.step step).session = s := by
  rw [step_of_request hr, session_conclude]

theorem lives (s : Session) (step : Step) : Lives s step := by
  refine ⟨?_, ?_, ?_, ?_, ?_⟩
  · rw [closed_step, Bool.or_eq_true, Step.ends_iff]
  · intro hclosed
    exact calls_of_closed (closed_eq_true_iff.mp hclosed)
  · intro hclosed hasked
    obtain ⟨r, hr⟩ := Option.isSome_iff_exists.mp hasked
    exact answer_of_closed hr (closed_eq_true_iff.mp hclosed)
  · intro hopen hasked error
    obtain ⟨r, hr⟩ := Option.isSome_iff_exists.mp hasked
    cases hconn : s.connection with
    | none => simp [closed_eq_true_iff.mpr hconn] at hopen
    | some conn => exact kind_ne_connection hr hconn
  · intro hasked
    obtain ⟨r, hr⟩ := Option.isSome_iff_exists.mp hasked
    exact session_of_request hr

/-! Runs -/

/-- A query leaves no trace: the other steps of a run have the effects that they have
without it. -/
theorem eraseIdx_steps (s : Session) (before rest : List Step) {query : Step}
    (hquery : query.request?.isSome = true) :
    (s.steps (before ++ query :: rest)).eraseIdx before.length = s.steps (before ++ rest) := by
  obtain ⟨r, hr⟩ := Option.isSome_iff_exists.mp hquery
  rw [steps_append, steps_append, steps, session_of_request hr,
    List.eraseIdx_append_of_length_le (Nat.le_of_eq (length_steps s before)), length_steps,
    Nat.sub_self, List.eraseIdx_cons_zero]

theorem closed_of_start {settings : Config.Settings} {given : Option Config.DataSource}
    {database : Option Text} {softDelete : Option Bool}
    {connect : Product → Except StoreError Connection}
    (h : (start settings given database softDelete connect).session = .ok s) :
    s.closed = false := by
  unfold start at h
  split at h
  · cases h
  · dsimp only at h
    split at h
    · obtain rfl := Except.ok.inj h
      rfl
    · split at h <;> cases h

/-- The life of every session that starts. Its connection is closed at most once, and has been
if the session is closed; every step keeps to the life of a session; and a query leaves no trace
in what comes after it. -/
theorem lives_of_start {settings : Config.Settings} {given : Option Config.DataSource}
    {database : Option Text} {softDelete : Option Bool}
    {connect : Product → Except StoreError Connection}
    (h : (start settings given database softDelete connect).session = .ok s) :
    s.closed = false ∧
    (∀ taken, (s.callsOf taken).count .closeConnection ≤ 1 ∧
      (.closeConnection ∈ s.callsOf taken ↔ (s.after taken).closed = true)) ∧
    (∀ taken step, Lives (s.after taken) step) ∧
    ∀ before query rest, query.request?.isSome = true →
      (s.steps (before ++ query :: rest)).eraseIdx before.length = s.steps (before ++ rest) := by
  have hopen := closed_of_start h
  refine ⟨hopen, ?_, fun taken step => lives _ step,
    fun before query rest hquery => eraseIdx_steps s before rest hquery⟩
  intro taken
  have hcount := count_closeConnection_callsOf s taken
  rw [hopen, Bool.toNat_false, Nat.add_zero] at hcount
  rw [← List.count_pos_iff, hcount]
  cases (s.after taken).closed with
  | true => simp
  | false => simp

/-- A close that fails is a close: there is no second one. -/
theorem closed_once_by_failing_close :
    (start {} (some ⟨.sqlite, none, none, ":memory:".toList, none, []⟩) none none
        fun _ => .ok ⟨.sqlite, {}, some ⟨.system, "OSError", []⟩⟩).session
      = .ok ⟨.sqlite, true, some ⟨.sqlite, {}, some ⟨.system, "OSError", []⟩⟩⟩ ∧
    (callsOf ⟨.sqlite, true, some ⟨.sqlite, {}, some ⟨.system, "OSError", []⟩⟩⟩
      [.close, .exit]).count .closeConnection ≤ 1 ∧
    .closeConnection ∈ callsOf ⟨.sqlite, true, some ⟨.sqlite, {}, some ⟨.system, "OSError", []⟩⟩⟩
      [.close, .exit] := by
  have hstart : (start {} (some ⟨.sqlite, none, none, ":memory:".toList, none, []⟩) none none
      fun _ => .ok ⟨.sqlite, {}, some ⟨.system, "OSError", []⟩⟩).session
      = .ok ⟨.sqlite, true, some ⟨.sqlite, {}, some ⟨.system, "OSError", []⟩⟩⟩ := rfl
  obtain ⟨-, hcalls, -⟩ := lives_of_start hstart
  obtain ⟨honce, hcalled⟩ := hcalls [.close, .exit]
  exact ⟨hstart, honce, hcalled.mpr rfl⟩

end GuardedSql.Session
