import GuardedSql.Proofs.Steps

/-! What may reach the store. A statement is executed only if it was made of the template and the
values of the step, in the escaping of the store's mode at that step, and let through by a guard
that reads it in the same mode. It is executed once, and a step that is refused calls nothing. -/

namespace GuardedSql

/-- The errors that stand for a statement that was not run. -/
def DatabaseError.IsRefusal (e : DatabaseError) : Prop :=
  e.kind ∈ [.connection, .encoding, .template, .guard] ∨
    ∃ kind, e = (Fault.shape (.notSelect kind)).error

/-- The statement of a query over a connection: its template filled for the connection's mode,
which a guard for the same mode lets through. -/
def Request.Admits (r : Request) (softDelete : Bool) (conn : Connection) (sql : Text) : Prop :=
  ∃ kind, Template.substitute conn.mode.dialect conn.escaper r.template r.replacements = .ok sql ∧
    Guard.classify ⟨softDelete, conn.mode.dialect⟩ (.text sql) = .ok kind ∧
    (r.rowsExpected = true → kind = .select)

theorem Request.admits_iff {r : Request} {softDelete : Bool} {conn : Connection} {sql : Text} :
    r.Admits softDelete conn sql ↔
      ∃ kind, Session.prepare softDelete r.rowsExpected conn r.template r.replacements
        = .ok (sql, kind) := by
  simp only [Session.prepare_eq_ok_iff]
  rfl

/-- The statements that a step had the store execute. -/
def Effect.executed (effect : Effect) : List Text := effect.calls.filterMap Call.executed?

/-- What a step may do to the store over the connection that there is. -/
structure Confined (softDelete : Bool) (conn? : Option Connection) (step : Step)
    (effect : Effect) : Prop where
  once : effect.executed.length ≤ 1
  executed : ∀ sql, sql ∈ effect.executed ↔ ∃ r conn, step.request? = some r ∧
    conn? = some conn ∧ r.Admits softDelete conn sql ∧ r.reply.openError = none
  /-- A refusal that was recorded. -/
  refused : ∀ error shown, .failed error shown ∈ effect.records → error.IsRefusal →
    effect.calls = []
  /-- A refusal that the caller was told of. -/
  told : ∀ error, effect.answer = .error (.database error) →
    error.kind ∈ [.connection, .encoding, .template, .guard] → effect.calls = []

/-! Errors of what was run -/

/-- The words for a command that is no SELECT are used for nothing else. -/
theorem notSelect_of_error_eq {f : ShapeFault} {kind : Sql.CommandKind}
    (h : (Fault.shape f).error = (Fault.shape (.notSelect kind)).error) : f = .notSelect kind := by
  have hdetail : f.detail = (ShapeFault.notSelect kind).detail := by injection h
  -- no other detail begins with this letter
  have hinitial : f.detail.toList.head? = some 's' := by
    rw [hdetail]
    cases kind <;> decide
  cases f with
  | noRowSet => exact absurd hinitial (by decide)
  | rowCount found =>
    have hwords : (ShapeFault.rowCount found).detail
        = "expected exactly one row, found " ++ toString found := rfl
    rw [hwords, String.toList_append] at hinitial
    simp at hinitial
  | missingColumn name =>
    have hwords : (ShapeFault.missingColumn name).detail
        = "column " ++ (String.ofList (Text.quoted name) ++ " not in result") :=
      String.append_assoc
    rw [hwords, String.toList_append] at hinitial
    simp at hinitial
  | notSelect kind' =>
    rw [ShapeFault.notSelect.injEq]
    cases kind <;> cases kind' <;> first | rfl | exact absurd hdetail (by decide)

theorem not_isRefusal_of_execution {e : DatabaseError} (h : e.kind = .execution) :
    ¬ e.IsRefusal := by
  rintro (hkind | ⟨kind, rfl⟩)
  · simp [h] at hkind
  · cases h

theorem not_isRefusal_of_misshapen {f : Failure} {e : DatabaseError} (hf : f.Misshapen)
    (h : Session.reported? f = some e) : ¬ e.IsRefusal := by
  rcases hf with rfl | ⟨fault, rfl, hfault⟩
  · cases h
  · obtain rfl := Option.some.inj h
    rintro (hkind | ⟨kind, heq⟩)
    · simp [Fault.error, Fault.kind] at hkind
    · exact hfault kind (notSelect_of_error_eq heq)

/-- What is reported of a statement that was run is no refusal. -/
theorem not_isRefusal_of_run {product : Product} {kind : Sql.CommandKind} {statement : Text}
    {reply : Reply} {step : Step} {f : Failure} {e : DatabaseError}
    (hf : (Execution.run product kind statement reply).2.bind step.finish = .error f)
    (h : Session.reported? f = some e) : ¬ e.IsRefusal := by
  cases hrun : (Execution.run product kind statement reply).2 with
  | error f' =>
    rw [hrun] at hf
    obtain rfl := Except.error.inj hf
    have hkind := Session.kind_of_reported (Execution.fails_run _ _ _ _ _ hrun) h
    exact not_isRefusal_of_execution (by simpa using hkind)
  | ok outcome =>
    rw [hrun] at hf
    exact not_isRefusal_of_misshapen (step.fails_finish outcome f hf) h

namespace Session

theorem confined_of_idle {softDelete : Bool} {conn? : Option Connection} {step : Step}
    {effect : Effect} (hcalls : effect.calls = [])
    (hnone : ∀ r conn sql, step.request? = some r → conn? = some conn →
      ¬ r.Admits softDelete conn sql) : Confined softDelete conn? step effect := by
  refine ⟨?_, ?_, fun _ _ _ _ => hcalls, fun _ _ _ => hcalls⟩
  · rw [Effect.executed, hcalls]
    exact Nat.zero_le _
  · intro sql
    rw [Effect.executed, hcalls]
    constructor
    · intro hsql
      cases hsql
    · rintro ⟨r, conn, hr, hconn, hadmits, -⟩
      exact (hnone r conn sql hr hconn hadmits).elim

theorem confined_of_prepared {s : Session} {step : Step} {r : Request} {conn : Connection}
    {statement : Text} {kind : Sql.CommandKind} (hr : step.request? = some r)
    (hopen : s.connection = some conn)
    (h : prepare s.softDelete r.rowsExpected conn r.template r.replacements
      = .ok (statement, kind)) :
    Confined s.softDelete s.connection step (s.step step) := by
  have hexecuted : (s.step step).executed
      = if r.reply.openError.isSome then [] else [statement] := by
    rw [Effect.executed, step_of_prepared hr hopen h, calls_conclude, Execution.executed_run]
  have hrecords : ∀ error shown, .failed error shown ∉ recordsOf conn statement kind
      (Execution.run s.product kind statement r.reply).2 := by
    intro error shown
    cases (Execution.run s.product kind statement r.reply).2 <;> simp [recordsOf]
  refine ⟨?_, ?_, ?_, ?_⟩
  · rw [hexecuted]
    split <;> simp
  · intro sql
    rw [hexecuted]
    constructor
    · intro hsql
      cases hcursor : r.reply.openError with
      | some e => simp [hcursor] at hsql
      | none =>
        obtain rfl : sql = statement := by simpa [hcursor] using hsql
        exact ⟨r, conn, hr, hopen, Request.admits_iff.mpr ⟨kind, h⟩, hcursor⟩
    · rintro ⟨r', conn', hr', hopen', hadmits, hcursor⟩
      obtain rfl := Option.some.inj (hr.symm.trans hr')
      obtain rfl := Option.some.inj (hopen.symm.trans hopen')
      obtain ⟨kind', h'⟩ := Request.admits_iff.mp hadmits
      obtain ⟨rfl, -⟩ := Prod.mk.inj (Except.ok.inj (h.symm.trans h'))
      simp [hcursor]
  · intro error shown hfailed hrefusal
    rw [step_of_prepared hr hopen h] at hfailed
    rcases exists_reported_of_failed hfailed with hmem | ⟨f, hf, hreported⟩
    · exact (hrecords _ _ hmem).elim
    · exact (not_isRefusal_of_run hf hreported hrefusal).elim
  · intro error htold hkind
    rw [step_of_prepared hr hopen h] at htold
    obtain ⟨f, e, hf, hreported, rfl⟩ := exists_reported_of_answer htold
    exact (not_isRefusal_of_run hf hreported (.inl hkind)).elim

theorem confined_of_ends {s : Session} {step : Step} (hends : step.ends = true) :
    Confined s.softDelete s.connection step (s.step step) := by
  have hexecuted : s.close.executed = [] := by
    cases hconn : s.connection with
    | none => rw [close_of_closed hconn]; rfl
    | some conn => rw [Effect.executed, (close_of_open hconn).2]; rfl
  have hrequest : step.request? = none := by
    rcases step.ends_iff.mp hends with rfl | rfl <;> rfl
  obtain ⟨hanswer, hrecords⟩ := close_told (s := s)
  rw [step_of_ends hends]
  refine ⟨?_, ?_, ?_, ?_⟩
  · rw [hexecuted]
    exact Nat.zero_le 1
  · intro sql
    simp [hexecuted, hrequest]
  · intro error shown hfailed
    cases hrecords _ hfailed
  · intro error htold
    exact (hanswer error htold).elim

/-- A step is confined, whichever way it goes. -/
theorem confined_step (s : Session) (step : Step) :
    Confined s.softDelete s.connection step (s.step step) := by
  cases hr : step.request? with
  | none =>
    cases hends : step.ends with
    | true => exact confined_of_ends hends
    | false =>
      refine confined_of_idle (step_of_quiet hr hends).1 ?_
      intro r conn sql hr'
      cases hr.symm.trans hr'
  | some r =>
    cases hconn : s.connection with
    | none =>
      refine confined_of_idle ?_ ?_
      · rw [step_of_closed hr hconn, calls_conclude]
      · intro r conn sql _ hconn'
        cases hconn'
    | some conn =>
      rw [← hconn]
      cases hprepare : prepare s.softDelete r.rowsExpected conn r.template r.replacements with
      | ok prepared => exact confined_of_prepared hr hconn hprepare
      | error f =>
        -- a preparation that fails admits no statement, so that none was held back
        refine confined_of_idle ?_ ?_
        · rw [step_of_refused hr hconn hprepare, calls_conclude]
        · intro r' conn' sql hr' hconn' hadmits
          obtain rfl := Option.some.inj (hr.symm.trans hr')
          obtain rfl := Option.some.inj (hconn.symm.trans hconn')
          obtain ⟨kind, hok⟩ := Request.admits_iff.mp hadmits
          cases hprepare.symm.trans hok

/-- In every run, a step has at most one statement executed: the one that its template and values
make in the mode that the store is in by then, let through in the same mode. A step that is
refused calls nothing. -/
theorem steps_confined (s : Session) (before : List Step) (step : Step) (rest : List Step) :
    ∃ effect, (s.steps (before ++ step :: rest))[before.length]? = some effect ∧
      Confined s.softDelete (s.connectionAt before) step effect := by
  refine ⟨_, getElem?_steps s before step rest, ?_⟩
  rw [after_eq]
  exact confined_step { s with connection := s.connectionAt before } step

end Session

end GuardedSql
