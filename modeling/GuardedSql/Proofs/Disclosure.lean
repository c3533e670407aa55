import GuardedSql.Proofs.Lifecycle

/-! What is made known of a failure. The caller is told the kind of an error in general words, so
that all errors of a kind look the same; the log gets one record of it that holds the error in
full. What goes well leaves no such record, and leaves one of its own for each statement whose
result was read. Errors that no kind stands for pass by the log. -/

namespace GuardedSql

open Sql (CommandKind redact segments)
open Config (DataSource Settings)

/-- The error that a failure within a query is: a fault as it was found, or an error of the driver
that reached the end of the query and counts as a failed execution. -/
inductive Failure.IsError : Failure → DatabaseError → Prop
  | fault (error : DatabaseError) : IsError (.database error) error
  | driver {e : StoreError} : e.fromDriver = true →
      IsError (.raised e) (Fault.execution (.refused e)).error

/-- What is made known of an inner error: to the caller its kind and no more, to the log all of
it, in a single record. -/
structure Disclosed (inner : DatabaseError) (template : Option Text) (told : DatabaseError)
    (records : List Record) : Prop where
  kind : told.kind = inner.kind
  text : told.text = inner.kind.publicMessage
  detail : told.detail = ""
  cause : told.cause = none
  category : inner.kind.category = "database"
  recorded : ∃ record, records.filter (·.level == .error) = [record] ∧
    record.error? = some inner ∧
    record.message = inner.kind.name ++ ": " ++ inner.text ++ " (template: "
      ++ String.ofList (template.getD ['-']) ++ ")"

/-- An attempt whose errors are disclosed. `Inner` holds of the error that it failed with
inside. -/
structure Accounted {α : Type} (Inner : DatabaseError → Prop) (template : Option Text)
    (answer : Except Failure α) (records : List Record) : Prop where
  disclosed : ∀ told, answer = .error (.database told) →
    ∃ inner, Inner inner ∧ Disclosed inner template told records
  /-- No inner error is kept from the caller. -/
  told : ∀ inner, Inner inner → ∃ told, answer = .error (.database told)
  silent : (∀ told, answer ≠ .error (.database told)) →
    ∀ record ∈ records, record.level ≠ .error

theorem Disclosed.told_eq {inner told : DatabaseError} {template : Option Text}
    {records : List Record} (h : Disclosed inner template told records) :
    told = { kind := told.kind } := by
  cases told with
  | mk kind detail cause =>
    obtain rfl : detail = "" := h.detail
    obtain rfl : cause = none := h.cause
    rfl

/-- One record of an inner error in full is all that the log needs. -/
theorem disclosed_generic (inner : DatabaseError) (template : Option Text) {records : List Record}
    (h : records.filter (·.level == .error) = [.failed inner template]) :
    Disclosed inner template inner.generic records :=
  ⟨rfl, rfl, rfl, rfl, rfl, _, h, rfl, rfl⟩

/-! Starts -/

/-- The error of a connection that a driver or the system failed to open. -/
def StartFails (settings : Settings) (given : Option DataSource) (database : Option Text)
    (connect : Product → Except StoreError Connection) (inner : DatabaseError) : Prop :=
  ∃ ds e, Session.chooseSource settings given database = .ok ds ∧ connect ds.product = .error e ∧
    (e.fromDriver = true ∨ e.fromSystem = true) ∧
    inner = (Fault.connection (.failed ds.product ds.database e)).error

theorem accounted_start (settings : Settings) (given : Option DataSource)
    (database : Option Text) (softDelete : Option Bool)
    (connect : Product → Except StoreError Connection) :
    Accounted (StartFails settings given database connect) none
      (Session.start settings given database softDelete connect).session
      (Session.start settings given database softDelete connect).records := by
  -- a start that fails in no such way has neither an inner error nor a record
  have hquiet : ∀ answer : Except Failure Session,
      (∀ told, answer ≠ .error (.database told)) →
      (∀ inner, ¬ StartFails settings given database connect inner) →
      Accounted (StartFails settings given database connect) none answer [] := by
    intro answer hanswer hnone
    refine ⟨?_, ?_, by simp⟩
    · intro told htold
      exact absurd htold (hanswer told)
    · intro inner hinner
      exact absurd hinner (hnone inner)
  unfold Session.start
  cases hsource : Session.chooseSource settings given database with
  | error problems =>
    refine hquiet _ (by simp) ?_
    rintro inner ⟨ds, e, hds, -⟩
    cases hsource.symm.trans hds
  | ok ds =>
    dsimp only
    cases hconnect : connect ds.product with
    | ok conn =>
      refine hquiet _ (by simp) ?_
      rintro inner ⟨ds', e, hds, hfailed, -⟩
      obtain rfl := Except.ok.inj (hsource.symm.trans hds)
      cases hconnect.symm.trans hfailed
    | error e =>
      dsimp only
      split
      case isTrue hreports =>
        refine ⟨?_, ?_, ?_⟩
        · intro told htold
          obtain rfl := Failure.database.inj (Except.error.inj htold)
          exact ⟨_, ⟨ds, e, hsource, hconnect, by simpa using hreports, rfl⟩,
            disclosed_generic _ none rfl⟩
        · intro inner _
          exact ⟨_, rfl⟩
        · intro hsilent
          exact absurd rfl (hsilent _)
      case isFalse hpasses =>
        refine hquiet _ (by simp) ?_
        rintro inner ⟨ds', e', hds, hfailed, hreports, -⟩
        obtain rfl := Except.ok.inj (hsource.symm.trans hds)
        obtain rfl := Except.error.inj (hconnect.symm.trans hfailed)
        exact hpasses (by simpa using hreports)

/-! Steps -/

namespace Session

variable {s : Session} {step : Step} {r : Request} {template : Value} {calls : List Call}
  {records : List Record} {result : Except Failure Answer}

/-- What a query comes to inside, before anything of it is made known. -/
def inner (s : Session) (step : Step) (r : Request) : Except Failure Answer :=
  (s.run r.rowsExpected r.template r.replacements r.reply).2.2.bind step.finish

/-- The error that a step fails with inside, if it is a query. -/
def StepFails (s : Session) (step : Step) (error : DatabaseError) : Prop :=
  ∃ r f, step.request? = some r ∧ s.inner step r = .error f ∧ f.IsError error

/-- A statement that a step had the store execute, with a result that was read. -/
def Returned (s : Session) (step : Step) (conn : Connection) (statement : Text)
    (kind : CommandKind) : Prop :=
  ∃ r outcome, step.request? = some r ∧ s.connection = some conn ∧
    prepare s.softDelete r.rowsExpected conn r.template r.replacements = .ok (statement, kind) ∧
    (Execution.run s.product kind statement r.reply).2 = .ok outcome

/-- What a step makes known. -/
structure Tells (s : Session) (step : Step) : Prop where
  failures : Accounted (s.StepFails step) (step.request?.bind fun r => shownTemplate? r.template)
    (s.step step).answer (s.step step).records
  returned : ∀ conn statement kind, s.Returned step conn statement kind →
    (s.step step).records.filter (·.level == .debug)
      = [.executed kind (redact (segments conn.mode.dialect statement))]
  unreturned : (∀ conn statement kind, ¬ s.Returned step conn statement kind) →
    ∀ record ∈ (s.step step).records, record.level ≠ .debug

theorem reported?_eq_some_iff {f : Failure} {error : DatabaseError} :
    reported? f = some error ↔ f.IsError error := by
  constructor
  · intro h
    cases f with
    | database e =>
      obtain rfl := Option.some.inj h
      exact .fault e
    | raised e =>
      simp only [reported?] at h
      split at h
      case isTrue hdriver =>
        obtain rfl := Option.some.inj h
        exact .driver hdriver
      case isFalse => cases h
    | _ => cases h
  · rintro (_ | hdriver)
    · rfl
    · simp [reported?, hdriver]

/-- A conclusion adds the record of a failure and nothing else. -/
theorem records_conclude : (s.conclude template calls records result).records
    = records ++ (match result with
      | .ok _ => []
      | .error f => (reported? f).toList.map (.failed · (shownTemplate? template))) := by
  unfold conclude
  cases result with
  | ok answer => simp
  | error f => cases hreported : reported? f <;> simp [hreported]

theorem answer_conclude : (s.conclude template calls records result).answer
    = result.mapError fun f => (reported? f).elim f (.database ·.generic) := by
  unfold conclude
  cases result with
  | ok answer => rfl
  | error f => cases hreported : reported? f <;> simp [hreported, Except.mapError]

theorem accounted_conclude {Inner : DatabaseError → Prop}
    (hinner : ∀ error, Inner error ↔ ∃ f, result = .error f ∧ reported? f = some error)
    (hrecords : ∀ record ∈ records, record.level = .debug) :
    Accounted Inner (shownTemplate? template)
      (s.conclude template calls records result).answer
      (s.conclude template calls records result).records := by
  rw [answer_conclude, records_conclude]
  cases result with
  | ok answer =>
    refine ⟨by rintro told ⟨⟩, ?_, ?_⟩
    · intro error herror
      obtain ⟨f, hf, -⟩ := (hinner error).mp herror
      cases hf
    · intro _ record hrecord
      simp [hrecords record (by simpa using hrecord)]
  | error f =>
    cases hreported : reported? f with
    | none =>
      refine ⟨?_, ?_, ?_⟩
      · intro told htold
        obtain rfl : f = .database told := by simpa [Except.mapError, hreported] using htold
        cases hreported
      · intro error herror
        obtain ⟨f', hf', hreported'⟩ := (hinner error).mp herror
        obtain rfl := Except.error.inj hf'
        cases hreported.symm.trans hreported'
      · intro _ record hrecord
        simp [hrecords record (by simpa [hreported] using hrecord)]
    | some error =>
      have hlog : (records ++ [Record.failed error (shownTemplate? template)]).filter
          (·.level == .error) = [.failed error (shownTemplate? template)] := by
        have hnone : records.filter (·.level == .error) = [] := by
          refine List.filter_eq_nil_iff.mpr ?_
          intro record hrecord
          simp [hrecords record hrecord]
        rw [List.filter_append, hnone]
        rfl
      refine ⟨?_, fun _ _ => ⟨error.generic, by simp [Except.mapError, hreported]⟩, ?_⟩
      · intro told htold
        obtain rfl : error.generic = told := by simpa [Except.mapError, hreported] using htold
        refine ⟨error, (hinner error).mpr ⟨f, rfl, hreported⟩, ?_⟩
        simpa [hreported] using disclosed_generic error (shownTemplate? template) hlog
      · intro hsilent
        exact absurd (by simp [Except.mapError, hreported]) (hsilent error.generic)

/-- A run leaves one record of a statement whose result was read, and none otherwise. -/
theorem records_run (hr : step.request? = some r) :
    (∃ conn statement kind, s.Returned step conn statement kind ∧
      (s.run r.rowsExpected r.template r.replacements r.reply).2.1
        = [.executed kind (redact (segments conn.mode.dialect statement))]) ∨
    ((∀ conn statement kind, ¬ s.Returned step conn statement kind) ∧
      (s.run r.rowsExpected r.template r.replacements r.reply).2.1 = []) := by
  unfold run
  cases hconn : s.connection with
  | none =>
    refine .inr ⟨?_, rfl⟩
    rintro conn statement kind ⟨r', outcome, -, hconn', -⟩
    cases hconn.symm.trans hconn'
  | some conn =>
    dsimp only
    cases hprepare : prepare s.softDelete r.rowsExpected conn r.template r.replacements with
    | error f =>
      refine .inr ⟨?_, rfl⟩
      rintro conn' statement kind ⟨r', outcome, hr', hconn', hprepare', -⟩
      obtain rfl := Option.some.inj (hr.symm.trans hr')
      obtain rfl := Option.some.inj (hconn.symm.trans hconn')
      cases hprepare.symm.trans hprepare'
    | ok prepared =>
      obtain ⟨statement, kind⟩ := prepared
      dsimp only
      rcases hrun : Execution.run s.product kind statement r.reply with ⟨calls, result⟩
      cases result with
      | ok outcome =>
        exact .inl ⟨conn, statement, kind, ⟨r, outcome, hr, hconn, hprepare, by rw [hrun]⟩, rfl⟩
      | error f =>
        refine .inr ⟨?_, rfl⟩
        rintro conn' statement' kind' ⟨r', outcome, hr', hconn', hprepare', hrun'⟩
        obtain rfl := Option.some.inj (hr.symm.trans hr')
        obtain rfl := Option.some.inj (hconn.symm.trans hconn')
        obtain ⟨rfl, rfl⟩ := Prod.mk.inj (Except.ok.inj (hprepare.symm.trans hprepare'))
        rw [hrun] at hrun'
        cases hrun'

theorem level_close : ∀ record ∈ s.close.records, record.level = .warning := by
  cases hconn : s.connection with
  | none => simp [close_of_closed hconn]
  | some conn =>
    simp only [close, hconn]
    cases conn.closeError with
    | none => simp
    | some e =>
      dsimp only
      split <;> simp [Record.level]

/-- A step that asks for nothing has nothing to tell. -/
theorem tells_of_no_request (hr : step.request? = none) : s.Tells step := by
  have hquiet : (∀ told, (s.step step).answer ≠ .error (.database told)) ∧
      ∀ record ∈ (s.step step).records, record.level = .warning := by
    cases hends : step.ends with
    | true =>
      rw [step_of_ends hends]
      exact ⟨close_told.1, level_close⟩
    | false =>
      obtain ⟨-, hrecords, answer, hanswer⟩ := step_of_quiet (s := s) hr hends
      simp [hrecords, hanswer]
  refine ⟨⟨?_, ?_, ?_⟩, ?_, ?_⟩
  · intro told htold
    exact absurd htold (hquiet.1 told)
  · rintro error ⟨r, f, hr', -⟩
    cases hr.symm.trans hr'
  · intro _ record hrecord
    simp [hquiet.2 record hrecord]
  · rintro conn statement kind ⟨r, outcome, hr', -⟩
    cases hr.symm.trans hr'
  · intro _ record hrecord
    simp [hquiet.2 record hrecord]

/-- A failure that is recorded is recorded behind what the run left. -/
theorem filter_debug_conclude :
    (s.conclude template calls records result).records.filter (·.level == .debug)
      = records.filter (·.level == .debug) := by
  have hnone : ∀ failed : List DatabaseError, (failed.map fun e =>
      Record.failed e (shownTemplate? template)).filter (·.level == .debug) = [] := by
    intro failed
    refine List.filter_eq_nil_iff.mpr ?_
    intro record hrecord
    obtain ⟨e, -, rfl⟩ := List.mem_map.mp hrecord
    simp [Record.level]
  rw [records_conclude, List.filter_append]
  cases result with
  | ok answer => simp
  | error f => rw [hnone, List.append_nil]

theorem tells_of_request (hr : step.request? = some r) : s.Tells step := by
  have hfails : ∀ error, s.StepFails step error ↔
      ∃ f, s.inner step r = .error f ∧ reported? f = some error := by
    intro error
    simp [StepFails, hr, reported?_eq_some_iff]
  have hrecords := records_run (s := s) hr
  have hstep := step_of_request (s := s) hr
  refine ⟨?_, ?_, ?_⟩
  · rw [hr, hstep]
    refine accounted_conclude hfails ?_
    rcases hrecords with ⟨conn, statement, kind, -, hrun⟩ | ⟨-, hrun⟩ <;> simp [hrun, Record.level]
  · intro conn statement kind hreturned
    rw [hstep, filter_debug_conclude]
    rcases hrecords with ⟨conn', statement', kind', ⟨r', _, hr', hconn', hprepare', -⟩, hrun⟩ |
      ⟨hnone, -⟩
    · obtain ⟨r'', _, hr'', hconn, hprepare, -⟩ := hreturned
      obtain rfl := Option.some.inj (hr'.symm.trans hr'')
      obtain rfl := Option.some.inj (hconn'.symm.trans hconn)
      obtain ⟨rfl, rfl⟩ := Prod.mk.inj (Except.ok.inj (hprepare'.symm.trans hprepare))
      rw [hrun]
      rfl
    · exact absurd hreturned (hnone conn statement kind)
  · intro hnone record hrecord hlevel
    have hfilter : record ∈ (s.step step).records.filter (·.level == .debug) :=
      List.mem_filter.mpr ⟨hrecord, by simp [hlevel]⟩
    rw [hstep, filter_debug_conclude] at hfilter
    rcases hrecords with ⟨conn, statement, kind, hreturned, -⟩ | ⟨-, hrun⟩
    · exact hnone conn statement kind hreturned
    · simp [hrun] at hfilter

theorem tells (s : Session) (step : Step) : s.Tells step := by
  cases hr : step.request? with
  | none => exact tells_of_no_request hr
  | some r => exact tells_of_request hr

end Session

/-! Errors of a kind -/

/-- The errors that starts and steps raise. -/
inductive Raised : DatabaseError → Prop
  | start {settings : Settings} {given : Option DataSource} {database : Option Text}
      {softDelete : Option Bool} {connect : Product → Except StoreError Connection}
      {told : DatabaseError} :
      (Session.start settings given database softDelete connect).session
        = .error (.database told) → Raised told
  | step {s : Session} {step : Step} {told : DatabaseError} :
      (s.step step).answer = .error (.database told) → Raised told

/-- The kind is all there is to tell two errors apart by. -/
theorem Raised.eq_of_kind {told told' : DatabaseError} (h : Raised told) (h' : Raised told')
    (hkind : told.kind = told'.kind) : told = told' := by
  have hgeneric : ∀ {error}, Raised error → error = { kind := error.kind } := by
    intro error herror
    cases herror with
    | start hstart =>
      obtain ⟨inner, -, hdisclosed⟩ := (accounted_start _ _ _ _ _).disclosed _ hstart
      exact hdisclosed.told_eq
    | step hstep =>
      obtain ⟨inner, -, hdisclosed⟩ := (Session.tells _ _).failures.disclosed _ hstep
      exact hdisclosed.told_eq
  rw [hgeneric h, hgeneric h', hkind]

/-! Runs -/

/-- The kind of the error that was recorded. -/
def Record.errorKind? (record : Record) : Option ErrorKind := record.error?.map (·.kind)

/-- The kind of the error that a step's caller was told of. -/
def Effect.errorKind? (effect : Effect) : Option ErrorKind :=
  match effect.answer with
  | .error (.database told) => some told.kind
  | _ => none

theorem Effect.errorKind?_eq_none {effect : Effect}
    (h : ∀ told, effect.answer ≠ .error (.database told)) : effect.errorKind? = none := by
  unfold errorKind?
  split
  case h_1 told htold => exact absurd htold (h told)
  case h_2 => rfl

theorem Record.errorKind?_eq_none {record : Record} (h : record.level ≠ .error) :
    record.errorKind? = none := by
  cases record with
  | failed error template => exact absurd rfl h
  | _ => rfl

theorem filterMap_errorKind? (records : List Record) :
    records.filterMap Record.errorKind?
      = (records.filter (·.level == .error)).filterMap Record.errorKind? := by
  induction records with
  | nil => rfl
  | cons record rest ih =>
    by_cases h : record.level = .error
    · rw [List.filter_cons_of_pos (by simpa using h), List.filterMap_cons, List.filterMap_cons, ih]
    · rw [List.filter_cons_of_neg (by simpa using h), List.filterMap_cons_none
        (Record.errorKind?_eq_none h), ih]

theorem Session.errorKinds_step (s : Session) (step : Step) :
    (s.step step).records.filterMap Record.errorKind? = (s.step step).errorKind?.toList := by
  obtain ⟨hdisclosed, -, hsilent⟩ := (s.tells step).failures
  rw [filterMap_errorKind?]
  by_cases h : ∃ told, (s.step step).answer = .error (.database told)
  · obtain ⟨told, htold⟩ := h
    obtain ⟨inner, -, hinner⟩ := hdisclosed told htold
    obtain ⟨record, hrecord, herror, -⟩ := hinner.recorded
    have hkind : (s.step step).errorKind? = some told.kind := by
      rw [Effect.errorKind?, htold]
    simp [hrecord, Record.errorKind?, herror, hkind, hinner.kind]
  · have hnone : ∀ told, (s.step step).answer ≠ .error (.database told) := by
      intro told htold
      exact h ⟨told, htold⟩
    have hrecords : (s.step step).records.filter (·.level == .error) = [] := by
      refine List.filter_eq_nil_iff.mpr ?_
      intro record hrecord
      simpa using hsilent hnone record hrecord
    rw [hrecords, Effect.errorKind?_eq_none hnone]
    rfl

/-- Over a run, the errors recorded are those that were told, one for one and in order. -/
theorem Session.errorKinds_steps (s : Session) (taken : List Step) :
    ((s.steps taken).flatMap Effect.records).filterMap Record.errorKind?
      = (s.steps taken).filterMap Effect.errorKind? := by
  induction taken generalizing s with
  | nil => rfl
  | cons step rest ih =>
    rw [steps, List.flatMap_cons, List.filterMap_append, errorKinds_step, ih, List.filterMap_cons]
    cases (s.step step).errorKind? <;> rfl

/-- Failures are disclosed. Whatever is raised by a start or a step is an inner error of which the
caller is told the kind alone; it is recorded once and in full, and over a run nothing else is
recorded as an error. A statement is recorded exactly if its result was read. -/
theorem failures_disclosed :
    (∀ settings given database softDelete connect,
      Accounted (StartFails settings given database connect) none
        (Session.start settings given database softDelete connect).session
        (Session.start settings given database softDelete connect).records) ∧
    (∀ s step, Session.Tells s step) ∧
    (∀ told told', Raised told → Raised told' → told.kind = told'.kind → told = told') ∧
    ∀ s taken, ((Session.steps s taken).flatMap Effect.records).filterMap Record.errorKind?
      = (Session.steps s taken).filterMap Effect.errorKind? :=
  ⟨accounted_start, Session.tells, fun _ _ h h' hkind => h.eq_of_kind h' hkind,
    Session.errorKinds_steps⟩

end GuardedSql
