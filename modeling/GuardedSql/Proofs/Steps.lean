import GuardedSql.Proofs.FailureKind

/-! Sessions step by step. A step that asks the store for something goes one of three ways: the
session is closed, the statement is refused, or it is run; only in the last is anything called.
The session after a row of steps and the calls made on the way are put together from the single
steps. -/

namespace GuardedSql

open Sql (CommandKind redact segments)
open Result (Fails fails_ok)
open Failure (Within)

/-- The statement that a call executes. -/
def Call.executed? : Call → Option Text
  | .execute sql => some sql
  | _ => none

/-- What a query asks for, and what the store answers to it. -/
structure Request where
  rowsExpected : Bool
  template : Value
  replacements : Value
  reply : Reply

namespace Step

/-- The request of a step, if it is a query. -/
def request? : Step → Option Request
  | .query template replacements reply => some ⟨false, template, replacements, reply⟩
  | .querySingleRow template replacements _ reply => some ⟨true, template, replacements, reply⟩
  | _ => none

/-- What a query answers with, given its outcome. -/
def finish : Step → Outcome → Except Failure Answer
  | .querySingleRow _ _ column _, outcome => (outcome.single column).map Session.answerOfSingle
  | _, outcome => .ok (.outcome outcome)

/-- The steps that end a session. -/
def ends : Step → Bool
  | .close | .exit => true
  | _ => false

/-- What a step does to a connection that it leaves open. -/
def shift : Step → Connection → Connection
  | .setBackslashes backslashes, conn =>
    { conn with mode := Mode.withBackslashes backslashes conn.mode }
  | .setStandardStrings standardStrings, conn =>
    { conn with mode := Mode.withStandardStrings standardStrings conn.mode }
  | _, conn => conn

theorem ends_iff (step : Step) : step.ends = true ↔ step = .close ∨ step = .exit := by
  cases step <;> simp [ends]

theorem fails_finish (step : Step) (outcome : Outcome) :
    Fails Failure.Misshapen (step.finish outcome) := by
  cases step with
  | querySingleRow template replacements column reply =>
    exact (Outcome.fails_single column outcome).map _
  | _ => exact fails_ok _

end Step

/-! Execution -/

namespace Execution

theorem calls_readOutcome (product : Product) (kind : CommandKind) (reply : Reply) :
    (readOutcome product kind reply).1 = [] ∨ (readOutcome product kind reply).1 = [.fetch] := by
  cases kind with
  | select =>
    simp only [readOutcome, readRows]
    grind
  | insert =>
    simp only [readOutcome, lastInsertId]
    grind
  | update => exact .inl rfl
  | delete => exact .inl rfl

/-- The cursor is opened, the statement is executed once and the cursor is closed last; or the
cursor did not open, and nothing was called. -/
theorem calls_run (product : Product) (kind : CommandKind) (statement : Text) (reply : Reply) :
    (reply.openError.isSome = true ∧ (run product kind statement reply).1 = []) ∨
      (reply.openError = none ∧ ∃ fetches, (fetches = [] ∨ fetches = [.fetch]) ∧
        (run product kind statement reply).1
          = .openCursor :: .execute statement :: fetches ++ [.closeCursor]) := by
  unfold run
  cases hopen : reply.openError with
  | some e => exact .inl ⟨rfl, rfl⟩
  | none =>
    cases reply.executeError with
    | some e => exact .inr ⟨rfl, [], .inl rfl, rfl⟩
    | none => exact .inr ⟨rfl, _, calls_readOutcome product kind reply, rfl⟩

theorem executed_run (product : Product) (kind : CommandKind) (statement : Text) (reply : Reply) :
    (run product kind statement reply).1.filterMap Call.executed?
      = if reply.openError.isSome then [] else [statement] := by
  rcases calls_run product kind statement reply with
    ⟨hopen, hcalls⟩ | ⟨hopen, fetches, rfl | rfl, hcalls⟩
  · rw [hcalls, if_pos hopen]
    rfl
  · rw [hcalls, hopen]
    rfl
  · rw [hcalls, hopen]
    rfl

theorem closeConnection_notMem_run (product : Product) (kind : CommandKind) (statement : Text)
    (reply : Reply) : .closeConnection ∉ (run product kind statement reply).1 := by
  rcases calls_run product kind statement reply with
    ⟨-, hcalls⟩ | ⟨-, fetches, rfl | rfl, hcalls⟩ <;> simp [hcalls]

end Execution

namespace Session

/-! Conclusions -/

section Conclude

variable (s : Session) (template : Value) (calls : List Call) (records : List Record)
  (result : Except Failure Answer)

@[simp] theorem session_conclude : (s.conclude template calls records result).session = s := by
  unfold conclude
  cases result with
  | ok answer => rfl
  | error f => cases hreported : reported? f <;> simp [hreported]

@[simp] theorem calls_conclude : (s.conclude template calls records result).calls = calls := by
  unfold conclude
  cases result with
  | ok answer => rfl
  | error f => cases hreported : reported? f <;> simp [hreported]

variable {s template calls records result} {error : DatabaseError}

theorem exists_reported_of_failed {shown : Option Text}
    (h : .failed error shown ∈ (s.conclude template calls records result).records) :
    .failed error shown ∈ records ∨ ∃ f, result = .error f ∧ reported? f = some error := by
  unfold conclude at h
  cases result with
  | ok answer => exact .inl h
  | error f =>
    cases hreported : reported? f with
    | none =>
      simp only [hreported] at h
      exact .inl h
    | some e =>
      simp only [hreported, List.mem_append, List.mem_singleton, Record.failed.injEq] at h
      rcases h with h | ⟨rfl, -⟩
      · exact .inl h
      · exact .inr ⟨f, rfl, hreported⟩

/-- A caller is told the kind of what was reported, and no more. -/
theorem exists_reported_of_answer
    (h : (s.conclude template calls records result).answer = .error (.database error)) :
    ∃ f e, result = .error f ∧ reported? f = some e ∧ error = e.generic := by
  unfold conclude at h
  cases result with
  | ok answer => cases h
  | error f =>
    cases hreported : reported? f with
    | none =>
      simp only [hreported, Except.error.injEq] at h
      rw [h] at hreported
      cases hreported
    | some e =>
      simp only [hreported, Except.error.injEq, Failure.database.injEq] at h
      exact ⟨f, e, rfl, hreported, h.symm⟩

end Conclude

theorem kind_of_reported {kinds : List ErrorKind} {f : Failure} {e : DatabaseError}
    (hf : Within kinds f) (h : reported? f = some e) : e.kind ∈ kinds ∨ e.kind = .execution := by
  cases f with
  | database e' =>
    obtain rfl := Option.some.inj h
    exact .inl (hf _ rfl)
  | raised error =>
    simp only [reported?] at h
    split at h
    · obtain rfl := Option.some.inj h
      exact .inr rfl
    · cases h
  | _ => cases h

/-! Steps that ask -/

theorem prepare_eq_ok_iff {softDelete rowsExpected : Bool} {conn : Connection}
    {template replacements : Value} {statement : Text} {kind : CommandKind} :
    prepare softDelete rowsExpected conn template replacements = .ok (statement, kind) ↔
      Template.substitute conn.mode.dialect conn.escaper template replacements = .ok statement ∧
        Guard.judge ⟨softDelete, conn.mode.dialect⟩ statement = .ok kind ∧
        (rowsExpected = true → kind = .select) := by
  constructor
  · intro h
    obtain ⟨_, hsubstitute, h⟩ := Result.bind_eq_ok h
    obtain ⟨_, hjudge, h⟩ := Result.bind_eq_ok h
    dsimp only at h
    split at h
    case isTrue => cases h
    case isFalse hkind =>
      obtain ⟨rfl, rfl⟩ := Prod.mk.inj (Except.ok.inj h)
      exact ⟨hsubstitute, Result.mapError_eq_ok hjudge, by simpa using hkind⟩
  · rintro ⟨hsubstitute, hjudge, hselect⟩
    simp only [prepare, hsubstitute, hjudge, Except.mapError, bind, Except.bind]
    rw [if_neg (by simpa using hselect)]
    rfl

/-- The records of a statement that was run. -/
def recordsOf (conn : Connection) (statement : Text) (kind : CommandKind) :
    Except Failure Outcome → List Record
  | .ok _ => [.executed kind (redact (segments conn.mode.dialect statement))]
  | .error _ => []

section Requests

variable {s : Session} {step : Step} {r : Request} (hr : step.request? = some r)

include hr

theorem step_of_request :
    s.step step = s.conclude r.template (s.run r.rowsExpected r.template r.replacements r.reply).1
      (s.run r.rowsExpected r.template r.replacements r.reply).2.1
      ((s.run r.rowsExpected r.template r.replacements r.reply).2.2.bind step.finish) := by
  cases step with
  | query template replacements reply =>
    obtain rfl := Option.some.inj hr
    cases hresult : (s.run false template replacements reply).2.2 <;>
      simp [Session.step, query, hresult, Except.map, Except.bind, Step.finish]
  | querySingleRow template replacements column reply =>
    obtain rfl := Option.some.inj hr
    cases hresult : (s.run true template replacements reply).2.2 <;>
      simp [Session.step, querySingleRow, hresult, Except.map, Except.bind, Step.finish]
  | _ => cases hr

theorem step_of_closed (hclosed : s.connection = none) :
    s.step step = s.conclude r.template [] [] (.error (.ofFault (.connection .closed))) := by
  rw [step_of_request hr, run, hclosed]
  rfl

variable {conn : Connection} (hopen : s.connection = some conn)

include hopen

theorem step_of_refused {f : Failure}
    (h : prepare s.softDelete r.rowsExpected conn r.template r.replacements = .error f) :
    s.step step = s.conclude r.template [] [] (.error f) := by
  rw [step_of_request hr, run, hopen]
  simp only [h]
  rfl

theorem step_of_prepared {statement : Text} {kind : CommandKind}
    (h : prepare s.softDelete r.rowsExpected conn r.template r.replacements
      = .ok (statement, kind)) :
    s.step step = s.conclude r.template (Execution.run s.product kind statement r.reply).1
      (recordsOf conn statement kind (Execution.run s.product kind statement r.reply).2)
      ((Execution.run s.product kind statement r.reply).2.bind step.finish) := by
  rw [step_of_request hr, run, hopen]
  simp only [h]
  rcases Execution.run s.product kind statement r.reply with ⟨calls, result⟩
  cases result with
  | error f => rfl
  | ok outcome => rfl

end Requests

/-! Steps that do not ask -/

section Quiet

variable {s : Session} {step : Step}

theorem step_of_ends (hends : step.ends = true) : s.step step = s.close := by
  cases step with
  | close => rfl
  | exit => rfl
  | _ => cases hends

theorem close_of_closed (hclosed : s.connection = none) : s.close = ⟨s, .ok .nothing, [], []⟩ := by
  rw [close, hclosed]

/-- An open session is closed by one call, whatever comes of it. -/
theorem close_of_open {conn : Connection} (hopen : s.connection = some conn) :
    s.close.session = { s with connection := none } ∧ s.close.calls = [.closeConnection] := by
  simp only [close, hopen]
  cases conn.closeError with
  | none => exact ⟨rfl, rfl⟩
  | some e =>
    dsimp only
    split
    · exact ⟨rfl, rfl⟩
    · exact ⟨rfl, rfl⟩

theorem session_close : s.close.session = { s with connection := none } := by
  cases hconn : s.connection with
  | none =>
    rw [close_of_closed hconn]
    exact congrArg (Session.mk s.product s.softDelete) hconn
  | some conn => exact (close_of_open hconn).1

theorem close_told : (∀ e, s.close.answer ≠ .error (.database e)) ∧
    ∀ record ∈ s.close.records, record.error? = none := by
  cases hconn : s.connection with
  | none => simp [close_of_closed hconn]
  | some conn =>
    simp only [close, hconn]
    cases conn.closeError with
    | none => simp
    | some e =>
      dsimp only
      split
      · simp [Record.error?]
      · simp

theorem step_of_quiet (hr : step.request? = none) (hends : step.ends = false) :
    (s.step step).calls = [] ∧ (s.step step).records = [] ∧
      ∃ answer, (s.step step).answer = .ok answer := by
  cases step with
  | query => cases hr
  | querySingleRow => cases hr
  | close => cases hends
  | exit => cases hends
  | _ => exact ⟨rfl, rfl, _, rfl⟩

end Quiet

/-- A step changes the connection of a session at most: it ends, or it shifts. -/
theorem session_step (s : Session) (step : Step) : (s.step step).session =
    { s with connection := if step.ends then none else s.connection.map step.shift } := by
  -- most steps shift nothing
  have hkept : s = { s with connection := s.connection.map fun conn => conn } := by
    rw [Option.map_id']
  cases step with
  | query template replacements reply =>
    rw [step_of_request rfl, session_conclude]
    exact hkept
  | querySingleRow template replacements column reply =>
    rw [step_of_request rfl, session_conclude]
    exact hkept
  | unescape encoded => exact hkept
  | enter => exact hkept
  | close => exact session_close
  | exit => exact session_close
  | setBackslashes backslashes => rfl
  | setStandardStrings standardStrings => rfl

/-! Runs -/

/-- The session after some steps. -/
def after (s : Session) (taken : List Step) : Session :=
  taken.foldl (fun s step => (s.step step).session) s

theorem after_append (s : Session) (before rest : List Step) :
    s.after (before ++ rest) = (s.after before).after rest :=
  List.foldl_append

/-- The connection that a session holds after some steps: none once a step has ended it. -/
def connectionAt (s : Session) (taken : List Step) : Option Connection :=
  if taken.any Step.ends then none
  else s.connection.map fun conn => taken.foldl (fun conn step => step.shift conn) conn

theorem connectionAt_cons (s : Session) (step : Step) (rest : List Step) :
    s.connectionAt (step :: rest) = (s.step step).session.connectionAt rest := by
  rw [session_step, connectionAt, connectionAt, List.any_cons]
  cases step.ends with
  | true => simp
  | false => simp [Function.comp_def]

/-- All that a run leaves of what it did is what became of the connection. -/
theorem after_eq (s : Session) (taken : List Step) :
    s.after taken = { s with connection := s.connectionAt taken } := by
  induction taken generalizing s with
  | nil => simp [after, connectionAt]
  | cons step rest ih =>
    have hafter : s.after (step :: rest) = (s.step step).session.after rest := rfl
    rw [hafter, ih, connectionAt_cons, session_step]

/-- The calls made in some steps, in order. -/
def callsOf (s : Session) (taken : List Step) : List Call := (s.steps taken).flatMap Effect.calls

theorem length_steps (s : Session) (taken : List Step) : (s.steps taken).length = taken.length := by
  induction taken generalizing s with
  | nil => rfl
  | cons step rest ih => simp only [steps, List.length_cons, ih]

theorem steps_append (s : Session) (before rest : List Step) :
    s.steps (before ++ rest) = s.steps before ++ (s.after before).steps rest := by
  induction before generalizing s with
  | nil => rfl
  | cons step before ih =>
    rw [List.cons_append, steps, steps, List.cons_append, ih]
    rfl

/-- Every step is taken by the session that the steps before it leave. -/
theorem getElem?_steps (s : Session) (before : List Step) (step : Step) (rest : List Step) :
    (s.steps (before ++ step :: rest))[before.length]? = some ((s.after before).step step) := by
  rw [steps_append, List.getElem?_append_right (Nat.le_of_eq (length_steps s before)), length_steps,
    Nat.sub_self]
  rfl

end Session

end GuardedSql
