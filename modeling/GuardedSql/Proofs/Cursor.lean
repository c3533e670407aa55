import GuardedSql.Proofs.Diagnostic
import GuardedSql.Proofs.Steps

/-! The use of a cursor. A run asks the store for a cursor; with it the statement is executed once,
its rows are fetched at most once, and the cursor is closed last, whatever the store raises on the
way. Nothing is returned if a call has raised an error. What the driver raises is worded, but for
one case: if the cursor of an executed statement fails to close, the error of the close takes the
place of all else, and is raised as it is. -/

namespace GuardedSql

open Sql (CommandKind redactMessage)

/-- The error that a store raises at a call. -/
def Reply.errorAt (reply : Reply) : Call → Option StoreError
  | .openCursor => reply.openError
  | .execute _ => reply.executeError
  | .fetch => reply.fetchError
  | .closeCursor => reply.closeError
  | .closeConnection => none

/-- The errors that a store raises in a run that makes some calls. A cursor is asked for in every
run; that it could not be opened leaves no call. -/
def Reply.Raises (reply : Reply) (calls : List Call) (e : StoreError) : Prop :=
  ∃ call ∈ .openCursor :: calls, reply.errorAt call = some e

/-- The cursor of a statement that was executed fails to close. -/
structure Reply.FailsToClose (reply : Reply) (e : StoreError) : Prop where
  opened : reply.openError = none
  executed : reply.executeError = none
  closing : reply.closeError = some e

/-- An error of a failed execution that words the driver's: its class and its message, with the
values in it hidden. -/
structure DatabaseError.Words (error : DatabaseError) (e : StoreError) : Prop where
  kind : error.kind = .execution
  cause : error.cause = some e.className
  detail : ∃ link ∈ [": ", " reading result: "],
    error.detail = e.className ++ link ++ String.ofList (redactMessage e.message)

/-- A failure over what a store gave for a result, although it raised nothing. -/
inductive Failure.Unreadable : Failure → Prop
  | shortRow : Unreadable .shortRow
  | longRow : Unreadable .longRow
  | emptyRow : Unreadable .emptyRow
  | lastId (problem : Config.ProblemKind) :
      Unreadable (.invalid [⟨some "last_insert_id", problem⟩])

namespace Execution

open Result (Fails fails_ok fails_error)

variable {product : Product} {kind : CommandKind} {statement : Text} {reply : Reply}

/-! Calls -/

theorem fetch_mem_readOutcome_iff :
    .fetch ∈ (readOutcome product kind reply).1 ↔ Fetches product kind reply := by
  cases kind with
  | select =>
    unfold readOutcome readRows Fetches
    cases hcolumns : reply.columns with
    | nil => simp
    | cons name names => cases hfetch : reply.fetchError <;> simp
  | insert =>
    unfold readOutcome lastInsertId Fetches
    cases hcolumns : reply.columns with
    | nil => cases product <;> simp
    | cons name names =>
      cases product with
      | postgres =>
        cases hfetch : reply.fetchError with
        | some e => simp
        | none => rcases reply.rows.getLast? with _ | _ | _ <;> simp
      | _ => simp
  | update => simp [readOutcome, Fetches]
  | delete => simp [readOutcome, Fetches]

theorem calls_run_of_executed (hopen : reply.openError = none)
    (hexecute : reply.executeError = none) : (run product kind statement reply).1
      = .openCursor :: .execute statement :: (readOutcome product kind reply).1
        ++ [.closeCursor] := by
  simp only [run, hopen, hexecute]

theorem fetch_mem_run_iff : .fetch ∈ (run product kind statement reply).1 ↔
    reply.openError = none ∧ reply.executeError = none ∧ Fetches product kind reply := by
  cases hopen : reply.openError with
  | some e => simp [run, hopen]
  | none =>
    cases hexecute : reply.executeError with
    | some e => simp [run, hopen, hexecute]
    | none =>
      rw [calls_run_of_executed hopen hexecute, ← fetch_mem_readOutcome_iff]
      simp

/-- The calls on an open cursor, but for the fetch, are made in every run. -/
theorem mem_run_of_opened (product : Product) (kind : CommandKind) (statement : Text)
    (hopen : reply.openError = none) :
    .execute statement ∈ (run product kind statement reply).1 ∧
      .closeCursor ∈ (run product kind statement reply).1 := by
  rcases calls_run product kind statement reply with ⟨hnone, -⟩ | ⟨-, fetches, -, hcalls⟩
  · rw [hopen] at hnone
    cases hnone
  · simp [hcalls]

/-! Errors -/

/-- What is reported of a run was raised in it. -/
theorem Reports.raises {e : StoreError} {form : StoreError → ExecutionFault}
    (h : Reports product kind reply e form) (statement : Text) :
    reply.Raises (run product kind statement reply).1 e := by
  cases h with
  | opening hopen => exact ⟨.openCursor, List.mem_cons_self, hopen⟩
  | @executing first hopen hexecute hclose =>
    obtain ⟨hstatement, hclosed⟩ := mem_run_of_opened product kind statement hopen
    cases herror : reply.closeError with
    | none =>
      obtain rfl : first = e := by simpa [herror] using hclose
      exact ⟨.execute statement, List.mem_cons_of_mem _ hstatement, hexecute⟩
    | some e' =>
      obtain rfl : e' = e := by simpa [herror] using hclose
      exact ⟨.closeCursor, List.mem_cons_of_mem _ hclosed, herror⟩
  | reading hopen hexecute hclose hfetches hfetch =>
    have hfetched : .fetch ∈ (run product kind statement reply).1 :=
      fetch_mem_run_iff.mpr ⟨hopen, hexecute, hfetches⟩
    exact ⟨.fetch, List.mem_cons_of_mem _ hfetched, hfetch⟩

/-- Of the errors raised in a run one is reported, unless the close of an executed statement
fails. -/
theorem exists_reports_of_raises {e : StoreError}
    (h : reply.Raises (run product kind statement reply).1 e)
    (hclose : ∀ e', ¬ reply.FailsToClose e') :
    ∃ e' form, Reports product kind reply e' form := by
  cases hopen : reply.openError with
  | some e' => exact ⟨e', _, .opening hopen⟩
  | none =>
    cases hexecute : reply.executeError with
    | some first => exact ⟨_, _, .executing hopen hexecute rfl⟩
    | none =>
      have hclosed : reply.closeError = none := by
        refine Option.eq_none_iff_forall_ne_some.mpr ?_
        intro e' he'
        exact hclose e' ⟨hopen, hexecute, he'⟩
      -- the fetch is the only call left to have raised an error
      obtain ⟨call, hcall, herror⟩ := h
      cases call with
      | fetch =>
        have hfetched := List.mem_of_ne_of_mem (by simp) hcall
        obtain ⟨-, -, hfetches⟩ := fetch_mem_run_iff.mp hfetched
        exact ⟨e, _, .reading hopen hexecute hclosed hfetches herror⟩
      | openCursor => cases hopen.symm.trans herror
      | execute sql => cases hexecute.symm.trans herror
      | closeCursor => cases hclosed.symm.trans herror
      | closeConnection => cases herror

theorem run_of_failsToClose {e : StoreError} (h : reply.FailsToClose e) :
    (run product kind statement reply).2 = .error (.raised e) := by
  simp [run, h.opened, h.executed, h.closing]

theorem Reports.words {e : StoreError} {form : StoreError → ExecutionFault}
    (h : Reports product kind reply e form) :
    DatabaseError.Words ⟨.execution, (form e).detail, some e.className⟩ e := by
  refine ⟨rfl, rfl, ?_⟩
  cases h with
  | reading hopen hexecute hclose hfetches hfetch => exact ⟨" reading result: ", by simp, rfl⟩
  | _ => exact ⟨": ", by simp, rfl⟩

theorem not_raises_of_ok {outcome : Outcome}
    (h : (run product kind statement reply).2 = .ok outcome) (e : StoreError) :
    ¬ reply.Raises (run product kind statement reply).1 e := by
  intro hraises
  by_cases hclose : ∃ e', reply.FailsToClose e'
  · obtain ⟨e', hclose⟩ := hclose
    cases (run_of_failsToClose hclose).symm.trans h
  · obtain ⟨e', form, hreports⟩ := exists_reports_of_raises hraises (not_exists.mp hclose)
    cases (run_of_reports hreports statement).symm.trans h

/-! Results -/

/-- What reading a result fails with: the error of the fetch, or what the store gave. -/
inductive FailsToRead (product : Product) (kind : CommandKind) (reply : Reply) : Failure → Prop
  | fetching {e : StoreError} : Fetches product kind reply → reply.fetchError = some e →
      FailsToRead product kind reply (.raised e)
  | reading {f : Failure} : f.Unreadable → FailsToRead product kind reply f

theorem unreadable_of_nameRow (columns : List Text) (values : List Value) :
    Fails Failure.Unreadable (nameRow columns values) := by
  unfold nameRow
  split
  · exact fails_error .shortRow
  · split
    · exact fails_error .longRow
    · exact fails_ok _

theorem failsToRead_of_readRows :
    Fails (FailsToRead product .select reply) (readRows reply).2 := by
  unfold readRows
  split
  · exact fails_ok _
  · rename_i hcolumns
    split
    · rename_i e hfetch
      exact fails_error (.fetching ⟨by simpa using hcolumns, .inl rfl⟩ hfetch)
    · exact (Fails.mapM (unreadable_of_nameRow _) _).mono fun _ => .reading

theorem failsToRead_of_lastInsertId :
    Fails (FailsToRead product .insert reply) (lastInsertId product reply).2 := by
  unfold lastInsertId
  split
  · rename_i hproduct
    split
    · exact fails_ok _
    · rename_i hcolumns
      split
      · rename_i e hfetch
        have hfetches : Fetches product .insert reply :=
          ⟨by simpa using hcolumns, .inr ⟨rfl, by simpa using hproduct⟩⟩
        exact fails_error (.fetching hfetches hfetch)
      · split
        · exact fails_ok _
        · exact fails_error (.reading .emptyRow)
        · exact fails_ok _
  · exact fails_ok _

theorem failsToRead_of_readOutcome :
    Fails (FailsToRead product kind reply) (readOutcome product kind reply).2 := by
  cases kind with
  | select => exact failsToRead_of_readRows.map _
  | insert =>
    refine failsToRead_of_lastInsertId.bind ?_
    intro id
    unfold writeOutcome
    split
    · exact fails_ok _
    · exact fails_error (.reading (.lastId _))
  | update => exact fails_ok _
  | delete => exact fails_ok _

/-- A run in which nothing was raised fails over what it reads, if it fails. -/
theorem unreadable_of_not_raises {f : Failure}
    (h : (run product kind statement reply).2 = .error f)
    (hnone : ∀ e, ¬ reply.Raises (run product kind statement reply).1 e) : f.Unreadable := by
  have hsilent : ∀ e form, ¬ Reports product kind reply e form := by
    intro e form hreports
    exact hnone e (hreports.raises statement)
  have hopen : reply.openError = none := by
    cases hopen : reply.openError with
    | none => rfl
    | some e => exact absurd (.opening hopen) (hsilent e _)
  have hexecute : reply.executeError = none := by
    cases hexecute : reply.executeError with
    | none => rfl
    | some e => exact absurd (.executing hopen hexecute rfl) (hsilent _ _)
  have hclose : reply.closeError = none := by
    cases hclose : reply.closeError with
    | none => rfl
    | some e =>
      obtain ⟨-, hcalled⟩ := mem_run_of_opened product kind statement hopen
      exact absurd ⟨.closeCursor, List.mem_cons_of_mem _ hcalled, hclose⟩ (hnone e)
  have hread : (readOutcome product kind reply).2.mapError Failure.whileReading = .error f := by
    simpa only [run, hopen, hexecute, hclose] using h
  cases hresult : (readOutcome product kind reply).2 with
  | ok outcome =>
    rw [hresult] at hread
    cases hread
  | error f' =>
    rw [hresult] at hread
    obtain rfl : f'.whileReading = f := Except.error.inj hread
    cases failsToRead_of_readOutcome f' hresult with
    | fetching hfetches hfetch =>
      exact absurd (.reading hopen hexecute hclose hfetches hfetch) (hsilent _ _)
    | reading hunreadable => cases hunreadable <;> constructor

/-- The use that a run makes of a cursor, and when it returns something. -/
structure Disciplined (product : Product) (kind : CommandKind) (statement : Text) (reply : Reply)
    (calls : List Call) (result : Except Failure Outcome) : Prop where
  /-- Without a cursor nothing is called. -/
  unopened : ∀ e, reply.openError = some e → calls = []
  opened : reply.openError = none → ∃ fetches, (fetches = [] ∨ fetches = [.fetch]) ∧
    calls = .openCursor :: .execute statement :: fetches ++ [.closeCursor]
  /-- What was not executed is not fetched. -/
  fetched : .fetch ∈ calls ↔
    reply.openError = none ∧ reply.executeError = none ∧ Fetches product kind reply
  returned : ∀ outcome, result = .ok outcome → ∀ e, ¬ reply.Raises calls e
  failed : ∀ f, result = .error f → (∃ e, reply.Raises calls e) ∨ f.Unreadable

/-- Every run is disciplined, whichever of its calls raise errors of whatever kind. -/
theorem run_disciplined (product : Product) (kind : CommandKind) (statement : Text)
    (reply : Reply) : Disciplined product kind statement reply
      (run product kind statement reply).1 (run product kind statement reply).2 := by
  refine ⟨?_, ?_, fetch_mem_run_iff, fun outcome h => not_raises_of_ok h, ?_⟩
  · intro e hopen
    simp only [run, hopen]
  · intro hopen
    rcases calls_run product kind statement reply with ⟨hsome, -⟩ | ⟨-, fetches, hfetches, hcalls⟩
    · rw [hopen] at hsome
      cases hsome
    · exact ⟨fetches, hfetches, hcalls⟩
  · intro f hf
    by_cases hraises : ∃ e, reply.Raises (run product kind statement reply).1 e
    · exact .inl hraises
    · exact .inr (unreadable_of_not_raises hf (not_exists.mp hraises))

/-- In a run in which the driver alone raises errors, and at least one, a raised error is worded
for the caller; but an error of closing the cursor of an executed statement never is, and passes
as it was raised. -/
theorem error_of_raised {e : StoreError}
    (hraised : reply.Raises (run product kind statement reply).1 e)
    (hdriver : ∀ e, reply.Raises (run product kind statement reply).1 e → e.fromDriver = true) :
    ((∃ e error, reply.Raises (run product kind statement reply).1 e ∧
        (run product kind statement reply).2 = .error (.database error) ∧ error.Words e) ↔
      ∀ e, ¬ reply.FailsToClose e) ∧
    ∀ e, reply.FailsToClose e → (run product kind statement reply).2 = .error (.raised e) := by
  refine ⟨⟨?_, ?_⟩, fun e => run_of_failsToClose⟩
  · intro hworded e hclose
    obtain ⟨_, error, -, herror, -⟩ := hworded
    cases (run_of_failsToClose hclose).symm.trans herror
  · intro hclose
    obtain ⟨e', form, hreports⟩ := exists_reports_of_raises hraised hclose
    have hraises := hreports.raises statement
    exact ⟨e', _, hraises, hreports.run_eq (hdriver e' hraises) statement, hreports.words⟩

/-- The error of the MySQL driver for a connection that broke off, in one of its classes. -/
def lostConnection (className : String) : StoreError :=
  ⟨.driver .mysql, className, [.int 2013, .text "Lost connection".toList]⟩

/-- A store whose connection breaks off, while a statement is executed or later. -/
def brokenOff (executing : Bool) : Reply where
  columns := ["n".toList]
  rows := [[.int 1]]
  executeError := if executing then some (lostConnection "OperationalError") else none
  closeError := some (lostConnection "InterfaceError")

theorem fromDriver_of_brokenOff {executing : Bool} {calls : List Call} (e : StoreError)
    (h : (brokenOff executing).Raises calls e) : e.fromDriver = true := by
  obtain ⟨call, -, herror⟩ := h
  cases call with
  | execute sql =>
    cases executing with
    | true =>
      obtain rfl := Option.some.inj herror
      decide
    | false => cases herror
  | closeCursor =>
    obtain rfl := Option.some.inj herror
    decide
  | _ => cases herror

theorem raises_of_brokenOff (executing : Bool) (statement : Text) :
    (brokenOff executing).Raises (run .mysql .select statement (brokenOff executing)).1
      (lostConnection "InterfaceError") := by
  obtain ⟨-, hcalled⟩ := mem_run_of_opened .mysql .select statement
    (rfl : (brokenOff executing).openError = none)
  exact ⟨.closeCursor, List.mem_cons_of_mem _ hcalled, rfl⟩

/-- A statement that is refused because the connection broke off leaves a cursor that cannot be
closed either; what is raised is in words. -/
theorem error_of_refused_brokenOff :
    (brokenOff true).Raises (run .mysql .select "SELECT n FROM t".toList (brokenOff true)).1
      (lostConnection "InterfaceError") ∧
    (∀ e, (brokenOff true).Raises
      (run .mysql .select "SELECT n FROM t".toList (brokenOff true)).1 e → e.fromDriver = true) ∧
    (∀ e, ¬ (brokenOff true).FailsToClose e) ∧
    ∃ e error, (brokenOff true).Raises
        (run .mysql .select "SELECT n FROM t".toList (brokenOff true)).1 e ∧
      (run .mysql .select "SELECT n FROM t".toList (brokenOff true)).2 = .error (.database error) ∧
      error.Words e := by
  have hraises := raises_of_brokenOff true "SELECT n FROM t".toList
  have hclose : ∀ e, ¬ (brokenOff true).FailsToClose e := by
    intro e hclose
    cases hclose.executed
  exact ⟨hraises, fromDriver_of_brokenOff, hclose,
    (error_of_raised hraises fromDriver_of_brokenOff).1.mpr hclose⟩

/-- If the connection breaks off behind the rows, they are lost, and the driver's error is raised
as it is. -/
theorem raised_of_read_brokenOff :
    (brokenOff false).Raises (run .mysql .select "SELECT n FROM t".toList (brokenOff false)).1
      (lostConnection "InterfaceError") ∧
    (∀ e, (brokenOff false).Raises
      (run .mysql .select "SELECT n FROM t".toList (brokenOff false)).1 e → e.fromDriver = true) ∧
    (run .mysql .select "SELECT n FROM t".toList (brokenOff false)).2
      = .error (.raised (lostConnection "InterfaceError")) ∧
    ¬ ∃ e error, (brokenOff false).Raises
        (run .mysql .select "SELECT n FROM t".toList (brokenOff false)).1 e ∧
      (run .mysql .select "SELECT n FROM t".toList (brokenOff false)).2
        = .error (.database error) ∧ error.Words e := by
  have hrun : (run .mysql .select "SELECT n FROM t".toList (brokenOff false)).2
      = .error (.raised (lostConnection "InterfaceError")) :=
    run_of_failsToClose ⟨rfl, rfl, rfl⟩
  refine ⟨raises_of_brokenOff false _, fromDriver_of_brokenOff, hrun, ?_⟩
  intro hworded
  obtain ⟨_, error, -, herror, -⟩ := hworded
  cases hrun.symm.trans herror

end Execution

end GuardedSql
