import GuardedSql.Proofs.Disclosure
import Mathlib

/-! Single-row queries beside plain ones. Of a template that makes no statement both say the same;
of a statement that is no SELECT the single-row query says that it has the wrong shape, and does
not run it. Of a SELECT both make the same calls and fail alike; what is found is handed over if it
is one row with the column that was asked for, and otherwise has the wrong shape. -/

namespace GuardedSql

open Sql (CommandKind)

/-! Rows -/

namespace Row

theorem get?_cons (n : Text) (w : Value) (row : Row) (name : Text) :
    get? ((n, w) :: row) name = if n = name then some w else row.get? name := by
  by_cases h : n = name <;> simp [get?, h]

theorem get?_put (row : Row) (name other : Text) (v : Value) :
    (row.put name v).get? other = if name = other then some v else row.get? other := by
  induction row with
  | nil => rw [put, get?_cons]
  | cons entry row ih =>
    obtain ⟨n, w⟩ := entry
    rw [put, get?_cons]
    by_cases hn : n = name
    · subst hn
      rw [if_pos (beq_self_eq_true n), get?_cons]
      by_cases h : n = other <;> simp [h]
    · rw [if_neg (by simpa using hn), get?_cons, ih]
      by_cases h : n = other
      · have hne : name ≠ other := by
          intro hname
          exact hn (h.trans hname.symm)
        simp [h, hne]
      · simp [h]

theorem get?_foldl_put (entries : List (Text × Value)) (row : Row) (name : Text) :
    (entries.foldl (fun row e => row.put e.1 e.2) row).get? name
      = (entries.reverse.lookup name).or (row.get? name) := by
  induction entries generalizing row with
  | nil => rfl
  | cons entry entries ih =>
    rw [List.foldl_cons, ih, get?_put, List.reverse_cons, List.lookup_append, Option.or_assoc]
    by_cases h : entry.1 = name
    · simp [h, List.lookup]
    · have hne : (name == entry.1) = false := by simpa using Ne.symm h
      simp [h, List.lookup, hne]

/-- Of several values under one name the last counts. -/
theorem get?_ofColumns (columns : List Text) (values : List Value) (name : Text) :
    (ofColumns columns values).get? name = (columns.zip values).reverse.lookup name := by
  rw [ofColumns, get?_foldl_put]
  exact Option.or_none

theorem isSome_get?_ofColumns {columns : List Text} {values : List Value}
    (h : values.length = columns.length) (name : Text) :
    ((ofColumns columns values).get? name).isSome = true ↔ name ∈ columns := by
  have hnames : (columns.zip values).map Prod.fst = columns := List.map_fst_zip (by omega)
  have hmem : name ∈ (columns.zip values).map Prod.fst ↔ name ∈ columns := by rw [hnames]
  rw [get?_ofColumns, List.lookup_isSome_iff, ← hmem]
  simp

end Row

/-- What a row may be asked for: all of it, or its value in a column. -/
inductive Row.Picks (row : Row) : Option Text → Answer → Prop
  | whole : Picks row none (.row row)
  | value {name : Text} {v : Value} : row.get? name = some v → Picks row (some name) (.value v)

theorem Row.Picks.unique {row : Row} {column : Option Text} {a b : Answer}
    (ha : row.Picks column a) (hb : row.Picks column b) : a = b := by
  cases ha with
  | whole =>
    cases hb with
    | whole => rfl
  | value hv =>
    cases hb with
    | value hw =>
      obtain rfl := Option.some.inj (hv.symm.trans hw)
      rfl

/-- A row set that counts its rows is handed over if it is one row with the column; what is wrong
with any other is a fault. -/
theorem Outcome.single_rowSet (column : Option Text) (rows : List Row) :
    (∃ row a, rows = [row] ∧ row.Picks column a ∧
      ((rowSet rows rows.length).single column).map Session.answerOfSingle = .ok a) ∨
    (∀ row a, rows = [row] → ¬ row.Picks column a) ∧
      ∃ fault, (rowSet rows rows.length).single column = .error (.ofFault (.shape fault)) := by
  match rows with
  | [] => exact .inr ⟨by simp, _, rfl⟩
  | row :: other :: rows =>
    refine .inr ⟨by simp, .rowCount (row :: other :: rows).length, ?_⟩
    have hcount : (((row :: other :: rows).length : Int) != 1) = true := by
      rw [bne_iff_ne]
      simp only [List.length_cons]
      omega
    unfold single
    exact if_pos hcount
  | [row] =>
    cases column with
    | none => exact .inl ⟨row, _, rfl, .whole, rfl⟩
    | some name =>
      cases hvalue : row.get? name with
      | some v =>
        refine .inl ⟨row, .value v, rfl, .value hvalue, ?_⟩
        simp [single, hvalue, Except.map, Session.answerOfSingle]
      | none =>
        refine .inr ⟨?_, .missingColumn name, by simp [single, hvalue]⟩
        intro row' a hrow hpicks
        obtain rfl : row = row' := by simpa using hrow
        cases hpicks with
        | value hv => cases hvalue.symm.trans hv

namespace Execution

variable {product : Product} {statement : Text} {reply : Reply}

/-- A SELECT comes to the rows that are read, counted. -/
theorem rows_of_run {outcome : Outcome}
    (h : (run product .select statement reply).2 = .ok outcome) :
    ∃ rows, outcome = .rowSet rows rows.length ∧ (readRows reply).2 = .ok rows := by
  unfold run at h
  split at h
  · cases h
  · split at h
    · cases h
    · dsimp only at h
      split at h
      · cases h
      · obtain ⟨rows, hrows, rfl⟩ := Result.map_eq_ok (Result.mapError_eq_ok h)
        exact ⟨rows, rfl, hrows⟩

/-- The rows that are read have the columns that the store names. -/
theorem isSome_get?_of_readRows {rows : List Row} (h : (readRows reply).2 = .ok rows) {row : Row}
    (hrow : row ∈ rows) (name : Text) : (row.get? name).isSome = true ↔ name ∈ reply.columns := by
  unfold readRows at h
  split at h
  · obtain rfl := Except.ok.inj h
    cases hrow
  · split at h
    · cases h
    · obtain ⟨values, -, hnamed⟩ := Result.exists_of_mem_mapM h hrow
      unfold nameRow at hnamed
      split at hnamed
      · cases hnamed
      · split at hnamed
        · cases hnamed
        · obtain rfl := Except.ok.inj hnamed
          exact Row.isSome_get?_ofColumns (by omega) name

end Execution

/-- What a single-row query answers, when the plain one finds rows of some columns. -/
structure Singles (columns : List Text) (column : Option Text) (rows : List Row)
    (answer : Except Failure Answer) : Prop where
  picked : ∀ a, answer = .ok a ↔ ∃ row, rows = [row] ∧ row.Picks column a
  missed : (∀ a, answer ≠ .ok a) → answer = .error (.database { kind := .shape })
  named : ∀ row ∈ rows, ∀ name, (row.get? name).isSome = true ↔ name ∈ columns

/-- How a single-row query compares with the plain one, by what is made of the template: it
differs only where the statement is no SELECT, or where rows are found. -/
inductive Narrows (columns : List Text) (column : Option Text) :
    Except Failure (Text × CommandKind) → Effect → Effect → Prop
  | refused {f told : Failure} {effect : Effect} : effect.calls = [] →
      effect.answer = .error told → Narrows columns column (.error f) effect effect
  | notSelect {statement : Text} {kind : CommandKind} {query single : Effect} : kind ≠ .select →
      single.calls = [] → single.answer = .error (.database { kind := .shape }) →
      Narrows columns column (.ok (statement, kind)) query single
  | failed {statement : Text} {told : Failure} {effect : Effect} : effect.answer = .error told →
      Narrows columns column (.ok (statement, .select)) effect effect
  | found {statement : Text} {rows : List Row} {query single : Effect} :
      query.answer = .ok (.outcome (.rowSet rows rows.length)) → single.calls = query.calls →
      Singles columns column rows single.answer →
      Narrows columns column (.ok (statement, .select)) query single

theorem Narrows.of_rowSet {columns : List Text} {column : Option Text} {statement : Text}
    {query single : Effect} {rows : List Row} {count : Int}
    (h : Narrows columns column (.ok (statement, .select)) query single)
    (hquery : query.answer = .ok (.outcome (.rowSet rows count))) :
    single.calls = query.calls ∧ count = rows.length ∧
      Singles columns column rows single.answer := by
  cases h with
  | notSelect hkind => exact absurd rfl hkind
  | failed htold => cases htold.symm.trans hquery
  | found hrows hcalls hsingles =>
    obtain ⟨rfl, rfl⟩ := Outcome.rowSet.inj (Answer.outcome.inj (Except.ok.inj
      (hrows.symm.trans hquery)))
    exact ⟨hcalls, rfl, hsingles⟩

namespace Session

variable {s : Session} {conn : Connection}

theorem prepare_rowsExpected (softDelete : Bool) (conn : Connection)
    (template replacements : Value) : prepare softDelete true conn template replacements
      = (prepare softDelete false conn template replacements).bind fun prepared =>
          if prepared.2 = .select then .ok prepared
          else .error (.ofFault (.shape (.notSelect prepared.2))) := by
  simp only [prepare]
  cases Template.substitute conn.mode.dialect conn.escaper template replacements with
  | error f => rfl
  | ok statement =>
    simp only [bind, Except.bind]
    cases Guard.judge ⟨softDelete, conn.mode.dialect⟩ statement with
    | error fault => rfl
    | ok kind => cases kind <;> rfl

theorem singles_of_rowSet {template : Value} {calls : List Call} {records : List Record}
    {columns : List Text} {rows : List Row}
    (h : ∀ row ∈ rows, ∀ name, (row.get? name).isSome = true ↔ name ∈ columns)
    (column : Option Text) : Singles columns column rows (s.conclude template calls records
      (((Outcome.rowSet rows rows.length).single column).map answerOfSingle)).answer := by
  rw [answer_conclude]
  rcases Outcome.single_rowSet column rows with ⟨row, a, rfl, hpicks, hsingle⟩ |
    ⟨hnone, fault, hsingle⟩
  · rw [hsingle]
    refine ⟨?_, fun hanswer => absurd rfl (hanswer a), h⟩
    intro b
    constructor
    · intro hb
      obtain rfl := Except.ok.inj hb
      exact ⟨row, rfl, hpicks⟩
    · intro hb
      obtain ⟨row', hrow, hpicks'⟩ := hb
      obtain rfl : row = row' := by simpa using hrow
      rw [hpicks.unique hpicks']
      rfl
  · rw [hsingle]
    refine ⟨?_, fun _ => rfl, h⟩
    intro b
    constructor
    · intro hb
      cases hb
    · intro hb
      obtain ⟨row, hrow, hpicks⟩ := hb
      exact absurd hpicks (hnone row b hrow)

/-- A single-row query is the plain query of a SELECT, narrowed to the one row that it finds. -/
theorem querySingleRow_narrows (hopen : s.connection = some conn) (template replacements : Value)
    (column : Option Text) (reply : Reply) :
    Narrows reply.columns column (prepare s.softDelete false conn template replacements)
      (s.query template replacements reply)
      (s.querySingleRow template replacements column reply) := by
  show Narrows reply.columns column (prepare s.softDelete false conn template replacements)
    (s.step (.query template replacements reply))
    (s.step (.querySingleRow template replacements column reply))
  have hplain : (Step.query template replacements reply).request?
      = some ⟨false, template, replacements, reply⟩ := rfl
  have hsingle : (Step.querySingleRow template replacements column reply).request?
      = some ⟨true, template, replacements, reply⟩ := rfl
  have hexpected := prepare_rowsExpected s.softDelete conn template replacements
  cases hprepared : prepare s.softDelete false conn template replacements with
  | error f =>
    rw [hprepared] at hexpected
    rw [step_of_refused hplain hopen hprepared, step_of_refused hsingle hopen hexpected]
    exact .refused (calls_conclude ..) (answer_conclude ..)
  | ok prepared =>
    obtain ⟨statement, kind⟩ := prepared
    rw [hprepared] at hexpected
    by_cases hkind : kind = .select
    · subst hkind
      rw [step_of_prepared hplain hopen hprepared, step_of_prepared hsingle hopen hexpected]
      cases hrun : (Execution.run s.product .select statement reply).2 with
      | error f => exact .failed (answer_conclude ..)
      | ok outcome =>
        obtain ⟨rows, rfl, hread⟩ := Execution.rows_of_run hrun
        refine .found (answer_conclude ..) ?_ ?_
        · rw [calls_conclude, calls_conclude]
        · exact singles_of_rowSet (fun row hrow => Execution.isSome_get?_of_readRows hread hrow)
            column
    · rw [step_of_refused hsingle hopen (hexpected.trans (if_neg hkind))]
      exact .notSelect hkind (calls_conclude ..) (answer_conclude ..)

/-- Of two columns of one name the last has the value. -/
theorem querySingleRow_of_same_names :
    (⟨.sqlite, true, some ⟨.sqlite, {}, none⟩⟩ : Session).connection
      = some ⟨.sqlite, {}, none⟩ ∧
    ((⟨.sqlite, true, some ⟨.sqlite, {}, none⟩⟩ : Session).querySingleRow
        (.text "SELECT n, m, n FROM t".toList) (.list []) (some ['n'])
        { columns := [['n'], ['m'], ['n']], rows := [[.int 1, .int 2, .int 3]] }).answer
      = .ok (.value (.int 3)) := by
  have hprepared : prepare true false ⟨.sqlite, {}, none⟩
      (.text "SELECT n, m, n FROM t".toList) (.list [])
        = .ok ("SELECT n, m, n FROM t".toList, .select) := by
    cbv
  have hquery : ((⟨.sqlite, true, some ⟨.sqlite, {}, none⟩⟩ : Session).query
        (.text "SELECT n, m, n FROM t".toList) (.list [])
        { columns := [['n'], ['m'], ['n']], rows := [[.int 1, .int 2, .int 3]] }).answer
      = .ok (.outcome (.rowSet [[(['n'], .int 3), (['m'], .int 2)]] 1)) := by
    cbv
  have hnarrows := querySingleRow_narrows (s := ⟨.sqlite, true, some ⟨.sqlite, {}, none⟩⟩) rfl
    (.text "SELECT n, m, n FROM t".toList) (.list []) (some ['n'])
    { columns := [['n'], ['m'], ['n']], rows := [[.int 1, .int 2, .int 3]] }
  rw [hprepared] at hnarrows
  obtain ⟨-, -, hsingles⟩ := hnarrows.of_rowSet hquery
  exact ⟨rfl, (hsingles.picked _).mpr ⟨_, rfl, .value rfl⟩⟩

end Session

end GuardedSql
