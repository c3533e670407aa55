import GuardedSql.Proofs.Disclosure
import GuardedSql.Proofs.Holes
import GuardedSql.Proofs.Scan
import Mathlib

/-! What a query raises besides errors of a kind. Over a store that keeps to its driver's errors
and to rows as long as its columns, four things are left: an index of too many digits, read in its
turn; a key among the values that is too long to be told; a text whose escaped bytes the client's
encoding cannot read back; and the id of an inserted row that is no integer. Each is described for
all templates, values, clients and answers, so that everything else is known to be worded. -/

namespace GuardedSql

open Result (Fails fails_ok fails_error fails_mapError)

/-- A failure that a query makes an error of: a fault, or an error of the driver. -/
def Failure.Worded (f : Failure) : Prop := ∃ error, f.IsError error

theorem Failure.worded_ofFault (fault : Fault) : (Failure.ofFault fault).Worded :=
  ⟨_, .fault _⟩

theorem Failure.worded_raised {e : StoreError} (h : e.fromDriver = true) :
    (Failure.raised e).Worded :=
  ⟨_, .driver h⟩

theorem Failure.not_worded_tooManyDigits (n : Nat) : ¬ (Failure.tooManyDigits n).Worded := by
  rintro ⟨_, ⟨⟩⟩

theorem Failure.not_worded_overlongInteger : ¬ Failure.overlongInteger.Worded := by
  rintro ⟨_, ⟨⟩⟩

theorem Failure.not_worded_undecodable (report : String) :
    ¬ (Failure.undecodable report).Worded := by
  rintro ⟨_, ⟨⟩⟩

theorem Failure.not_worded_invalid (problems : List Config.Problem) :
    ¬ (Failure.invalid problems).Worded := by
  rintro ⟨_, ⟨⟩⟩

/-- What fails in words only fails in no other way. -/
theorem Failure.ne_error_of_worded {α : Type} {x : Except Failure α} {f : Failure}
    (hf : ¬ f.Worded) (h : Fails Failure.Worded x) : x ≠ .error f :=
  fun herror => hf (h f herror)

theorem Failure.worded_ofStoreError (form : StoreError → ExecutionFault) {e : StoreError}
    (h : e.fromDriver = true) : (Failure.ofStoreError form e).Worded := by
  rw [ofStoreError, if_pos h]
  exact worded_ofFault _

/-! Stores that keep to their driver's errors -/

/-- A connection whose escaping raises nothing but the driver's errors. -/
structure Connection.Orderly (conn : Connection) : Prop where
  escapeText : ∀ backslashes marked t e,
    conn.client.escapeText backslashes marked t = .error e → e.fromDriver = true
  codec : ∀ e, conn.client.codec = .error e → e.fromDriver = true
  escapeBytes : ∀ standardStrings raw e,
    conn.client.escapeBytes standardStrings raw = .error e → e.fromDriver = true

/-- Answers of a store that raises nothing but the driver's errors and whose rows have a value
for every column. -/
structure Reply.Orderly (reply : Reply) : Prop where
  openError : ∀ e, reply.openError = some e → e.fromDriver = true
  executeError : ∀ e, reply.executeError = some e → e.fromDriver = true
  fetchError : ∀ e, reply.fetchError = some e → e.fromDriver = true
  closeError : ∀ e, reply.closeError = some e → e.fromDriver = true
  rows : reply.columns ≠ [] → ∀ row ∈ reply.rows, row.length = reply.columns.length

theorem Connection.orderly_documented (mode : Mode) (codec : Codec)
    (closeError : Option StoreError) :
    Connection.Orderly ⟨mode, { codec := .ok codec }, closeError⟩ := by
  refine ⟨?_, ?_, ?_⟩
  · rintro backslashes marked t e ⟨⟩
  · rintro e ⟨⟩
  · rintro standardStrings raw e ⟨⟩

/-! Encoding -/

/-- The client's encoding cannot read what the client has escaped for a text. -/
def Connection.Garbles (conn : Connection) (t : Text) (report : String) : Prop :=
  '\x00' ∉ t ∧ ∃ standardStrings codec raw escaped, conn.mode = .postgres standardStrings ∧
    conn.client.codec = .ok codec ∧ codec.encode t = .ok raw ∧
    conn.client.escapeBytes standardStrings raw = .ok escaped ∧
    codec.decode escaped = .error report

theorem refuseNul_eq_ok_iff {product : Product} {t : Text} :
    refuseNul product t = .ok () ↔ '\x00' ∉ t := by
  unfold refuseNul
  split
  · rename_i h
    simpa using h
  · rename_i h
    simpa using h

/-- A text that is written and escaped fails only to be read. -/
theorem Connection.Orderly.escapeEncoded_unworded_iff {conn : Connection} (h : conn.Orderly)
    {standardStrings : Bool} {t : Text} {f : Failure} (hf : ¬ f.Worded) :
    conn.client.escapeEncoded standardStrings t = .error f ↔
      ∃ report codec raw escaped, f = .undecodable report ∧ conn.client.codec = .ok codec ∧
        codec.encode t = .ok raw ∧ conn.client.escapeBytes standardStrings raw = .ok escaped ∧
        codec.decode escaped = .error report := by
  have hraised : ∀ {α : Type} {x : Except StoreError α},
      Fails (fun e => e.fromDriver = true) x → x.mapError Failure.raised ≠ .error f :=
    fun hx => Failure.ne_error_of_worded hf (hx.mapError fun _ => Failure.worded_raised)
  constructor
  · intro herror
    rcases Result.bind_eq_error_iff.mp herror with hcodec | ⟨codec, hcodec, herror⟩
    · exact absurd hcodec (hraised h.codec)
    · rcases Result.bind_eq_error_iff.mp herror with hraw | ⟨raw, hraw, herror⟩
      · refine absurd hraw (Failure.ne_error_of_worded hf ?_)
        exact fails_mapError (fun _ => Failure.worded_ofFault _) _
      · rcases Result.bind_eq_error_iff.mp herror with hescaped | ⟨escaped, hescaped, herror⟩
        · exact absurd hescaped (hraised (h.escapeBytes standardStrings raw))
        · obtain ⟨report, hread, rfl⟩ := Result.mapError_eq_error_iff.mp herror
          exact ⟨report, codec, raw, escaped, rfl, Result.mapError_eq_ok hcodec,
            Result.mapError_eq_ok hraw, Result.mapError_eq_ok hescaped, hread⟩
  · rintro ⟨report, codec, raw, escaped, rfl, hcodec, hraw, hescaped, hread⟩
    simp only [Client.escapeEncoded, hcodec, hraw, hescaped, hread, Except.mapError, bind,
      Except.bind]

theorem Connection.Orderly.escaper_unworded_iff {conn : Connection} (h : conn.Orderly)
    {marked : Bool} {t : Text} {f : Failure} (hf : ¬ f.Worded) :
    conn.escaper marked t = .error f ↔
      ∃ report, f = .undecodable report ∧ conn.Garbles t report := by
  have hnul : ∀ product, refuseNul product t ≠ .error f := fun product =>
    Failure.ne_error_of_worded hf
      (fails_refuseNul (fun fault => Failure.worded_ofFault (.encoding fault)) product t)
  cases hmode : conn.mode with
  | sqlite =>
    simp only [escaper, hmode, Garbles, reduceCtorEq, false_and, exists_false, and_false,
      iff_false]
    intro herror
    rcases Result.bind_eq_error_iff.mp herror with hnone | ⟨-, -, hok⟩
    · exact hnul _ hnone
    · cases hok
  | mysql backslashes =>
    simp only [escaper, hmode, Garbles, reduceCtorEq, false_and, exists_false, and_false,
      iff_false]
    intro herror
    obtain ⟨e, he, rfl⟩ := Result.mapError_eq_error_iff.mp herror
    exact hf (Failure.worded_raised (h.escapeText _ _ _ e he))
  | postgres standardStrings =>
    simp only [escaper, hmode, Garbles]
    rw [Result.bind_eq_error_iff, or_iff_right (hnul _), h.escapeEncoded_unworded_iff hf]
    constructor
    · rintro ⟨⟨⟩, hwritten, report, codec, raw, escaped, rfl, hsteps⟩
      exact ⟨report, rfl, refuseNul_eq_ok_iff.mp hwritten, standardStrings, codec, raw, escaped,
        rfl, hsteps⟩
    · rintro ⟨report, rfl, hwritten, standardStrings', codec, raw, escaped, hsame, hsteps⟩
      obtain rfl := Mode.postgres.inj hsame
      exact ⟨(), refuseNul_eq_ok_iff.mpr hwritten, report, codec, raw, escaped, rfl, hsteps⟩

/-- A value fails unworded only as its text does. -/
theorem Literal.encode_unworded_iff {escape : Escaper} {v : Value} {f : Failure}
    (hf : ¬ f.Worded) : encode escape v = .error f ↔
      ∃ t, v.text? = some t ∧ escape v.isMarkup (plainPunctuation t) = .error f := by
  have hfault : ∀ fault : Fault, Failure.ofFault fault ≠ f := by
    rintro fault rfl
    exact hf (Failure.worded_ofFault fault)
  have htext : ∀ marked t, ofText escape marked t = .error f ↔
      escape marked (plainPunctuation t) = .error f := by
    intro marked t
    unfold ofText
    rw [Result.bind_eq_error_iff, or_iff_left]
    rintro ⟨body, -, hlost⟩
    split at hlost
    · exact hfault _ (Except.error.inj hlost)
    · cases hlost
  cases v with
  | int n => simp [encode, Result.mapError_eq_error_iff, hfault, Value.text?]
  | float bits => simp [encode, Result.mapError_eq_error_iff, hfault, Value.text?]
  | text t => simp [encode, htext, Value.text?, Value.isMarkup]
  | markup t => simp [encode, htext, Value.text?, Value.isMarkup]
  | _ => simp [encode, hfault, Value.text?]

/-- The first of the values that has no literal is a text that the client garbles. -/
def Connection.GarblesFirst (conn : Connection) (values : List Value) (report : String) : Prop :=
  ∃ front v back t, values = front ++ v :: back ∧
    (∀ x ∈ front, ∃ literal, Literal.encode conn.escaper x = .ok literal) ∧ v.text? = some t ∧
    conn.Garbles (Literal.plainPunctuation t) report

/-! Preparation -/

namespace Template

open Sql Literal

/-- A template that gets as far as a numeral of `n` digits, more than are read: no hole is hidden
in a literal or a comment, and all holes before it can be filled. -/
def AsksOverlong (d : Dialect) (t : Text) (count n : Nat) : Prop :=
  (∀ kind, kind ≠ .code → ∀ token ∈ tokensIn kind (segments d t), token.isNumeral = false) ∧
    ∃ front token back, tokensIn .code (segments d t) = front ++ token :: back ∧
      (∀ before ∈ front, Fillable count before) ∧ Overlong token ∧ token.length = n

/-- All else that is found wrong with a template is a fault. -/
theorem fill_eq_tooManyDigits_iff {d : Dialect} {t : Text} {literals : List Text} {n : Nat} :
    fill d t literals = .error (.tooManyDigits n) ↔ AsksOverlong d t literals.length n := by
  rw [AsksOverlong, ← checkHoles_eq_ok_iff, ← fillSegments_eq_tooManyDigits_iff]
  unfold fill
  rw [Result.bind_eq_error_iff]
  constructor
  · rintro (hholes | ⟨u, hholes, hfilled⟩)
    · -- what the check of holes finds is a fault
      have hfault : Fails (· ≠ Failure.tooManyDigits n)
          ((checkHoles (segments d t)).mapError fault) :=
        fails_mapError (fun _ => Failure.noConfusion) _
      exact absurd rfl (hfault _ hholes)
    · refine ⟨Result.mapError_eq_ok hholes, ?_⟩
      rcases Result.bind_eq_error_iff.mp hfilled with hsegments | ⟨ts, -, hchecked⟩
      · exact hsegments
      · dsimp only at hchecked
        split at hchecked
        · cases hchecked
        · split at hchecked <;> cases hchecked
  · rintro ⟨hholes, hsegments⟩
    refine .inr ⟨(), ?_, Result.bind_eq_error_iff.mpr (.inl hsegments)⟩
    rw [hholes]
    rfl

/-- A template whose only hole has a numeral of `n` ones. -/
def ones (n : Nat) : Text := "SELECT \x7b".toList ++ (List.replicate n '1' ++ ['\x7d'])

theorem mayOpen_ones (n : Nat) : ∀ c ∈ ones n, mayOpen c = false := by
  have hfront : ∀ c ∈ "SELECT \x7b".toList, mayOpen c = false := by simp [mayOpen]
  intro c hc
  rcases List.mem_append.mp hc with hc | hc
  · exact hfront c hc
  · rcases List.mem_append.mp hc with hc | hc
    · rw [List.eq_of_mem_replicate hc]
      decide
    · rw [List.mem_singleton.mp hc]
      decide

theorem segments_ones (d : Dialect) (n : Nat) : segments d (ones n) = [.code (ones n)] := by
  have hne : ones n ≠ [] := List.append_ne_nil_of_right_ne_nil _ (by simp)
  have hplain : Plain d [] (ones n) := plain_of_forall (mayOpen_ones n)
  have hscan : segmentsAfter d [] (ones n ++ []) = (ones n).foldr consCode (segmentsAfter d _ []) :=
    segmentsAfter_plain hplain
  rwa [List.append_nil, segmentsAfter, foldr_consCode hne (by simp)] at hscan

theorem tokens_ones (n : Nat) : tokens (ones n) = [List.replicate n '1'] := by
  have hbraces : ∀ c ∈ List.replicate n '1', isBrace c = false := by
    intro c hc
    rw [List.eq_of_mem_replicate hc]
    decide
  have hhole := pieces_hole hbraces []
  rw [pieces] at hhole
  show (pieces ('S' :: 'E' :: 'L' :: 'E' :: 'C' :: 'T' :: ' ' :: '\x7b' ::
    (List.replicate n '1' ++ ['\x7d']))).filterMap Piece.token? = _
  iterate 7 rw [pieces_char (by decide)]
  rw [hhole]
  rfl

theorem asksOverlong_ones (d : Dialect) (count : Nat) {n : Nat} (h : Value.digitLimit < n) :
    AsksOverlong d (ones n) count n := by
  have htokens : ∀ kind, kind ≠ .code → tokensIn kind (segments d (ones n)) = [] := by
    intro kind hkind
    simp [segments_ones, tokensIn, Segment.kind, hkind.symm]
  refine ⟨?_, [], List.replicate n '1', [], ?_, by simp, ⟨?_, by simpa using h⟩, by simp⟩
  · intro kind hkind
    simp [htokens kind hkind]
  · simp [segments_ones, tokensIn, Segment.kind, Segment.text, tokens_ones]
  · have hne : n ≠ 0 := by omega
    simp [Text.isNumeral, hne, Text.isDigit]

/-- All else that a filling fails with is a fault. -/
theorem fill_unworded_iff {d : Dialect} {t : Text} {literals : List Text} {f : Failure}
    (hf : ¬ f.Worded) : fill d t literals = .error f ↔
      ∃ n, f = .tooManyDigits n ∧ AsksOverlong d t literals.length n := by
  have hfill : Fails (fun f => f.Worded ∨ ∃ n, f = .tooManyDigits n) (fill d t literals) :=
    fails_fill (fun _ => .inl (Failure.worded_ofFault _)) (fun n => .inr ⟨n, rfl⟩) d t literals
  constructor
  · intro h
    obtain ⟨n, rfl⟩ := (hfill f h).resolve_left hf
    exact ⟨n, rfl, fill_eq_tooManyDigits_iff.mp h⟩
  · rintro ⟨n, rfl, h⟩
    exact fill_eq_tooManyDigits_iff.mpr h

theorem refusal_unworded_iff {fault : TemplateFault} {f : Failure} (hf : ¬ f.Worded) :
    refusal fault = f ↔ f = .overlongInteger ∧ fault.isWritable = false := by
  unfold refusal
  split
  · rename_i hwritable
    refine iff_of_false ?_ (by simp [hwritable])
    rintro rfl
    exact hf (Failure.worded_ofFault _)
  · rename_i hwritable
    simp [hwritable, eq_comm]

/-- The ways in which a substitution fails unworded. -/
theorem substitute_unworded_iff {conn : Connection} (hconn : conn.Orderly) {d : Dialect}
    {template replacements : Value} {f : Failure} (hf : ¬ f.Worded) :
    substitute d conn.escaper template replacements = .error f ↔
      ∃ t, template.text? = some t ∧
        ((f = .overlongInteger ∧ ∃ fault, replacementValues replacements = .error fault ∧
            fault.isWritable = false) ∨
          ∃ values, replacementValues replacements = .ok values ∧
            ((∃ report, f = .undecodable report ∧ conn.GarblesFirst values report) ∨
              ∃ n literals, f = .tooManyDigits n ∧
                values.mapM (encode conn.escaper) = .ok literals ∧
                AsksOverlong d t values.length n)) := by
  have hgarbled : ∀ values : List Value, values.mapM (encode conn.escaper) = .error f ↔
      ∃ report, f = .undecodable report ∧ conn.GarblesFirst values report := by
    intro values
    rw [Result.mapM_eq_error_iff]
    simp only [encode_unworded_iff hf, hconn.escaper_unworded_iff hf]
    constructor
    · rintro ⟨front, v, back, hsplit, hfront, t, ht, report, hreport, hgarbles⟩
      exact ⟨report, hreport, front, v, back, t, hsplit, hfront, ht, hgarbles⟩
    · rintro ⟨report, hreport, front, v, back, t, hsplit, hfront, ht, hgarbles⟩
      exact ⟨front, v, back, hsplit, hfront, t, ht, report, hreport, hgarbles⟩
  cases ht : template.text? with
  | none =>
    simp only [substitute, ht, reduceCtorEq, false_and, exists_false, iff_false]
    intro herror
    obtain rfl := Except.error.inj herror
    exact hf (Failure.worded_ofFault _)
  | some t =>
    simp only [substitute, ht, Option.some.injEq, exists_eq_left']
    cases hvalues : replacementValues replacements with
    | error fault =>
      simp only [Except.mapError, bind, Except.bind, Except.error.injEq, reduceCtorEq, false_and,
        exists_false, or_false, exists_eq_left']
      exact refusal_unworded_iff hf
    | ok values =>
      simp only [Except.mapError, reduceCtorEq, false_and, exists_false, and_false, false_or,
        Except.ok.injEq, exists_eq_left']
      show (values.mapM (encode conn.escaper) >>= fun literals => fill d t literals) = .error f ↔ _
      rw [Result.bind_eq_error_iff, hgarbled]
      refine or_congr_right ?_
      constructor
      · rintro ⟨literals, hliterals, hfill⟩
        obtain ⟨n, rfl, hasks⟩ := (fill_unworded_iff hf).mp hfill
        rw [← (Result.forall₂_of_mapM hliterals).length_eq] at hasks
        exact ⟨n, literals, rfl, hliterals, hasks⟩
      · rintro ⟨n, literals, rfl, hliterals, hasks⟩
        rw [(Result.forall₂_of_mapM hliterals).length_eq] at hasks
        exact ⟨literals, hliterals, (fill_unworded_iff hf).mpr ⟨n, rfl, hasks⟩⟩

end Template

namespace Session

variable {s : Session} {step : Step} {r : Request} {f : Failure}

/-- A query whose template asks, in its turn, by a numeral of `n` digits. -/
def AsksOverlong (s : Session) (r : Request) (n : Nat) : Prop :=
  ∃ conn t values literals, s.connection = some conn ∧ r.template.text? = some t ∧
    Template.replacementValues r.replacements = .ok values ∧
    values.mapM (Literal.encode conn.escaper) = .ok literals ∧
    Template.AsksOverlong conn.mode.dialect t values.length n

/-- A query whose values are a mapping with a key that is too long to be told. -/
def TellsOverlong (s : Session) (r : Request) : Prop :=
  ∃ conn t fault, s.connection = some conn ∧ r.template.text? = some t ∧
    Template.replacementValues r.replacements = .error fault ∧ fault.isWritable = false

/-- A query whose first value without a literal is a text that the client garbles. -/
def Garbles (s : Session) (r : Request) (report : String) : Prop :=
  ∃ conn t values, s.connection = some conn ∧ r.template.text? = some t ∧
    Template.replacementValues r.replacements = .ok values ∧ conn.GarblesFirst values report

/-- The ways in which a query stops unworded for want of a statement. -/
theorem substitute_unworded_iff_of_open {conn : Connection} (hopen : s.connection = some conn)
    (hconn : conn.Orderly) (hf : ¬ f.Worded) :
    Template.substitute conn.mode.dialect conn.escaper r.template r.replacements = .error f ↔
      (∃ n, f = .tooManyDigits n ∧ s.AsksOverlong r n) ∨
      (f = .overlongInteger ∧ s.TellsOverlong r) ∨
      ∃ report, f = .undecodable report ∧ s.Garbles r report := by
  rw [Template.substitute_unworded_iff hconn hf]
  constructor
  · rintro ⟨t, ht, ⟨rfl, fault, hfault, hlong⟩ |
      ⟨values, hvalues, ⟨report, rfl, hgarbles⟩ | ⟨n, literals, rfl, hliterals, hasks⟩⟩⟩
    · exact .inr (.inl ⟨rfl, conn, t, fault, hopen, ht, hfault, hlong⟩)
    · exact .inr (.inr ⟨report, rfl, conn, t, values, hopen, ht, hvalues, hgarbles⟩)
    · exact .inl ⟨n, rfl, conn, t, values, literals, hopen, ht, hvalues, hliterals, hasks⟩
  · rintro (⟨n, rfl, conn', t, values, literals, hopen', ht, hvalues, hliterals, hasks⟩ |
      ⟨rfl, conn', t, fault, hopen', ht, hfault, hlong⟩ |
      ⟨report, rfl, conn', t, values, hopen', ht, hvalues, hgarbles⟩)
    · obtain rfl := Option.some.inj (hopen.symm.trans hopen')
      exact ⟨t, ht, .inr ⟨values, hvalues, .inr ⟨n, literals, rfl, hliterals, hasks⟩⟩⟩
    · exact ⟨t, ht, .inl ⟨rfl, fault, hfault, hlong⟩⟩
    · obtain rfl := Option.some.inj (hopen.symm.trans hopen')
      exact ⟨t, ht, .inr ⟨values, hvalues, .inl ⟨report, rfl, hgarbles⟩⟩⟩

/-- The stages behind the substitution refuse in words. -/
theorem prepare_unworded_iff {softDelete rowsExpected : Bool} {conn : Connection}
    {template replacements : Value} (hf : ¬ f.Worded) :
    prepare softDelete rowsExpected conn template replacements = .error f ↔
      Template.substitute conn.mode.dialect conn.escaper template replacements = .error f := by
  constructor
  · intro h
    rcases Result.bind_eq_error_iff.mp h with hsubstitute | ⟨statement, -, h⟩
    · exact hsubstitute
    · rcases Result.bind_eq_error_iff.mp h with hguard | ⟨kind, -, h⟩
      · refine absurd hguard (Failure.ne_error_of_worded hf ?_)
        exact fails_mapError (fun _ => Failure.worded_ofFault _) _
      · dsimp only at h
        split at h
        · obtain rfl := Except.error.inj h
          exact absurd (Failure.worded_ofFault _) hf
        · cases h
  · intro h
    rw [prepare, h]
    rfl

end Session

/-! Execution -/

namespace Execution

/-- An INSERT that was executed and closed, and gives for an id what cannot be read as one. -/
def YieldsUnreadable (product : Product) (kind : Sql.CommandKind) (reply : Reply)
    (problem : Config.ProblemKind) : Prop :=
  kind = .insert ∧ reply.openError = none ∧ reply.executeError = none ∧
    reply.closeError = none ∧ ∃ id, (lastInsertId product reply).2 = .ok id ∧
      Config.optional Config.readInteger id = .error problem

variable {product : Product} {kind : Sql.CommandKind} {statement : Text} {reply : Reply}

theorem nameRow_of_length_eq {columns : List Text} {values : List Value}
    (h : values.length = columns.length) :
    nameRow columns values = .ok (Row.ofColumns columns values) := by
  rw [nameRow, if_neg (by omega), if_neg (by omega)]

/-- The driver's own error, as it was raised. -/
def IsDriverError (f : Failure) : Prop := ∃ e, f = .raised e ∧ e.fromDriver = true

theorem worded_whileReading {f : Failure} (h : IsDriverError f) : f.whileReading.Worded := by
  obtain ⟨e, rfl, he⟩ := h
  exact Failure.worded_ofStoreError .unreadable he

theorem fails_readRows_of_orderly (h : reply.Orderly) : Fails IsDriverError (readRows reply).2 := by
  unfold readRows
  split
  · exact fails_ok _
  · rename_i hcolumns
    split
    · rename_i e hfetch
      exact fails_error ⟨e, rfl, h.fetchError e hfetch⟩
    · obtain ⟨rows, hrows⟩ : ∃ rows, reply.rows.mapM (nameRow reply.columns) = .ok rows := by
        refine Result.exists_mapM_eq_ok_iff.mpr ?_
        intro row hrow
        exact ⟨_, nameRow_of_length_eq (h.rows (by simpa using hcolumns) row hrow)⟩
      rw [hrows]
      exact fails_ok _

theorem fails_lastInsertId_of_orderly (product : Product) (h : reply.Orderly) :
    Fails IsDriverError (lastInsertId product reply).2 := by
  unfold lastInsertId
  split
  · split
    · exact fails_ok _
    · rename_i hcolumns
      have hne : reply.columns ≠ [] := by simpa using hcolumns
      split
      · rename_i e hfetch
        exact fails_error ⟨e, rfl, h.fetchError e hfetch⟩
      · split
        · exact fails_ok _
        · rename_i hlast
          have hlength := h.rows hne [] (List.mem_of_getLast? hlast)
          exact absurd (List.length_eq_zero_iff.mp hlength.symm) hne
        · exact fails_ok _
  · exact fails_ok _

/-- A run fails unworded only over the id of an inserted row. -/
theorem run_unworded_iff (h : reply.Orderly) {f : Failure} (hf : ¬ f.Worded) :
    (run product kind statement reply).2 = .error f ↔
      ∃ problem, f = .invalid [⟨some "last_insert_id", problem⟩] ∧
        YieldsUnreadable product kind reply problem := by
  -- wherever all failures are worded, neither side holds
  have hother : ∀ {x : Except Failure Outcome}, Fails Failure.Worded x → x ≠ .error f :=
    fun hx herror => hf (hx f herror)
  unfold run
  cases hopen : reply.openError with
  | some e =>
    have he := Failure.worded_ofStoreError .refused (h.openError e hopen)
    refine iff_of_false (hother (fails_error he)) ?_
    rintro ⟨problem, -, -, hnone, -⟩
    cases hopen.symm.trans hnone
  | none =>
    cases hexecute : reply.executeError with
    | some e =>
      have hdriver : (reply.closeError.getD e).fromDriver = true := by
        cases hclose : reply.closeError with
        | none => exact h.executeError e hexecute
        | some e' => exact h.closeError e' hclose
      refine iff_of_false (hother (fails_error (Failure.worded_ofStoreError .refused hdriver))) ?_
      rintro ⟨problem, -, -, -, hnone, -⟩
      cases hexecute.symm.trans hnone
    | none =>
      cases hclose : reply.closeError with
      | some e =>
        have he := Failure.worded_raised (h.closeError e hclose)
        refine iff_of_false (hother (fails_error he)) ?_
        rintro ⟨problem, -, -, -, -, hnone, -⟩
        cases hclose.symm.trans hnone
      | none =>
        show (readOutcome product kind reply).2.mapError Failure.whileReading = .error f ↔ _
        cases kind with
        | select =>
          have hrows := ((fails_readRows_of_orderly h).map
            fun rows => Outcome.rowSet rows rows.length).mapError fun _ => worded_whileReading
          refine iff_of_false (hother hrows) ?_
          rintro ⟨problem, -, ⟨⟩, -⟩
        | update => exact iff_of_false (hother (fails_ok _)) (by rintro ⟨problem, -, ⟨⟩, -⟩)
        | delete => exact iff_of_false (hother (fails_ok _)) (by rintro ⟨problem, -, ⟨⟩, -⟩)
        | insert =>
          simp only [readOutcome, YieldsUnreadable, hopen, hexecute, hclose, true_and]
          cases hid : (lastInsertId product reply).2 with
          | error f' =>
            have hdriver := fails_lastInsertId_of_orderly product h f' hid
            refine iff_of_false (hother (fails_error (worded_whileReading hdriver))) ?_
            rintro ⟨problem, -, id, ⟨⟩, -⟩
          | ok id =>
            simp only [Except.bind, writeOutcome, Except.ok.injEq, exists_eq_left']
            cases Config.optional Config.readInteger id with
            | ok lastId => simp [Except.mapError]
            | error problem => simp [Except.mapError, Failure.whileReading, eq_comm]

/-- A run counts the rows that it reads. -/
theorem count_of_run {rows : List Row} {count : Int}
    (h : (run product kind statement reply).2 = .ok (.rowSet rows count)) :
    count = rows.length := by
  unfold run at h
  split at h
  · cases h
  · split at h
    · cases h
    · dsimp only at h
      split at h
      · cases h
      · have hread := Result.mapError_eq_ok h
        cases kind with
        | select =>
          obtain ⟨rows', -, hrows⟩ := Result.map_eq_ok hread
          obtain ⟨rfl, rfl⟩ := Outcome.rowSet.inj hrows
          rfl
        | insert =>
          obtain ⟨id, -, hwrite⟩ := Result.bind_eq_ok hread
          unfold writeOutcome at hwrite
          split at hwrite <;> cases hwrite
        | update => cases hread
        | delete => cases hread

end Execution

/-- The row that is asked of a result that counts its rows is there. -/
theorem Outcome.fails_single_of_count {outcome : Outcome}
    (h : ∀ rows count, outcome = .rowSet rows count → count = rows.length) (column : Option Text) :
    Fails Failure.Worded (outcome.single column) := by
  intro f hf
  rcases Outcome.fails_single column outcome f hf with rfl | ⟨fault, rfl, -⟩
  · cases outcome with
    | written affected lastId => cases hf
    | rowSet rows count =>
      obtain rfl := h rows count rfl
      cases rows with
      | nil => cases hf
      | cons row rows =>
        dsimp only [single] at hf
        split at hf
        · cases hf
        · cases column with
          | none => cases hf
          | some name =>
            dsimp only at hf
            split at hf <;> cases hf
  · exact Failure.worded_ofFault _

/-! Queries -/

namespace Session

variable {s : Session} {step : Step} {r : Request} {f : Failure}

theorem fails_finish_of_run (step : Step) {product : Product} {kind : Sql.CommandKind}
    {statement : Text} {reply : Reply} {outcome : Outcome}
    (h : (Execution.run product kind statement reply).2 = .ok outcome) :
    Fails Failure.Worded (step.finish outcome) := by
  have hcount : ∀ rows count, outcome = .rowSet rows count → count = rows.length := by
    rintro rows count rfl
    exact Execution.count_of_run h
  cases step with
  | querySingleRow template replacements column reply =>
    exact (Outcome.fails_single_of_count hcount column).map _
  | _ => exact fails_ok _

/-- A query whose statement was executed as an INSERT, and whose id cannot be read as one. -/
def YieldsUnreadable (s : Session) (r : Request) (problem : Config.ProblemKind) : Prop :=
  ∃ conn statement kind, s.connection = some conn ∧
    prepare s.softDelete r.rowsExpected conn r.template r.replacements = .ok (statement, kind) ∧
    Execution.YieldsUnreadable s.product kind r.reply problem

/-- What a query tells that is no error of a kind is what it failed with, unworded. -/
theorem answer_conclude_eq_error_iff {template : Value} {calls : List Call}
    {records : List Record} {result : Except Failure Answer} (hf : ∀ error, f ≠ .database error) :
    (s.conclude template calls records result).answer = .error f ↔
      result = .error f ∧ ¬ f.Worded := by
  have hworded : ∀ f' : Failure, f'.Worded ↔ ∃ error, reported? f' = some error :=
    fun f' => exists_congr fun error => reported?_eq_some_iff.symm
  rw [answer_conclude, hworded]
  cases result with
  | ok answer => simp [Except.mapError]
  | error f' =>
    cases hreported : reported? f' with
    | none =>
      simp only [Except.mapError, hreported, Option.elim, Except.error.injEq, iff_self_and]
      rintro rfl
      simp [hreported]
    | some error =>
      simp only [Except.mapError, hreported, Option.elim, Except.error.injEq]
      refine iff_of_false (fun h => hf _ h.symm) ?_
      rintro ⟨rfl, hnone⟩
      exact hnone ⟨error, hreported⟩

/-- A query fails unworded in one of four ways. -/
theorem inner_unworded_iff (hconn : ∀ conn, s.connection = some conn → conn.Orderly)
    (hreply : r.reply.Orderly) (hf : ¬ f.Worded) : s.inner step r = .error f ↔
      (∃ n, f = .tooManyDigits n ∧ s.AsksOverlong r n) ∨
      (f = .overlongInteger ∧ s.TellsOverlong r) ∨
      (∃ report, f = .undecodable report ∧ s.Garbles r report) ∨
      (∃ problem, f = .invalid [⟨some "last_insert_id", problem⟩] ∧
        s.YieldsUnreadable r problem) := by
  unfold inner run
  cases hopen : s.connection with
  | none =>
    refine iff_of_false ?_ ?_
    · intro h
      obtain rfl := Except.error.inj h
      exact hf (Failure.worded_ofFault _)
    · rintro (⟨n, -, conn, _, _, _, hconn', -⟩ | ⟨-, conn, _, _, hconn', -⟩ |
        ⟨report, -, conn, _, _, hconn', -⟩ | ⟨problem, -, conn, _, _, hconn', -⟩) <;>
        cases hopen.symm.trans hconn'
  | some conn =>
    -- the first three ways are open only to a preparation that fails, the last to one that succeeds
    have hstops := substitute_unworded_iff_of_open (r := r) hopen (hconn conn hopen) hf
    rw [← or_assoc (b := ∃ report, _), ← or_assoc, ← hstops, ← prepare_unworded_iff hf]
    dsimp only
    cases hprepare : prepare s.softDelete r.rowsExpected conn r.template r.replacements with
    | error f' =>
      constructor
      · intro h
        obtain rfl := Except.error.inj h
        exact .inl rfl
      · rintro (h | ⟨problem, -, conn', _, _, hopen', hok, -⟩)
        · obtain rfl := Except.error.inj h
          rfl
        · obtain rfl := Option.some.inj (hopen.symm.trans hopen')
          cases hprepare.symm.trans hok
    | ok prepared =>
      obtain ⟨statement, kind⟩ := prepared
      have hyields : ∀ problem, s.YieldsUnreadable r problem ↔
          Execution.YieldsUnreadable s.product kind r.reply problem := by
        intro problem
        simp [YieldsUnreadable, hopen, hprepare]
      simp only [hyields, reduceCtorEq, false_or]
      rw [← Execution.run_unworded_iff hreply hf]
      rcases hrun : Execution.run s.product kind statement r.reply with ⟨calls, result⟩
      cases result with
      | error f' =>
        show (Except.error f' : Except Failure Answer) = .error f ↔
          (Except.error f' : Except Failure Outcome) = .error f
        rw [Except.error.injEq, Except.error.injEq]
      | ok outcome =>
        have hfinish : step.finish outcome ≠ .error f := by
          intro herror
          exact hf (fails_finish_of_run step (congrArg Prod.snd hrun) f herror)
        exact iff_of_false hfinish (by rintro ⟨⟩)

/-- What reaches the caller of a query over a store that keeps to its driver's errors: general
words, but for an index of too many digits, for a key among the values that is too long to be
told, for a text that the client garbles, and for the id of an inserted row that is none. -/
theorem answer_of_orderly {s : Session} {step : Step} {r : Request} (hr : step.request? = some r)
    (hconn : ∀ conn, s.connection = some conn → conn.Orderly) (hreply : r.reply.Orderly) :
    (∀ error, (s.step step).answer = .error (.database error) →
      error.text = error.kind.publicMessage) ∧
    ∀ f, (∀ error, f ≠ .database error) → ((s.step step).answer = .error f ↔
      (∃ n, f = .tooManyDigits n ∧ s.AsksOverlong r n) ∨
      (f = .overlongInteger ∧ s.TellsOverlong r) ∨
      (∃ report, f = .undecodable report ∧ s.Garbles r report) ∨
      (∃ problem, f = .invalid [⟨some "last_insert_id", problem⟩] ∧
        s.YieldsUnreadable r problem)) := by
  constructor
  · intro error herror
    obtain ⟨inner, -, hdisclosed⟩ := (s.tells step).failures.disclosed error herror
    rw [hdisclosed.text, hdisclosed.kind]
  · intro f hf
    rw [step_of_request hr, answer_conclude_eq_error_iff hf]
    constructor
    · rintro ⟨hinner, hunworded⟩
      exact (inner_unworded_iff hconn hreply hunworded).mp hinner
    · intro h
      have hunworded : ¬ f.Worded := by
        rcases h with ⟨n, rfl, -⟩ | ⟨rfl, -⟩ | ⟨report, rfl, -⟩ | ⟨problem, rfl, -⟩
        · exact Failure.not_worded_tooManyDigits n
        · exact Failure.not_worded_overlongInteger
        · exact Failure.not_worded_undecodable report
        · exact Failure.not_worded_invalid _
      exact ⟨(inner_unworded_iff hconn hreply hunworded).mpr h, hunworded⟩

/-- A name that an INSERT returns is no id. -/
theorem answer_of_returned_name :
    ((⟨.postgres, false, some ⟨.postgres true, {}, none⟩⟩ : Session).step
        (.query (.text "INSERT INTO t VALUES (1) RETURNING name".toList) (.list [])
          { columns := ["name".toList], rows := [[.text "a".toList]] })).answer
      = .error (.invalid [⟨some "last_insert_id", .unreadableInteger⟩]) := by
  have hconn : (⟨.postgres true, {}, none⟩ : Connection).Orderly :=
    Connection.orderly_documented _ _ _
  have hreply : ({ columns := ["name".toList], rows := [[.text "a".toList]] } : Reply).Orderly := by
    refine ⟨?_, ?_, ?_, ?_, by simp⟩ <;> rintro e ⟨⟩
  have hprepare : prepare false false ⟨.postgres true, {}, none⟩
      (.text "INSERT INTO t VALUES (1) RETURNING name".toList) (.list [])
        = .ok ("INSERT INTO t VALUES (1) RETURNING name".toList, .insert) := by
    cbv
  refine ((answer_of_orderly rfl ?_ hreply).2 _ (by simp)).mpr (.inr (.inr (.inr ⟨_, rfl, ?_⟩)))
  · rintro conn ⟨⟩
    exact hconn
  · exact ⟨_, _, _, rfl, hprepare, rfl, rfl, rfl, rfl, _, rfl, by cbv⟩

/-- A hole whose index has one digit too many is neither filled nor refused in words, although
nothing is wrong with the store. -/
theorem answer_of_overlong :
    (⟨.sqlite, {}, none⟩ : Connection).Orderly ∧ ({} : Reply).Orderly ∧
      ((⟨.sqlite, false, some ⟨.sqlite, {}, none⟩⟩ : Session).step
          (.query (.text (Template.ones 4301)) (.list [.null]) {})).answer
        = .error (.tooManyDigits 4301) := by
  have hconn : (⟨.sqlite, {}, none⟩ : Connection).Orderly := Connection.orderly_documented _ _ _
  have hreply : ({} : Reply).Orderly := by
    refine ⟨?_, ?_, ?_, ?_, by simp⟩ <;> rintro e ⟨⟩
  have hasks : (⟨.sqlite, false, some ⟨.sqlite, {}, none⟩⟩ : Session).AsksOverlong
      ⟨false, .text (Template.ones 4301), .list [.null], {}⟩ 4301 :=
    ⟨_, _, [.null], ["NULL".toList], rfl, rfl, rfl, rfl,
      Template.asksOverlong_ones _ _ (by simp [Value.digitLimit])⟩
  refine ⟨hconn, hreply, ?_⟩
  rw [step_of_request rfl, answer_conclude_eq_error_iff (by simp)]
  refine ⟨(inner_unworded_iff ?_ hreply ?_).mpr (.inl ⟨4301, rfl, hasks⟩), ?_⟩
  · rintro conn ⟨⟩
    exact hconn
  · exact Failure.not_worded_tooManyDigits _
  · exact Failure.not_worded_tooManyDigits _

end Session

end GuardedSql
