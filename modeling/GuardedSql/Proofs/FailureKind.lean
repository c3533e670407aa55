import GuardedSql.Proofs.Result
import GuardedSql.Session

/-! Which kinds of errors each stage of a query can end in. A stage is bound by the kinds of its
own faults and of the stages that it calls; what no kind stands for is never counted. So the kind
of an error tells the stage that it comes from. Up to the preparation the bound is any condition
that the stage's faults meet. -/

namespace GuardedSql

open Result (Fails fails_ok fails_error fails_mapError)

namespace Failure

def kind? : Failure → Option ErrorKind
  | .database e => some e.kind
  | _ => none

/-- A failure of one of the kinds, or of none at all. -/
def Within (kinds : List ErrorKind) (f : Failure) : Prop := ∀ kind ∈ f.kind?, kind ∈ kinds

theorem within_ofFault (fault : Fault) : Within [fault.kind] (.ofFault fault) := by
  intro kind hkind
  obtain rfl := Option.some.inj hkind
  exact List.mem_singleton.mpr rfl

theorem within_of_kind?_eq_none {kinds : List ErrorKind} {f : Failure} (h : f.kind? = none) :
    Within kinds f := by
  intro kind hkind
  rw [h] at hkind
  cases hkind

theorem Within.mono {kinds kinds' : List ErrorKind} (hsub : kinds ⊆ kinds') {f : Failure}
    (h : Within kinds f) : Within kinds' f := by
  intro kind hkind
  exact hsub (h kind hkind)

theorem fails_mono {kinds kinds' : List ErrorKind} {α : Type} {x : Except Failure α}
    (h : Fails (Within kinds) x) (hsub : kinds ⊆ kinds') : Fails (Within kinds') x :=
  Fails.mono (fun _ => Within.mono hsub) h

theorem within_ofStoreError (form : StoreError → ExecutionFault) (e : StoreError) :
    Within [.execution] (ofStoreError form e) := by
  unfold ofStoreError
  split
  · exact within_ofFault _
  · exact within_of_kind?_eq_none rfl

end Failure

open Failure (Within within_ofFault within_of_kind?_eq_none within_ofStoreError)

/-! Encoding -/

theorem fails_refuseNul {P : Failure → Prop} (hencoding : ∀ f, P (.ofFault (.encoding f)))
    (product : Product) (t : Text) : Fails P (refuseNul product t) := by
  unfold refuseNul
  split
  · exact fails_error (hencoding _)
  · exact fails_ok _

theorem Connection.fails_escaper {P : Failure → Prop} (conn : Connection)
    (hencoding : ∀ f, P (.ofFault (.encoding f))) (hraised : ∀ e, P (.raised e))
    (hundecodable : ∀ report, P (.undecodable report)) (marked : Bool) (t : Text) :
    Fails P (conn.escaper marked t) := by
  obtain ⟨mode, client, closeError⟩ := conn
  cases mode with
  | sqlite => exact (fails_refuseNul hencoding _ t).bind fun _ => fails_ok _
  | mysql backslashes => exact fails_mapError hraised _
  | postgres standardStrings =>
    refine (fails_refuseNul hencoding _ t).bind fun _ => (fails_mapError hraised _).bind ?_
    intro codec
    refine (fails_mapError (fun _ => hencoding _) _).bind fun _ =>
      (fails_mapError hraised _).bind ?_
    intro escaped
    exact fails_mapError hundecodable _

namespace Literal

variable {P : Failure → Prop} {escape : Escaper}

theorem fails_ofText (hescape : ∀ marked t, Fails P (escape marked t))
    (hencoding : ∀ f, P (.ofFault (.encoding f))) (marked : Bool) (t : Text) :
    Fails P (ofText escape marked t) := by
  refine (hescape _ _).bind ?_
  intro body
  split
  · exact fails_error (hencoding _)
  · exact fails_ok _

theorem fails_encode (hescape : ∀ marked t, Fails P (escape marked t))
    (hencoding : ∀ f, P (.ofFault (.encoding f))) (v : Value) : Fails P (encode escape v) := by
  cases v with
  | null => exact fails_ok _
  | bool b => exact fails_ok _
  | int n => exact fails_mapError hencoding _
  | float bits => exact fails_mapError hencoding _
  | text t => exact fails_ofText hescape hencoding false t
  | markup t => exact fails_ofText hescape hencoding true t
  | _ => exact fails_error (hencoding _)

end Literal

/-! Substitution -/

namespace Template

section Fails

variable {P : Failure → Prop} (htemplate : ∀ f, P (fault f)) (hdigits : ∀ n, P (.tooManyDigits n))

include hdigits

theorem fails_readIndex (token : Text) : Fails P (readIndex token) := by
  unfold readIndex
  split
  · exact fails_ok _
  · exact fails_error (hdigits _)

include htemplate

theorem fails_fillPiece (literals : List Text) (p : Sql.Piece) :
    Fails P (fillPiece literals p) := by
  cases p with
  | char c => exact fails_ok _
  | hole token =>
    rw [fillPiece]
    cases token.isNumeral with
    | false => exact fails_error (htemplate _)
    | true =>
      refine (fails_readIndex hdigits token).bind ?_
      intro i
      split
      · exact fails_ok _
      · exact fails_error (htemplate _)

theorem fails_fillSegment (literals : List Text) (s : Sql.Segment) :
    Fails P (fillSegment literals s) := by
  cases s with
  | code t => exact (Fails.mapM (fails_fillPiece htemplate hdigits literals) _).map _
  | literal t closed => exact fails_ok _
  | comment t closed => exact fails_ok _

theorem fails_fill (d : Sql.Dialect) (t : Text) (literals : List Text) :
    Fails P (fill d t literals) := by
  unfold fill
  refine (fails_mapError htemplate _).bind ?_
  intro u
  refine (Fails.mapM (fails_fillSegment htemplate hdigits literals) _).bind ?_
  intro ts
  dsimp only
  split
  · exact fails_error (htemplate _)
  · split
    · exact fails_error (htemplate _)
    · exact fails_ok _

/-- A substitution fails over the template or over a value. -/
theorem fails_substitute (d : Sql.Dialect) {escape : Escaper}
    (hescape : ∀ marked t, Fails P (escape marked t))
    (hencoding : ∀ f, P (.ofFault (.encoding f))) (hoverlong : P .overlongInteger)
    (template replacements : Value) : Fails P (substitute d escape template replacements) := by
  have hrefusal : ∀ f, P (refusal f) := by
    intro f
    unfold refusal
    split
    · exact htemplate f
    · exact hoverlong
  unfold substitute
  split
  · exact fails_error (htemplate _)
  · refine (fails_mapError hrefusal _).bind ?_
    intro values
    refine (Fails.mapM (Literal.fails_encode hescape hencoding) values).bind ?_
    intro literals
    exact fails_fill htemplate hdigits d _ literals

end Fails

end Template

/-! Preparation -/

/-- What is refused before it runs is refused for the statement, not for the connection. -/
theorem Session.fails_prepare (softDelete rowsExpected : Bool) (conn : Connection)
    (template replacements : Value) :
    Fails (Within [.encoding, .template, .guard, .shape])
      (prepare softDelete rowsExpected conn template replacements) := by
  have hencoding : ∀ f, Within [.encoding, .template, .guard, .shape] (.ofFault (.encoding f)) :=
    fun f => (within_ofFault (.encoding f)).mono (by simp [Fault.kind])
  have htemplate : ∀ f, Within [.encoding, .template, .guard, .shape] (.ofFault (.template f)) :=
    fun f => (within_ofFault (.template f)).mono (by simp [Fault.kind])
  have hescape := Connection.fails_escaper conn hencoding
    (fun _ => within_of_kind?_eq_none rfl) fun _ => within_of_kind?_eq_none rfl
  unfold prepare
  refine (Template.fails_substitute htemplate (fun _ => within_of_kind?_eq_none rfl) _ hescape
    hencoding (within_of_kind?_eq_none rfl) template replacements).bind ?_
  intro statement
  refine Fails.bind (fails_mapError (fun f => (within_ofFault (.guard f)).mono
    (by simp [Fault.kind])) _) ?_
  intro kind
  dsimp only
  split
  · exact fails_error ((within_ofFault (.shape (.notSelect _))).mono (by simp [Fault.kind]))
  · exact fails_ok _

/-! Execution -/

namespace Execution

theorem fails_nameRow (columns : List Text) (values : List Value) :
    Fails (Within []) (nameRow columns values) := by
  unfold nameRow
  split
  · exact fails_error (within_of_kind?_eq_none rfl)
  · split
    · exact fails_error (within_of_kind?_eq_none rfl)
    · exact fails_ok _

theorem fails_readRows (reply : Reply) : Fails (Within []) (readRows reply).2 := by
  unfold readRows
  split
  · exact fails_ok _
  · split
    · exact fails_error (within_of_kind?_eq_none rfl)
    · exact Fails.mapM (fails_nameRow _) _

theorem fails_lastInsertId (product : Product) (reply : Reply) :
    Fails (Within []) (lastInsertId product reply).2 := by
  unfold lastInsertId
  split
  · split
    · exact fails_ok _
    · split
      · exact fails_error (within_of_kind?_eq_none rfl)
      · split
        · exact fails_ok _
        · exact fails_error (within_of_kind?_eq_none rfl)
        · exact fails_ok _
  · exact fails_ok _

theorem fails_writeOutcome (affected : Int) (id : Value) :
    Fails (Within []) (writeOutcome affected id) := by
  unfold writeOutcome
  split
  · exact fails_ok _
  · exact fails_error (within_of_kind?_eq_none rfl)

/-- The reading of a result words nothing. -/
theorem fails_readOutcome (product : Product) (kind : Sql.CommandKind) (reply : Reply) :
    Fails (Within []) (readOutcome product kind reply).2 := by
  cases kind with
  | select => exact (fails_readRows reply).map _
  | insert => exact (fails_lastInsertId product reply).bind (fails_writeOutcome _)
  | update => exact fails_ok _
  | delete => exact fails_ok _

theorem within_whileReading {f : Failure} (h : Within [] f) :
    Within [.execution] f.whileReading := by
  cases f with
  | raised e => exact within_ofStoreError _ e
  | _ => exact h.mono (by simp)

/-- Once a statement is run, every error of a kind is one of the run. -/
theorem fails_run (product : Product) (kind : Sql.CommandKind) (statement : Text) (reply : Reply) :
    Fails (Within [.execution]) (run product kind statement reply).2 := by
  unfold run
  split
  · exact fails_error (within_ofStoreError _ _)
  · split
    · exact fails_error (within_ofStoreError _ _)
    · dsimp only
      split
      · exact fails_error (within_of_kind?_eq_none rfl)
      · exact (fails_readOutcome product kind reply).mapError fun _ => within_whileReading

end Execution

/-! Shapes -/

/-- An outcome that has another shape than was asked for, found when it was there. -/
def Failure.Misshapen (f : Failure) : Prop :=
  f = .noRow ∨ ∃ fault, f = .ofFault (.shape fault) ∧ ∀ kind, fault ≠ .notSelect kind

theorem Failure.Misshapen.within {f : Failure} (h : f.Misshapen) : Within [.shape] f := by
  rcases h with rfl | ⟨fault, rfl, -⟩
  · exact within_of_kind?_eq_none rfl
  · exact within_ofFault (.shape fault)

theorem Outcome.fails_single (column : Option Text) (outcome : Outcome) :
    Fails Failure.Misshapen (outcome.single column) := by
  cases outcome with
  | written affected lastId => exact fails_error (.inr ⟨_, rfl, by simp⟩)
  | rowSet rows count =>
    dsimp only [single]
    cases count != 1 with
    | true => exact fails_error (.inr ⟨_, rfl, by simp⟩)
    | false =>
      cases rows with
      | nil => exact fails_error (.inl rfl)
      | cons row rows =>
        cases column with
        | none => exact fails_ok _
        | some name =>
          cases hvalue : row.get? name with
          | some v => simp [hvalue, fails_ok]
          | none =>
            simp only [hvalue]
            exact fails_error (.inr ⟨_, rfl, by simp⟩)

end GuardedSql
