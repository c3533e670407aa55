import GuardedSql.Proofs.Injection
import GuardedSql.Proofs.Outline
import GuardedSql.Session

/-! Two runs of a query whose values differ in the contents of texts only. They have the same
outcome, make the same calls but for the statement that is executed, and leave the same records.
The statements of the two runs have one outline, or both fail alike; what comes after sees the
outline only. -/

namespace GuardedSql

open Sql
open Text (natValue)

namespace Template

open Literal

/-- What is told of a value by the form of its literal. -/
def shapeOf (entry : Entry) : Segment := (Part.inserted entry).masked

/-- Values that differ in the contents of a text at most. -/
inductive Alike (escape : Escaper) : Value → Value → Prop
  | same (v : Value) : Alike escape v v
  | texts {v w : Value} {literal literal' : Text} : v.text?.isSome = true → w.text?.isSome = true →
      encode escape v = .ok literal → encode escape w = .ok literal' → Alike escape v w

/-! Encoding -/

theorem shapeOf_text {v : Value} (hv : v.text?.isSome = true) (literal : Text) :
    shapeOf (v, literal) = .literal hiddenLiteral true := by
  simp [shapeOf, Part.inserted, hv, Segment.masked]

theorem encode_alike {escape : Escaper} {v w : Value} (h : Alike escape v w) :
    (encode escape v).map (fun literal => shapeOf (v, literal))
      = (encode escape w).map fun literal => shapeOf (w, literal) := by
  cases h with
  | same => rfl
  | texts hv hw hev hew =>
    rw [hev, hew, Except.map, Except.map, shapeOf_text hv, shapeOf_text hw]

theorem mapM_encode_alike {escape : Escaper} {values values' : List Value}
    (h : List.Forall₂ (Alike escape) values values') :
    (values.mapM (encode escape)).map (fun literals => (values.zip literals).map shapeOf)
      = (values'.mapM (encode escape)).map fun literals => (values'.zip literals).map shapeOf :=
  Result.mapM_congr (h.imp fun _ _ => encode_alike)

/-! Filling -/

section Entries

variable {d : Dialect} {t : Text} {entries entries' : List Entry}

theorem getElem?_cases_of_shapes (h : entries.map shapeOf = entries'.map shapeOf) (i : Nat) :
    (entries[i]? = none ∧ entries'[i]? = none) ∨
      ∃ entry entry', entries[i]? = some entry ∧ entries'[i]? = some entry' ∧
        shapeOf entry = shapeOf entry' := by
  have hget : entries[i]?.map shapeOf = entries'[i]?.map shapeOf := by
    rw [← List.getElem?_map, ← List.getElem?_map, h]
  cases he : entries[i]? with
  | none =>
    rw [he, Option.map_none, eq_comm, Option.map_eq_none_iff] at hget
    exact .inl ⟨rfl, hget⟩
  | some entry =>
    rw [he, Option.map_some, eq_comm, Option.map_eq_some_iff] at hget
    obtain ⟨entry', he', hshape⟩ := hget
    exact .inr ⟨entry, entry', rfl, he', hshape.symm⟩

theorem length_eq_of_shapes (h : entries.map shapeOf = entries'.map shapeOf) :
    entries.length = entries'.length := by
  simpa using congrArg List.length h

theorem masked_filled (h : entries.map shapeOf = entries'.map shapeOf) (p : Part) :
    (Part.filled entries p).masked = (Part.filled entries' p).masked := by
  cases p with
  | char c => rfl
  | literal u closed => rfl
  | comment u closed => rfl
  | hole token =>
    simp only [Part.filled]
    rcases getElem?_cases_of_shapes h (natValue token) with
      ⟨he, he'⟩ | ⟨entry, entry', he, he', hshape⟩
    · rw [he, he']
    · rw [he, he']
      exact hshape

theorem masked_filledSegments (h : entries.map shapeOf = entries'.map shapeOf) :
    masked (filledSegments d t entries) = masked (filledSegments d t entries') := by
  have hparts : masked ((parts d t).map (Part.filled entries))
      = masked ((parts d t).map (Part.filled entries')) := by
    simp only [masked, List.map_map]
    exact List.map_congr_left fun p _ => masked_filled h p
  rw [filledSegments, filledSegments, masked_assemble, masked_assemble, hparts]

/-- Whether a literal is that of a text is told by its shape. -/
theorem isTextAt_congr (hfits : ∀ entry ∈ entries, Fits d entry)
    (hfits' : ∀ entry ∈ entries', Fits d entry)
    (h : entries.map shapeOf = entries'.map shapeOf) (i : Nat) :
    isTextAt (entries.map (·.2)) i = isTextAt (entries'.map (·.2)) i := by
  have htext : ∀ entry, Fits d entry →
      isText entry.2 = ((shapeOf entry).kind == .literal) := by
    intro entry hentry
    rw [shapeOf, kind_masked, kind_inserted hentry]
    cases isText entry.2 <;> rfl
  simp only [isTextAt, List.getElem?_map]
  rcases getElem?_cases_of_shapes h i with ⟨he, he'⟩ | ⟨entry, entry', he, he', hshape⟩
  · rw [he, he']
  · rw [he, he', Option.map_some, Option.map_some, Option.any_some, Option.any_some,
      htext _ (hfits _ (List.mem_of_getElem? he)), htext _ (hfits' _ (List.mem_of_getElem? he')),
      hshape]

end Entries

/-- Filling a piece fails for want of a value only, whatever the values are. -/
theorem fillPiece_failure_congr {literals literals' : List Text}
    (h : literals.length = literals'.length) (p : Piece) :
    (fillPiece literals p).map (fun _ => ()) = (fillPiece literals' p).map fun _ => () := by
  cases p with
  | char c => rfl
  | hole token =>
    simp only [fillPiece]
    split
    · cases readIndex token with
      | error f => rfl
      | ok i =>
        simp only [bind, Except.bind]
        by_cases hi : i < literals.length
        · rw [List.getElem?_eq_getElem hi, List.getElem?_eq_getElem (h ▸ hi)]
          rfl
        · rw [List.getElem?_eq_none (by omega), List.getElem?_eq_none (by omega), h]
    · rfl

theorem fillSegment_failure_congr {literals literals' : List Text}
    (h : literals.length = literals'.length) (s : Segment) :
    (fillSegment literals s).map (fun _ => ()) = (fillSegment literals' s).map fun _ => () := by
  cases s with
  | literal u closed => rfl
  | comment u closed => rfl
  | code u =>
    have hpieces := Result.mapM_congr
      (List.forall₂_same.mpr fun p (_ : p ∈ pieces u) => fillPiece_failure_congr h p)
    simp only [fillSegment]
    rcases Result.map_eq_map_cases hpieces with ⟨e, hl, hr⟩ | ⟨ts, ts', hl, hr, -⟩
    · rw [hl, hr]
    · rw [hl, hr]
      rfl

/-- The outline of a filled template is that of its layout, so that it takes no more than the
shapes of the literals put in. -/
theorem outline_textOf_filled {d : Dialect} {t : Text} {entries entries' : List Entry}
    (hs : Supplied d entries (parts d t)) (hs' : Supplied d entries' (parts d t))
    (hw : Whole d false [] ((parts d t).map (Part.filled entries)))
    (hw' : Whole d false [] ((parts d t).map (Part.filled entries')))
    (h : entries.map shapeOf = entries'.map shapeOf) :
    outline d (textOf ((parts d t).map (Part.filled entries)))
      = outline d (textOf ((parts d t).map (Part.filled entries'))) := by
  rw [outline, outline, segments_textOf_filled hs hw, segments_textOf_filled hs' hw',
    masked_joinLiterals, masked_filledSegments h, ← masked_joinLiterals]

/-- Literals of the same shapes fill a template to the same outline, or fail to for one reason. -/
theorem fill_congr {d : Dialect} {t : Text} {entries entries' : List Entry}
    (hfits : ∀ entry ∈ entries, Fits d entry) (hfits' : ∀ entry ∈ entries', Fits d entry)
    (hcloses : ∀ entry ∈ entries, Closes d entry) (hcloses' : ∀ entry ∈ entries', Closes d entry)
    (hsafe : d.backslashEscapes = true ∨ ∀ s ∈ sites d t, s.isClear = true)
    (h : entries.map shapeOf = entries'.map shapeOf) :
    (fill d t (entries.map (·.2))).map (outline d)
      = (fill d t (entries'.map (·.2))).map (outline d) := by
  have hlen : (entries.map (·.2)).length = (entries'.map (·.2)).length := by
    rw [List.length_map, List.length_map, length_eq_of_shapes h]
  have htexts : isTextAt (entries.map (·.2)) = isTextAt (entries'.map (·.2)) :=
    funext fun i => isTextAt_congr hfits hfits' h i
  have hsegments := Result.mapM_congr
    (List.forall₂_same.mpr fun s (_ : s ∈ segments d t) => fillSegment_failure_congr hlen s)
  simp only [fill, bind, Except.bind]
  cases (checkHoles (segments d t)).mapError fault with
  | error f => rfl
  | ok u =>
    rcases Result.map_eq_map_cases hsegments with ⟨e, hl, hl'⟩ | ⟨ts, ts', hl, hl', -⟩
    · rw [hl, hl']
    · obtain ⟨htext, hrange⟩ := textOf_filled hl
      obtain ⟨htext', hrange'⟩ := textOf_filled hl'
      have hs := supplied_of_inRange hfits hrange
      have hs' := supplied_of_inRange hfits' hrange'
      have houtline : outline d ts.flatten = outline d ts'.flatten := by
        rw [← htext, ← htext']
        exact outline_textOf_filled hs hs' (whole_filled_parts hs hcloses hsafe)
          (whole_filled_parts hs' hcloses' hsafe) h
      rw [hl, hl']
      simp only [hlen, htexts, structureFault?_congr houtline]
      split
      · rfl
      · split
        · rfl
        · exact congrArg Except.ok houtline

section Queries

variable {conn : Connection} {template replacements replacements' : Value}
  {values values' : List Value}

theorem substitute_congr (hv : replacementValues replacements = .ok values)
    (hv' : replacementValues replacements' = .ok values')
    (hescapes : conn.EscapesAll values) (hescapes' : conn.EscapesAll values')
    (halike : List.Forall₂ (Alike conn.escaper) values values')
    (hsafe : conn.mode.backslashEscapes = true ∨
      ∀ t, template.text? = some t → ∀ s ∈ sites conn.mode.dialect t, s.isClear = true) :
    (substitute conn.mode.dialect conn.escaper template replacements).map
        (outline conn.mode.dialect)
      = (substitute conn.mode.dialect conn.escaper template replacements').map
          (outline conn.mode.dialect) := by
  unfold substitute
  cases ht : template.text? with
  | none => rfl
  | some t =>
    simp only [hv, hv', Except.mapError, bind, Except.bind]
    rcases Result.map_eq_map_cases (mapM_encode_alike halike) with
      ⟨e, hl, hl'⟩ | ⟨ls, ls', hl, hl', h⟩
    · rw [hl, hl']
    · rw [hl, hl']
      simp only
      rw [← map_snd_zip_of_mapM hl, ← map_snd_zip_of_mapM hl']
      exact fill_congr (fits_of_mem_zip hl _) (fits_of_mem_zip hl' _)
        (closes_of_mem_zip hescapes hl) (closes_of_mem_zip hescapes' hl')
        (hsafe.imp_right fun hclear => hclear t ht) h

end Queries

end Template

/-! Running -/

/-- A call without the text it carries. -/
def Call.masked : Call → Call
  | .execute _ => .execute []
  | call => call

/-- A store is asked to execute a statement, and nothing else is done by it. -/
theorem Execution.run_congr (product : Product) (kind : CommandKind) (statement statement' : Text)
    (reply : Reply) :
    (run product kind statement reply).1.map Call.masked
        = (run product kind statement' reply).1.map Call.masked ∧
      (run product kind statement reply).2 = (run product kind statement' reply).2 := by
  unfold run
  split
  · exact ⟨rfl, rfl⟩
  · split
    · exact ⟨rfl, rfl⟩
    · exact ⟨rfl, rfl⟩

namespace Session

open Template

variable {conn : Connection} {template replacements replacements' : Value}
  {values values' : List Value}

theorem prepare_congr (softDelete rowsExpected : Bool)
    (hv : replacementValues replacements = .ok values)
    (hv' : replacementValues replacements' = .ok values')
    (hescapes : conn.EscapesAll values) (hescapes' : conn.EscapesAll values')
    (halike : List.Forall₂ (Alike conn.escaper) values values')
    (hsafe : conn.mode.backslashEscapes = true ∨
      ∀ t, template.text? = some t → ∀ s ∈ sites conn.mode.dialect t, s.isClear = true) :
    (prepare softDelete rowsExpected conn template replacements).map
        (fun p => (outline conn.mode.dialect p.1, p.2))
      = (prepare softDelete rowsExpected conn template replacements').map
          fun p => (outline conn.mode.dialect p.1, p.2) := by
  rcases Result.map_eq_map_cases (substitute_congr hv hv' hescapes hescapes' halike hsafe) with
    ⟨f, hs, hs'⟩ | ⟨statement, statement', hs, hs', houtline⟩
  · simp only [prepare, bind, Except.bind, hs, hs']
  · simp only [prepare, bind, Except.bind, hs, hs']
    rw [Guard.judge_congr houtline]
    cases (Guard.judge ⟨softDelete, conn.mode.dialect⟩ statement').mapError
        fun f => Failure.ofFault (.guard f) with
    | error f => rfl
    | ok kind =>
      simp only
      split
      · rfl
      · exact congrArg (fun o => Except.ok (o, kind)) houtline

theorem run_congr {s : Session} (hopen : s.connection = some conn) (rowsExpected : Bool)
    (hv : replacementValues replacements = .ok values)
    (hv' : replacementValues replacements' = .ok values')
    (hescapes : conn.EscapesAll values) (hescapes' : conn.EscapesAll values')
    (halike : List.Forall₂ (Alike conn.escaper) values values')
    (hsafe : conn.mode.backslashEscapes = true ∨
      ∀ t, template.text? = some t → ∀ s ∈ sites conn.mode.dialect t, s.isClear = true)
    (reply : Reply) :
    (s.run rowsExpected template replacements reply).1.map Call.masked
        = (s.run rowsExpected template replacements' reply).1.map Call.masked ∧
      (s.run rowsExpected template replacements reply).2
        = (s.run rowsExpected template replacements' reply).2 := by
  simp only [run, hopen]
  rcases Result.map_eq_map_cases
    (prepare_congr s.softDelete rowsExpected hv hv' hescapes hescapes' halike hsafe) with
    ⟨f, hp, hp'⟩ | ⟨⟨statement, kind⟩, ⟨statement', kind'⟩, hp, hp', hsame⟩
  · rw [hp, hp']
    exact ⟨rfl, rfl⟩
  · obtain ⟨houtline, rfl⟩ := Prod.mk.inj hsame
    rw [hp, hp']
    obtain ⟨hcalls, hresult⟩ := Execution.run_congr s.product kind statement statement' reply
    simp only [redact_congr houtline]
    revert hcalls hresult
    rcases Execution.run s.product kind statement reply with ⟨calls, result⟩
    rcases Execution.run s.product kind statement' reply with ⟨calls', result'⟩
    rintro hcalls rfl
    cases result with
    | error f => exact ⟨hcalls, rfl⟩
    | ok outcome => exact ⟨hcalls, rfl⟩

/-- The contents of texts have no influence on a query: not on its answer, not on the calls made
but for the statement executed, and not on what is recorded. -/
theorem query_congr_of_alike {s : Session} (hopen : s.connection = some conn)
    (hv : replacementValues replacements = .ok values)
    (hv' : replacementValues replacements' = .ok values')
    (hescapes : conn.EscapesAll values) (hescapes' : conn.EscapesAll values')
    (halike : List.Forall₂ (Alike conn.escaper) values values')
    (hsafe : conn.mode.backslashEscapes = true ∨
      ∀ t, template.text? = some t → ∀ s ∈ sites conn.mode.dialect t, s.isClear = true)
    (reply : Reply) :
    (s.query template replacements reply).answer = (s.query template replacements' reply).answer ∧
      (s.query template replacements reply).records
        = (s.query template replacements' reply).records ∧
      (s.query template replacements reply).session
        = (s.query template replacements' reply).session ∧
      (s.query template replacements reply).calls.map Call.masked
        = (s.query template replacements' reply).calls.map Call.masked := by
  obtain ⟨hcalls, hresult⟩ := run_congr hopen false hv hv' hescapes hescapes' halike hsafe reply
  unfold query
  revert hcalls hresult
  rcases s.run false template replacements reply with ⟨calls, records, result⟩
  rcases s.run false template replacements' reply with ⟨calls', records', result'⟩
  intro hcalls hresult
  obtain ⟨rfl, rfl⟩ := Prod.mk.inj hresult
  simp only [conclude]
  split
  · exact ⟨rfl, rfl, rfl, hcalls⟩
  · split
    · exact ⟨rfl, rfl, rfl, hcalls⟩
    · exact ⟨rfl, rfl, rfl, hcalls⟩

theorem query_congr_of_quoted_text :
    (query ⟨.postgres, true, some ⟨.postgres true, {}, none⟩⟩ (.text "SELECT {0}".toList)
        (.list [.text "a".toList]) {}).answer
        = (query ⟨.postgres, true, some ⟨.postgres true, {}, none⟩⟩ (.text "SELECT {0}".toList)
            (.list [.text "' -- ".toList]) {}).answer ∧
      (query ⟨.postgres, true, some ⟨.postgres true, {}, none⟩⟩ (.text "SELECT {0}".toList)
        (.list [.text "a".toList]) {}).records
        = (query ⟨.postgres, true, some ⟨.postgres true, {}, none⟩⟩ (.text "SELECT {0}".toList)
            (.list [.text "' -- ".toList]) {}).records ∧
      (query ⟨.postgres, true, some ⟨.postgres true, {}, none⟩⟩ (.text "SELECT {0}".toList)
        (.list [.text "a".toList]) {}).session
        = (query ⟨.postgres, true, some ⟨.postgres true, {}, none⟩⟩ (.text "SELECT {0}".toList)
            (.list [.text "' -- ".toList]) {}).session ∧
      (query ⟨.postgres, true, some ⟨.postgres true, {}, none⟩⟩ (.text "SELECT {0}".toList)
        (.list [.text "a".toList]) {}).calls.map Call.masked
        = (query ⟨.postgres, true, some ⟨.postgres true, {}, none⟩⟩ (.text "SELECT {0}".toList)
            (.list [.text "' -- ".toList]) {}).calls.map Call.masked := by
  have hopen : (⟨.postgres, true, some ⟨.postgres true, {}, none⟩⟩ : Session).connection
      = some ⟨.postgres true, {}, none⟩ := rfl
  have hescapes : ∀ values, Connection.EscapesAll ⟨.postgres true, {}, none⟩ values :=
    Connection.escapesAll_documented Codec.spells_utf8 _ none
  have halike : Alike (⟨.postgres true, {}, none⟩ : Connection).escaper (.text "a".toList)
      (.text "' -- ".toList) := .texts rfl rfl (by cbv) (by cbv)
  have hclear : (sites (Mode.postgres true).dialect "SELECT {0}".toList).all Site.isClear
      = true := by
    cbv
  have hsafe : (Mode.postgres true).backslashEscapes = true ∨
      ∀ t, (Value.text "SELECT {0}".toList).text? = some t →
        ∀ s ∈ sites (Mode.postgres true).dialect t, s.isClear = true := by
    refine .inr ?_
    intro t ht
    obtain rfl := Option.some.inj ht
    exact List.all_eq_true.mp hclear
  exact query_congr_of_alike hopen rfl rfl (hescapes _) (hescapes _) (.cons halike .nil) hsafe {}

end Session

end GuardedSql
