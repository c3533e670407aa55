import GuardedSql.Proofs.Disclosure
import GuardedSql.Proofs.Scan
import Mathlib

/-! What the log shows of a template whose query failed. The template is cut in the plain dialect
there, whatever the store's is, so its literals are hidden as the store reads them where the two
dialects read the template alike. When they do is said of the plain segments alone. -/

namespace GuardedSql

namespace Sql

open Text (isBlank)

variable {d : Dialect} {t : Text}

/-- The segments of the plain dialect are segments in another dialect as well. -/
structure ReadsAlike (d : Dialect) (t : Text) : Prop where
  /-- No backslash moves the end of a literal. -/
  literal : d.backslashEscapes = true → ∀ front u closed rest,
    segments {} t = front ++ .literal u closed :: rest →
    literalCut true (u.tail ++ textOf rest) = ⟨u.tail, textOf rest, closed⟩
  hash : d.hashComments = true → ∀ u, .code u ∈ segments {} t → '#' ∉ u
  dashes : d.hashComments = true → ∀ u closed, .comment ('-' :: '-' :: u) closed ∈ segments {} t →
    u.head?.all isBlank = true

/-- Segments of the plain dialect that are a scan in another are all that the other finds. -/
theorem segments_eq_plain_iff : segments d t = segments {} t ↔
    ∀ front s rest, segments {} t = front ++ s :: rest →
      IsSegment d (textOf front) (textOf rest) s := by
  have hplain : IsScan {} [] t (segments {} t) := isScan_segmentsAfter {} [] t
  constructor
  · intro h front s rest heq
    have hscan : IsScan d [] t (segments d t) := isScan_segmentsAfter d [] t
    exact hscan.segment front s rest (h.trans heq)
  · intro h
    have hscan : IsScan d [] t (segments {} t) :=
      ⟨hplain.text, hplain.ne_nil, hplain.apart, hplain.closed, h⟩
    exact hscan.eq_segmentsAfter.symm

theorem ReadsAlike.of_forall (h : ∀ front s rest, segments {} t = front ++ s :: rest →
    IsSegment d (textOf front) (textOf rest) s) : ReadsAlike d t where
  literal hd front u closed rest heq := by
    have hsegment := h front _ rest heq
    obtain ⟨body, rfl⟩ := hsegment.literal_head
    have hcut := (isLiteral_iff d _ _ _ _).mpr hsegment
    rwa [hd, Bool.true_or] at hcut
  hash hd u hu hhash := by
    obtain ⟨front, rest, heq⟩ := List.append_of_mem hu
    obtain ⟨v, w, rfl⟩ := List.append_of_mem hhash
    exact h front _ rest heq v ('#' :: w) rfl (by simp) (.inr (.inr (.hash hd)))
  dashes hd u closed hu := by
    obtain ⟨front, rest, heq⟩ := List.append_of_mem hu
    have hcomment := (isComment_iff d _ _ _ _).mpr (h front _ rest heq)
    cases hcomment with
    | dashes hblank hcut =>
      cases u with
      | nil => rfl
      | cons c u => exact hblank hd

theorem ReadsAlike.isSegment (h : ReadsAlike d t) {front rest : List Segment} {s : Segment}
    (heq : segments {} t = front ++ s :: rest) : IsSegment d (textOf front) (textOf rest) s := by
  have hplain : IsSegment {} (textOf front) (textOf rest) s :=
    (isScan_segmentsAfter {} [] t).segment front s rest heq
  have hmem : s ∈ segments {} t := by simp [heq]
  cases s with
  | code u =>
    -- what opens in the other dialect opens in the plain one too, but for a hash
    intro v w hu hne hopens
    refine hplain v w hu hne ?_
    rcases hopens with hquote | hblock | hline
    · exact .inl hquote
    · exact .inr (.inl hblock)
    · obtain ⟨c, w, rfl⟩ := List.exists_cons_of_ne_nil hne
      generalize hafter : c :: w ++ textOf rest = after at hline ⊢
      cases hline with
      | hash hd =>
        obtain ⟨rfl, -⟩ := List.cons.inj hafter
        exact absurd (by simp [hu]) (h.hash hd u hmem)
      | dashes _ => exact .inr (.inr (.dashes (by simp)))
  | literal u closed =>
    obtain ⟨body, rfl⟩ := hplain.literal_head
    refine (isLiteral_iff d _ _ _ _).mp ?_
    cases hd : d.backslashEscapes with
    | true => exact h.literal hd front _ closed rest heq
    | false => exact (isLiteral_iff {} _ _ _ _).mpr hplain
  | comment u closed =>
    refine (isComment_iff d _ _ _ _).mp ?_
    cases (isComment_iff {} _ _ _ _).mpr hplain with
    | hash hd => cases hd
    | @dashes body closed hblank hcut =>
      refine .dashes ?_ hcut
      intro hd
      cases body with
      | cons c body =>
        have hc : (c :: body).head?.all isBlank = true := h.dashes hd _ _ hmem
        exact hc
      | nil =>
        -- a comment of two bare dashes ends the text
        cases hafter : textOf rest with
        | nil => rfl
        | cons c after =>
          rw [hafter] at hcut
          exact absurd (congrArg Cut.taken hcut) (lineCut_taken_ne_nil c after)
    | block hcut => exact .block hcut

theorem segments_eq_plain_iff_readsAlike : segments d t = segments {} t ↔ ReadsAlike d t := by
  rw [segments_eq_plain_iff]
  exact ⟨.of_forall, fun h front s rest heq => h.isSegment heq⟩

end Sql

open Sql (ReadsAlike redact segments)

/-- The message of a failed query, with its template as it is shown. -/
def DatabaseError.messageOver (inner : DatabaseError) (shown : Text) : String :=
  inner.kind.name ++ ": " ++ inner.text ++ " (template: " ++ String.ofList shown ++ ")"

namespace Session

theorem shownTemplate?_of_text {template : Value} {t : Text} (h : template.text? = some t) :
    shownTemplate? template = some (redact (segments {} t)) := by
  cases template with
  | text u => exact congrArg (some <| redact <| segments {} ·) (Option.some.inj h)
  | markup u => exact congrArg (some <| redact <| segments {} ·) (Option.some.inj h)
  | _ => cases h

/-- A failed template is shown with the literals hidden that the plain dialect finds in it. They
are those that the store finds exactly if the two read the template alike. -/
theorem shown_of_failed {s : Session} {step : Step} {r : Request} {t : Text}
    {told : DatabaseError} (hr : step.request? = some r) (ht : r.template.text? = some t)
    (htold : (s.step step).answer = .error (.database told)) :
    ∃ record inner, (s.step step).records.filter (·.level == .error) = [record] ∧
      s.StepFails step inner ∧
      record.message = inner.messageOver (redact (segments {} t)) ∧
      ∀ conn, s.connection = some conn →
        (segments conn.mode.dialect t = segments {} t ↔ ReadsAlike conn.mode.dialect t) ∧
        (ReadsAlike conn.mode.dialect t →
          record.message = inner.messageOver (redact (segments conn.mode.dialect t))) := by
  obtain ⟨inner, hinner, hdisclosed⟩ := (s.tells step).failures.disclosed told htold
  obtain ⟨record, hrecord, -, hmessage⟩ := hdisclosed.recorded
  rw [hr, Option.bind_some, shownTemplate?_of_text ht] at hmessage
  refine ⟨record, inner, hrecord, hinner, hmessage, ?_⟩
  intro conn _
  refine ⟨Sql.segments_eq_plain_iff_readsAlike, ?_⟩
  intro halike
  rw [Sql.segments_eq_plain_iff_readsAlike.mpr halike]
  exact hmessage

/-- A statement that the guard does not let through is refused in its words. -/
theorem step_of_guarded {s : Session} {step : Step} {r : Request} {conn : Connection}
    {statement : Text} {f : GuardFault} (hr : step.request? = some r)
    (hopen : s.connection = some conn)
    (hsubstitute : Template.substitute conn.mode.dialect conn.escaper r.template r.replacements
      = .ok statement)
    (hjudge : Guard.judge ⟨s.softDelete, conn.mode.dialect⟩ statement = .error f) :
    s.step step = s.conclude r.template [] [] (.error (.ofFault (.guard f))) := by
  refine step_of_refused hr hopen ?_
  rw [prepare, hsubstitute]
  simp only [bind, Except.bind, hjudge, Except.mapError]

/-- A backslash before no quote, and dashes with a blank behind them, are read alike. -/
theorem shown_of_failed_drop :
    ∃ record inner,
      ((⟨.mysql, true, some ⟨.mysql true, {}, none⟩⟩ : Session).step
          (.query (.text "DROP TABLE 'a\\b' -- c".toList) (.list []) {})).records.filter
            (·.level == .error) = [record] ∧
        record.message = DatabaseError.messageOver inner "DROP TABLE '?' -- c".toList := by
  have hsubstitute : Template.substitute (Mode.mysql true).dialect
      (⟨.mysql true, {}, none⟩ : Connection).escaper
      (.text "DROP TABLE 'a\\b' -- c".toList) (.list [])
        = .ok "DROP TABLE 'a\\b' -- c".toList := by
    cbv
  have hjudge : Guard.judge ⟨true, (Mode.mysql true).dialect⟩ "DROP TABLE 'a\\b' -- c".toList
      = .error (.disallowed "DROP".toList) := by
    cbv
  have halike : segments (Mode.mysql true).dialect "DROP TABLE 'a\\b' -- c".toList
      = segments {} "DROP TABLE 'a\\b' -- c".toList := by
    cbv
  have hredact : redact (segments (Mode.mysql true).dialect "DROP TABLE 'a\\b' -- c".toList)
      = "DROP TABLE '?' -- c".toList := by
    cbv
  have hstep : (⟨.mysql, true, some ⟨.mysql true, {}, none⟩⟩ : Session).step
      (.query (.text "DROP TABLE 'a\\b' -- c".toList) (.list []) {}) = _ :=
    step_of_guarded rfl rfl hsubstitute hjudge
  obtain ⟨record, inner, hrecord, -, -, hshown⟩ :=
    shown_of_failed (by rfl) (by rfl) (congrArg Effect.answer hstep)
  obtain ⟨hiff, hmessage⟩ := hshown _ rfl
  refine ⟨record, inner, hrecord, ?_⟩
  rw [← hredact]
  exact hmessage (hiff.mp halike)

/-- Where a backslash escapes a quote, the plain dialect ends the literal there, and shows the
rest of it. -/
theorem shown_with_secret :
    ((⟨.mysql, true, some ⟨.mysql true, {}, none⟩⟩ : Session).step
        (.query (.text "DELETE FROM t WHERE a = 'x\\'secret'".toList) (.list []) {})).answer
          = .error (.database { kind := .guard }) ∧
      ((⟨.mysql, true, some ⟨.mysql true, {}, none⟩⟩ : Session).step
        (.query (.text "DELETE FROM t WHERE a = 'x\\'secret'".toList) (.list []) {})).records
          = [.failed (Fault.guard (.disallowed "DELETE".toList)).error
              (some "DELETE FROM t WHERE a = '?'secret'?'".toList)] ∧
      redact (segments (Mode.mysql true).dialect "DELETE FROM t WHERE a = 'x\\'secret'".toList)
        = "DELETE FROM t WHERE a = '?'".toList := by
  have hsubstitute : Template.substitute (Mode.mysql true).dialect
      (⟨.mysql true, {}, none⟩ : Connection).escaper
      (.text "DELETE FROM t WHERE a = 'x\\'secret'".toList) (.list [])
        = .ok "DELETE FROM t WHERE a = 'x\\'secret'".toList := by
    cbv
  have hjudge : Guard.judge ⟨true, (Mode.mysql true).dialect⟩
      "DELETE FROM t WHERE a = 'x\\'secret'".toList = .error (.disallowed "DELETE".toList) := by
    cbv
  have hstep : (⟨.mysql, true, some ⟨.mysql true, {}, none⟩⟩ : Session).step
      (.query (.text "DELETE FROM t WHERE a = 'x\\'secret'".toList) (.list []) {}) = _ :=
    step_of_guarded rfl rfl hsubstitute hjudge
  have hshown : redact (segments {} "DELETE FROM t WHERE a = 'x\\'secret'".toList)
      = "DELETE FROM t WHERE a = '?'secret'?'".toList := by
    cbv
  refine ⟨congrArg Effect.answer hstep, ?_, by cbv⟩
  rw [hstep, ← hshown]
  rfl

end Session

end GuardedSql
