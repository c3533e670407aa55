import GuardedSql.Execution
import GuardedSql.Proofs.Number
import GuardedSql.Proofs.Residue

/-! Values inside the errors of drivers. MySQL puts a value between single quotes, PostgreSQL
between brackets, and neither marks what in the value looks like the end of it. What is told of
such an error depends on the value exactly where the value ends its own quotes or brackets. -/

namespace GuardedSql

namespace Sql

/-! Parts of a text that are hidden apart from the rest -/

/-- A text in which every quoted part that opens has ended, whatever follows but a quote. -/
inductive Balanced : Text → Prop
  | nil : Balanced []
  | plain {c : Char} {t : Text} : c ≠ '\'' → c ≠ '"' → Balanced t → Balanced (c :: t)
  | quoted {body t : Text} : QuotesDoubled body → t.head? ≠ some '\'' → Balanced t →
      Balanced ('\'' :: (body ++ '\'' :: t))
  | named {body t : Text} : '"' ∉ body → Balanced t → Balanced ('"' :: (body ++ '"' :: t))

theorem hideQuoted_unquoted_append {u : Text} (hu : Unquoted u) (t : Text) :
    hideQuoted (u ++ t) = u ++ hideQuoted t := by
  induction u with
  | nil => rfl
  | cons c u ih =>
    obtain ⟨⟨hquote, hname⟩, hu⟩ := List.forall_mem_cons.mp hu
    rw [List.cons_append, hideQuoted_plain hquote hname, ih hu, List.cons_append]

theorem Balanced.unquoted_append {u t : Text} (ht : Balanced t) (hu : Unquoted u) :
    Balanced (u ++ t) := by
  induction u with
  | nil => exact ht
  | cons c u ih =>
    obtain ⟨⟨hquote, hname⟩, hu⟩ := List.forall_mem_cons.mp hu
    exact .plain hquote hname (ih hu)

theorem Balanced.append_unquoted {t u : Text} (ht : Balanced t) (hu : Unquoted u) :
    Balanced (t ++ u) := by
  induction ht with
  | nil => simpa using Balanced.nil.unquoted_append hu
  | plain hquote hname _ ih => exact .plain hquote hname ih
  | @quoted body t hbody hhead _ ih =>
    rw [List.cons_append, List.append_assoc]
    refine .quoted hbody ?_ ih
    cases t with
    | nil => exact fun h => (hu _ (List.mem_of_mem_head? h)).1 rfl
    | cons c t => exact hhead
  | named hbody _ ih =>
    rw [List.cons_append, List.append_assoc]
    exact .named hbody ih

theorem Balanced.hideQuoted_append {lead t : Text} (h : Balanced lead)
    (ht : t.head? ≠ some '\'') : hideQuoted (lead ++ t) = hideQuoted lead ++ hideQuoted t := by
  induction h with
  | nil => rw [hideQuoted_nil]; rfl
  | plain hquote hname _ ih =>
    rw [List.cons_append, hideQuoted_plain hquote hname, hideQuoted_plain hquote hname, ih,
      List.cons_append]
  | @quoted body u hbody hu _ ih =>
    have hafter : ∀ v, v.head? ≠ some '\'' →
        afterOpening '\'' (body ++ '\'' :: v) = some v := fun v hv =>
      afterQuoted_doubled hbody (loneInFront_of_head? hv)
    have hjoined : (u ++ t).head? ≠ some '\'' := by
      cases u with
      | nil => exact ht
      | cons c u => exact hu
    rw [List.cons_append, List.append_assoc, List.cons_append,
      hideQuoted_of_some (hafter _ hjoined), hideQuoted_of_some (hafter _ hu), ih]
    rfl
  | @named body u hbody _ ih =>
    have hafter : ∀ v, afterOpening '"' (body ++ '"' :: v) = some v := afterChar_append hbody
    rw [List.cons_append, List.append_assoc, List.cons_append, hideQuoted_of_some (hafter _),
      hideQuoted_of_some (hafter _), ih]
    rfl

theorem afterQuoted_append {s : Text} (hs : '\'' ∉ s) (t : Text) :
    afterQuoted (t ++ s) = (afterQuoted t).map (· ++ s) := by
  fun_induction afterQuoted t with
  | case1 => exact afterQuoted_eq_none_iff.mpr hs
  | case2 rest found hfound ih =>
    rw [List.cons_append, List.cons_append, afterQuoted, ih, hfound]
    rfl
  | case3 rest hnone ih =>
    rw [List.cons_append, List.cons_append, afterQuoted, ih, hnone]
    rfl
  | case4 rest hrest =>
    refine afterQuoted_quote (loneInFront_of_head? ?_)
    cases rest with
    | nil => exact fun h => hs (List.mem_of_mem_head? h)
    | cons c rest => exact fun h => hrest rest (congrArg (· :: rest) (Option.some.inj h))
  | case5 c rest _ hc ih => rw [List.cons_append, afterQuoted_cons fun h => hc h, ih]

theorem afterChar_append_of_notMem {stop : Char} {s : Text} (hs : stop ∉ s) (t : Text) :
    afterChar stop (t ++ s) = (afterChar stop t).map (· ++ s) := by
  induction t with
  | nil => exact afterChar_eq_none_iff.mpr hs
  | cons c t ih =>
    rw [List.cons_append, afterChar, afterChar, ih]
    split <;> rfl

/-- A text without quotes behind the rest of a quoted part does not change where the part ends. -/
theorem afterOpening_append {s : Text} (hs : Unquoted s) (c : Char) (t : Text) :
    afterOpening c (t ++ s) = (afterOpening c t).map (· ++ s) := by
  unfold afterOpening
  split
  · exact afterQuoted_append (fun h => (hs _ h).1 rfl) t
  · split
    · exact afterChar_append_of_notMem (fun h => (hs _ h).2 rfl) t
    · rfl

theorem hideQuoted_append_unquoted {s : Text} (hs : Unquoted s) (t : Text) :
    hideQuoted (t ++ s) = hideQuoted t ++ s := by
  fun_induction hideQuoted t with
  | case1 =>
    have h := hideQuoted_unquoted_append hs []
    rw [List.append_nil, hideQuoted_nil, List.append_nil] at h
    exact h
  | case2 c t tail hsome ih =>
    rw [List.cons_append, hideQuoted_of_some (by rw [afterOpening_append hs, hsome]; rfl), ih]
    rfl
  | case3 c t hnone ih =>
    rw [List.cons_append, hideQuoted_of_none (by rw [afterOpening_append hs, hnone]; rfl), ih]
    rfl

/-- The mark of a bracketed value is found behind a text that has none. -/
theorem hideKeyValues_append_mark {u : Text} (hu : ¬ [')', '=', '('] <:+: u) (t : Text) :
    hideKeyValues (u ++ ')' :: '=' :: '(' :: t) = u ++ hideKeyValues (')' :: '=' :: '(' :: t) := by
  induction u with
  | nil => rfl
  | cons c u ih =>
    rw [List.infix_cons_iff, not_or] at hu
    obtain ⟨hfront, hu⟩ := hu
    rw [List.cons_append, hideKeyValues_of_not_mark, ih hu, List.cons_append]
    intro hmark
    obtain ⟨rest, hrest⟩ := hmark
    apply hfront
    rcases u with _ | ⟨a, _ | ⟨b, u⟩⟩
    · simp at hrest
    · simp at hrest
    · simp at hrest
      obtain ⟨rfl, rfl, rfl, -⟩ := hrest
      exact ⟨u, rfl⟩

/-- The marks of a bracketed value stay in the text. -/
theorem mem_hideKeyValues {x : Char} {t : Text} (hx : x ∈ [')', '=', '(']) (h : x ∈ t) :
    x ∈ hideKeyValues t := by
  fun_induction hideKeyValues t with
  | case1 => exact h
  | case2 t tail hsome ih => exact List.mem_append_left ('?' :: ')' :: hideKeyValues tail) hx
  | case3 t hnone ih =>
    rcases List.mem_cons.mp h with rfl | ht
    · exact List.mem_cons_self
    · exact List.mem_cons_of_mem _ (ih ht)
  | case4 c t hmark ih =>
    rcases List.mem_cons.mp h with rfl | ht
    · exact List.mem_cons_self
    · exact List.mem_cons_of_mem _ (ih ht)

theorem hideKeyValues_of_no_equal {t : Text} (h : '=' ∉ t) : hideKeyValues t = t := by
  induction t with
  | nil => exact hideKeyValues_nil
  | cons c t ih =>
    rw [hideKeyValues_of_not_mark, ih (mt (List.mem_cons_of_mem _) h)]
    intro hmark
    exact h (hmark.subset (by simp))

/-! A value between single quotes -/

/-- A name in single quotes behind some words. -/
def namedText (words name : Text) : Text := words ++ ' ' :: '\'' :: (name ++ ['\''])

/-- A message with a value in single quotes, and a name in such quotes behind it. -/
def valueText (lead words name v : Text) : Text :=
  lead ++ '\'' :: (v ++ '\'' :: namedText words name)

theorem QuotesDoubled.of_notMem {t : Text} (h : '\'' ∉ t) : QuotesDoubled t := by
  induction t with
  | nil => exact .nil
  | cons c t ih =>
    obtain ⟨hc, ht⟩ := not_or.mp (mt List.mem_cons.mpr h)
    exact .plain (Ne.symm hc) (ih ht)

/-- Behind the last quotes of a text there is none, and there are two of them. -/
theorem QuotesDoubled.last {t : Text} (h : QuotesDoubled t) : '\'' ∉ t ∨
    ∃ front back, t = front ++ '\'' :: '\'' :: back ∧ '\'' ∉ back := by
  induction h with
  | nil => exact .inl List.not_mem_nil
  | @plain c t hc _ ih =>
    rcases ih with hnone | ⟨front, back, rfl, hback⟩
    · exact .inl (by simp [hnone, Ne.symm hc])
    · exact .inr ⟨c :: front, back, rfl, hback⟩
  | @pair t _ ih =>
    rcases ih with hnone | ⟨front, back, rfl, hback⟩
    · exact .inr ⟨[], t, rfl, hnone⟩
    · exact .inr ⟨'\'' :: '\'' :: front, back, rfl, hback⟩

/-- A text is cut in one way only before the last of a character. -/
theorem append_cons_inj_of_last {a : Char} {x y u w : Text} (hu : a ∉ u) (hw : a ∉ w)
    (h : x ++ a :: u = y ++ a :: w) : x = y ∧ u = w := by
  rcases List.append_eq_append_iff.mp h with ⟨z, rfl, hz⟩ | ⟨z, rfl, hz⟩
  · cases z with
    | nil => exact ⟨by simp, (List.cons.inj hz).2⟩
    | cons c z => exact absurd (by simp [(List.cons.inj hz).2]) hu
  · cases z with
    | nil => exact ⟨by simp, (List.cons.inj hz).2.symm⟩
    | cons c z => exact absurd (by simp [(List.cons.inj hz).2]) hw

/-- A quoted part that ends with a text, and so at its last quote, begins at the same place as any
other that a space stands before. -/
theorem eq_of_quoted_end {key body x y : Text} (hkey : '\'' ∉ key) (hbody : QuotesDoubled body)
    (h : x ++ [' '] ++ '\'' :: key = y ++ [' '] ++ '\'' :: body) : x = y ∧ key = body := by
  rcases hbody.last with hnone | ⟨front, back, rfl, hback⟩
  · obtain ⟨hfront, heq⟩ := append_cons_inj_of_last hkey hnone h
    exact ⟨List.append_cancel_right hfront, heq⟩
  · have hsplit : x ++ [' '] ++ '\'' :: key
        = (y ++ [' '] ++ '\'' :: front ++ ['\'']) ++ '\'' :: back := by
      simpa using h
    obtain ⟨hlast, -⟩ := append_cons_inj_of_last hkey hback hsplit
    exact absurd (List.append_inj_right' hlast rfl) (by decide)

theorem hideQuoted_single {body t : Text} (hbody : QuotesDoubled body) (ht : t.head? ≠ some '\'') :
    hideQuoted ('\'' :: (body ++ '\'' :: t)) = ['\'', '?', '\''] ++ hideQuoted t := by
  have hafter : afterOpening '\'' (body ++ '\'' :: t) = some t :=
    afterQuoted_doubled hbody (loneInFront_of_head? ht)
  exact hideQuoted_of_some hafter

theorem hideQuoted_namedText {words name : Text} (hwords : Unquoted words) (hname : '\'' ∉ name) :
    hideQuoted (namedText words name) = words ++ [' ', '\'', '?', '\''] := by
  have hspace : Unquoted [' '] := by decide
  have hsplit : namedText words name = words ++ ([' '] ++ '\'' :: (name ++ ['\''])) := rfl
  rw [hsplit, hideQuoted_unquoted_append hwords, hideQuoted_unquoted_append hspace,
    hideQuoted_single (.of_notMem hname) (by simp), hideQuoted_nil]
  rfl

theorem head?_namedText {words : Text} (hwords : Unquoted words) (name : Text) :
    (namedText words name).head? ≠ some '\'' := by
  cases words with
  | nil => simp [namedText]
  | cons c words => simpa [namedText] using (hwords c List.mem_cons_self).1

theorem hideQuoted_valueText {lead words name v : Text} (hlead : Unquoted lead)
    (hwords : Unquoted words) (hv : QuotesDoubled v) : hideQuoted (valueText lead words name v)
      = lead ++ ['\'', '?', '\''] ++ hideQuoted (namedText words name) := by
  rw [valueText, hideQuoted_unquoted_append hlead, hideQuoted_single hv (head?_namedText hwords _),
    List.append_assoc]

/-- A front part without quotes was there before the quotes were hidden. -/
theorem eq_append_of_hideQuoted {u t w : Text} (hu : Unquoted u) (h : hideQuoted t = u ++ w) :
    ∃ rest, t = u ++ rest ∧ hideQuoted rest = w := by
  induction u generalizing t with
  | nil => exact ⟨t, rfl, h⟩
  | cons c u ih =>
    obtain ⟨⟨hquote, hname⟩, hu⟩ := List.forall_mem_cons.mp hu
    have hhead := head?_hideQuoted t
    rw [h] at hhead
    obtain ⟨rest, rfl⟩ := List.head?_eq_some_iff.mp hhead.symm
    rw [hideQuoted_plain hquote hname] at h
    obtain ⟨found, rfl, hfound⟩ := ih hu (List.cons.inj h).2
    exact ⟨found, rfl, hfound⟩

theorem eq_nil_of_hideQuoted {t : Text} (h : hideQuoted t = []) : t = [] := by
  have hhead := head?_hideQuoted t
  rw [h] at hhead
  exact List.head?_eq_none_iff.mp hhead.symm

/-- A single hidden part was one part in single quotes. -/
theorem eq_quoted_of_hideQuoted {t : Text} (h : hideQuoted t = ['\'', '?', '\'']) :
    ∃ body, QuotesDoubled body ∧ t = '\'' :: (body ++ ['\'']) := by
  have hhead := head?_hideQuoted t
  rw [h] at hhead
  obtain ⟨rest, rfl⟩ := List.head?_eq_some_iff.mp hhead.symm
  cases hafter : afterOpening '\'' rest with
  | some tail =>
    rw [hideQuoted_of_some hafter] at h
    obtain rfl : tail = [] := eq_nil_of_hideQuoted (by simpa using h)
    obtain ⟨body, hbody, rfl, -⟩ := afterQuoted_eq_some_iff.mp hafter
    exact ⟨body, hbody, rfl⟩
  | none =>
    rw [hideQuoted_of_none hafter] at h
    have hlone := afterOpening_eq_none_iff.mp hafter (.inl rfl)
    exact absurd (mem_of_mem_hideQuoted (by decide) (by rw [(List.cons.inj h).2]; simp)) hlone

/-- What is left of a message has all of the value hidden only if the value's quotes are
doubled. -/
theorem quotesDoubled_of_hideQuoted {lead words name v : Text} (hlead : Unquoted lead)
    (hwords : Unquoted words) (hname : '\'' ∉ name)
    (h : hideQuoted (valueText lead words name v)
      = lead ++ ['\'', '?', '\''] ++ (words ++ [' ', '\'', '?', '\''])) : QuotesDoubled v := by
  rw [valueText, hideQuoted_unquoted_append hlead, List.append_assoc] at h
  have hvalue := List.append_cancel_left h
  cases hafter : afterOpening '\'' (v ++ '\'' :: namedText words name) with
  | none => exact absurd (by simp) (afterOpening_eq_none_iff.mp hafter (.inl rfl))
  | some tail =>
    have hspace : Unquoted [' '] := by decide
    have hspaced : Unquoted (words ++ [' ']) := List.forall_mem_append.mpr ⟨hwords, hspace⟩
    rw [hideQuoted_of_some hafter] at hvalue
    have htail : hideQuoted tail = (words ++ [' ']) ++ ['\'', '?', '\''] := by
      simpa using hvalue
    obtain ⟨rest, rfl, hrest⟩ := eq_append_of_hideQuoted hspaced htail
    obtain ⟨body, hbody, rfl⟩ := eq_quoted_of_hideQuoted hrest
    obtain ⟨front, hfront, heq, -⟩ := afterQuoted_eq_some_iff.mp hafter
    have hends : (v ++ '\'' :: words) ++ [' '] ++ '\'' :: name
        = (front ++ '\'' :: words) ++ [' '] ++ '\'' :: body := by
      have hclosed : (v ++ '\'' :: words) ++ [' '] ++ '\'' :: name ++ ['\'']
          = (front ++ '\'' :: words) ++ [' '] ++ '\'' :: body ++ ['\''] := by
        simpa [namedText] using heq
      exact List.append_cancel_right hclosed
    obtain ⟨hsame, -⟩ := eq_of_quoted_end hname hbody hends
    rwa [List.append_cancel_right hsame]

/-- A message is told alike for every value whose quotes are doubled, and for no other if the name
behind it has none. -/
theorem redactMessage_valueText {lead words : Text} (hlead : Unquoted lead)
    (hwords : Unquoted words) (name v : Text) :
    (QuotesDoubled v → redactMessage (valueText lead words name v)
        = redactMessage (valueText lead words name [])) ∧
      ('=' ∉ lead → '=' ∉ words → '\'' ∉ name → redactMessage (valueText lead words name v)
        = redactMessage (valueText lead words name []) → QuotesDoubled v) := by
  constructor
  · intro hv
    rw [redactMessage, redactMessage, hideQuoted_valueText hlead hwords hv,
      hideQuoted_valueText hlead hwords .nil]
  · intro hequal hequal' hname h
    have hplain : hideQuoted (valueText lead words name []) = _ :=
      hideQuoted_valueText hlead hwords .nil
    rw [hideQuoted_namedText hwords hname] at hplain
    have hno : '=' ∉ lead ++ ['\'', '?', '\''] ++ (words ++ [' ', '\'', '?', '\'']) := by
      simp [hequal, hequal']
    rw [redactMessage, redactMessage, hplain, hideKeyValues_of_no_equal hno] at h
    -- had a bracketed value been hidden, its equals sign would be left
    have hsame : hideKeyValues (hideQuoted (valueText lead words name v))
        = hideQuoted (valueText lead words name v) :=
      hideKeyValues_of_no_equal (mt (mem_hideKeyValues (by simp)) (by rwa [h]))
    exact quotesDoubled_of_hideQuoted hlead hwords hname (hsame.symm.trans h)

/-! A value between brackets -/

/-- What PostgreSQL tells of a value that a unique key has already. -/
def existingText (lead v : Text) : Text :=
  lead ++ ')' :: '=' :: '(' :: (v ++ ')' :: " already exists.".toList)

/-- What stands before the value of a key: its quoted parts have ended, and no other bracketed value
stands there. -/
structure KeyLead (lead : Text) : Prop where
  balanced : Balanced lead
  unmarked : ¬ [')', '=', '('] <:+: hideQuoted lead

theorem hideQuoted_existingText {lead : Text} (h : Balanced lead) (v : Text) :
    hideQuoted (existingText lead v) = hideQuoted lead
      ++ ')' :: '=' :: '(' :: (hideQuoted v ++ ')' :: " already exists.".toList) := by
  have hmark : Unquoted [')', '=', '('] := by decide
  have hend : Unquoted (')' :: " already exists.".toList) := by decide
  have hvalue := hideQuoted_unquoted_append hmark (v ++ ')' :: " already exists.".toList)
  rw [hideQuoted_append_unquoted hend] at hvalue
  unfold existingText
  rw [h.hideQuoted_append (by simp)]
  exact congrArg _ hvalue

/-- An error of an existing key is told alike for every value that has no closing bracket outside
its quoted parts, and for no other. -/
theorem redactMessage_existingText_iff {lead v : Text} (h : KeyLead lead) :
    redactMessage (existingText lead v) = redactMessage (existingText lead []) ↔
      ')' ∉ hideQuoted v := by
  have hend : ')' ∉ " already exists.".toList := by decide
  rw [redactMessage, redactMessage, hideQuoted_existingText h.balanced,
    hideQuoted_existingText h.balanced, hideKeyValues_append_mark h.unmarked,
    hideKeyValues_append_mark h.unmarked, hideQuoted_nil,
    hideKeyValues_of_some (afterChar_append List.not_mem_nil _), hideKeyValues_of_not_mem hend]
  constructor
  · intro heq hmem
    obtain ⟨value, rest, hsplit, hvalue⟩ := List.eq_append_cons_of_mem hmem
    rw [hsplit, List.append_assoc, List.cons_append,
      hideKeyValues_of_some (afterChar_append hvalue _)] at heq
    have hrest : hideKeyValues (rest ++ ')' :: " already exists.".toList)
        = " already exists.".toList := by
      simpa using heq
    exact hend (hrest ▸ mem_hideKeyValues (by simp) (by simp))
  · intro hnone
    rw [hideKeyValues_of_some (afterChar_append hnone _), hideKeyValues_of_not_mem hend]

end Sql

open Sql (CommandKind QuotesDoubled KeyLead Unquoted valueText existingText redactMessage)

/-! Errors that a run reports -/

namespace Execution

/-- Reading the result of a statement asks the store for its rows. -/
def Fetches (product : Product) (kind : CommandKind) (reply : Reply) : Prop :=
  reply.columns ≠ [] ∧ (kind = .select ∨ kind = .insert ∧ product = .postgres)

/-- How a run comes to report an error of the store: by the call that raised it, and in which
form. -/
inductive Reports (product : Product) (kind : CommandKind) (reply : Reply) (e : StoreError) :
    (StoreError → ExecutionFault) → Prop
  | opening : reply.openError = some e → Reports product kind reply e .refused
  /-- The error of the close takes the place of the one that the statement was refused with. -/
  | executing {first : StoreError} : reply.openError = none → reply.executeError = some first →
      reply.closeError.getD first = e → Reports product kind reply e .refused
  | reading : reply.openError = none → reply.executeError = none → reply.closeError = none →
      Fetches product kind reply → reply.fetchError = some e →
      Reports product kind reply e .unreadable

theorem readOutcome_of_fetches {product : Product} {kind : CommandKind} {reply : Reply}
    {e : StoreError} (h : Fetches product kind reply) (he : reply.fetchError = some e) :
    readOutcome product kind reply = ([.fetch], .error (.raised e)) := by
  obtain ⟨hcolumns, hkind⟩ := h
  have hempty : reply.columns.isEmpty = false := by simpa using hcolumns
  rcases hkind with rfl | ⟨rfl, rfl⟩
  · simp [readOutcome, readRows, hempty, he, Except.map]
  · simp [readOutcome, lastInsertId, hempty, he, Except.bind]

theorem run_of_reports {product : Product} {kind : CommandKind} {reply : Reply} {e : StoreError}
    {form : StoreError → ExecutionFault} (h : Reports product kind reply e form)
    (statement : Text) :
    (run product kind statement reply).2 = .error (.ofStoreError form e) := by
  cases h with
  | opening hopen => simp [run, hopen]
  | executing hopen hexecute hclose => simp [run, hopen, hexecute, hclose]
  | reading hopen hexecute hclose hfetches hfetch =>
    simp [run, hopen, hexecute, hclose, readOutcome_of_fetches hfetches hfetch,
      Except.mapError, Failure.whileReading]

end Execution

namespace StoreError

/-- The error that the MySQL driver raises for a value that a unique key has already. -/
def duplicateEntry (className : String) (code : Int) (key v : Text) : StoreError :=
  ⟨.driver .mysql, className,
    [.int code, .text (valueText "Duplicate entry ".toList " for key".toList key v)]⟩

/-- The words in front of the value of some columns. -/
def keyLead (before columns : Text) : Text := before ++ "DETAIL:  Key (".toList ++ columns

/-- The error that the PostgreSQL driver raises for a value that a unique key has already. -/
def existingKey (className : String) (before columns v : Text) : StoreError :=
  ⟨.driver .postgres, className, [.text (existingText (keyLead before columns) v)]⟩

theorem message_of_two {e : StoreError} {code message : Value}
    (horigin : e.origin = .driver .mysql) (h : e.fromDriver = true)
    (hargs : e.args = [code, message]) :
    e.message = '(' :: code.shown ++ ')' :: ' ' :: message.shown := by
  rw [StoreError.message, horigin, h, hargs]

/-- The message of a duplicate, with the code and the words in front of its value. -/
theorem message_duplicateEntry {className : String} {code : Int} {key v : Text}
    (h : (duplicateEntry className code key v).fromDriver = true) :
    (duplicateEntry className code key v).message
      = valueText ('(' :: Value.intText code ++ ')' :: ' ' :: "Duplicate entry ".toList)
          " for key".toList key v := by
  have hshown : (Value.int code).shown = Value.intText code := rfl
  rw [message_of_two rfl h rfl, hshown, Value.shown]
  simp only [valueText, List.cons_append, List.append_assoc]

theorem message_existingKey (className : String) (before columns v : Text) :
    (existingKey className before columns v).message = existingText (keyLead before columns) v :=
  rfl

theorem unquoted_intText (n : Int) : Unquoted (Value.intText n) ∧ '=' ∉ Value.intText n := by
  have hfigures : ∀ c ∈ Value.intText n, c.isDigit = true ∨ c = '-' := by
    intro c hc
    unfold Value.intText at hc
    split at hc
    · rcases List.mem_cons.mp hc with rfl | hdigit
      · exact .inr rfl
      · exact .inl (Literal.allDigits_natText _ c hdigit)
    · exact .inl (Literal.allDigits_natText _ c hc)
  constructor
  · intro c hc
    rcases hfigures c hc with hdigit | rfl
    · exact ⟨Literal.ne_of_isDigit hdigit (by decide), Literal.ne_of_isDigit hdigit (by decide)⟩
    · decide
  · intro hc
    rcases hfigures _ hc with hdigit | hminus
    · exact Literal.ne_of_isDigit hdigit (by decide) rfl
    · exact absurd hminus (by decide)

end StoreError

/-- A form of an error tells two errors of a class alike exactly if it tells the same of their
messages. -/
theorem Execution.Reports.detail_eq_iff {product : Product} {kind : CommandKind} {reply : Reply}
    {e : StoreError} {form : StoreError → ExecutionFault} (h : Reports product kind reply e form)
    {a b : StoreError} (hclass : a.className = b.className) :
    (form a).detail = (form b).detail ↔ redactMessage a.message = redactMessage b.message := by
  have htext : ∀ lead : String, ∀ t u : Text,
      lead ++ String.ofList t = lead ++ String.ofList u ↔ t = u := by
    intro lead t u
    rw [← String.toList_inj]
    simp
  cases h with
  | opening _ => simp only [ExecutionFault.detail, hclass, htext]
  | executing _ _ _ => simp only [ExecutionFault.detail, hclass, htext]
  | reading _ _ _ _ _ => simp only [ExecutionFault.detail, hclass, htext]

theorem Execution.Reports.error_eq {product : Product} {kind : CommandKind} {reply : Reply}
    {e : StoreError} {form : StoreError → ExecutionFault} (h : Reports product kind reply e form) :
    (form e).error = e := by
  cases h <;> rfl

/-- A driver's error is raised as a fault of its class, whichever call it came from. -/
theorem Execution.Reports.run_eq {product : Product} {kind : CommandKind} {reply : Reply}
    {e : StoreError} {form : StoreError → ExecutionFault} (h : Reports product kind reply e form)
    (hdriver : e.fromDriver = true) (statement : Text) :
    (run product kind statement reply).2
      = .error (.database ⟨.execution, (form e).detail, some e.className⟩) := by
  rw [run_of_reports h, Failure.ofStoreError, if_pos hdriver, Failure.ofFault, Fault.error]
  simp [Fault.kind, Fault.detail, Fault.cause, h.error_eq]

/-- A run that reports a driver's error for a value that exists already tells its class and its
message, with the value hidden or in part. All of a value between single quotes is hidden if its
quotes are doubled, and no other is told like it unless the key has a quote; all of a value between
brackets is hidden exactly if it has no closing bracket outside its quoted parts. -/
theorem detail_of_embedded_value {product : Product} {kind : CommandKind} {reply : Reply}
    {e : StoreError} {form : StoreError → ExecutionFault}
    (h : Execution.Reports product kind reply e form) (hdriver : e.fromDriver = true)
    (statement : Text) :
    (Execution.run product kind statement reply).2
        = .error (.database ⟨.execution, (form e).detail, some e.className⟩) ∧
      (∀ className code key v, e = .duplicateEntry className code key v →
        (QuotesDoubled v →
          (form e).detail = (form (.duplicateEntry className code key [])).detail) ∧
        ('\'' ∉ key → (form e).detail = (form (.duplicateEntry className code key [])).detail →
          QuotesDoubled v)) ∧
      ∀ className before columns v, e = .existingKey className before columns v →
        KeyLead (StoreError.keyLead before columns) →
        ((form e).detail = (form (.existingKey className before columns [])).detail ↔
          ')' ∉ Sql.hideQuoted v) := by
  refine ⟨h.run_eq hdriver statement, ?_, ?_⟩
  · intro className code key v he
    subst he
    have hempty : (StoreError.duplicateEntry className code key []).fromDriver = true := hdriver
    obtain ⟨hunquoted, hequal⟩ := StoreError.unquoted_intText code
    have hduplicate : Unquoted (')' :: ' ' :: "Duplicate entry ".toList) := by decide
    have hlead : Unquoted ('(' :: Value.intText code ++ ')' :: ' ' :: "Duplicate entry ".toList) :=
      List.forall_mem_append.mpr
        ⟨List.forall_mem_cons.mpr ⟨by decide, hunquoted⟩, hduplicate⟩
    have hwords : Unquoted " for key".toList := by decide
    have htold : (form (.duplicateEntry className code key v)).detail
        = (form (.duplicateEntry className code key [])).detail ↔ _ := h.detail_eq_iff rfl
    rw [StoreError.message_duplicateEntry hdriver,
      StoreError.message_duplicateEntry hempty] at htold
    obtain ⟨hsame, hdoubled⟩ := Sql.redactMessage_valueText hlead hwords key v
    refine ⟨fun hquotes => htold.mpr (hsame hquotes), ?_⟩
    intro hkey htext
    exact hdoubled (by simp [hequal]) (by decide) hkey (htold.mp htext)
  · intro className before columns v he hlead
    subst he
    have htold : (form (.existingKey className before columns v)).detail
        = (form (.existingKey className before columns [])).detail ↔ _ := h.detail_eq_iff rfl
    rw [htold]
    exact Sql.redactMessage_existingText_iff hlead

/-- Doubled quotes, and quotes around a closing bracket, leave nothing of a value to be seen. -/
theorem detail_of_doubled_quotes :
    (Execution.run .mysql .insert "INSERT INTO people VALUES (1)".toList
        { executeError := some (.duplicateEntry "IntegrityError" 1062 "name".toList
            ('O' :: '\'' :: '\'' :: "Brien (\"Bob\")".toList)) }).2
      = .error (.database ⟨.execution, "IntegrityError: (1062) Duplicate entry '?' for key '?'",
          some "IntegrityError"⟩) ∧
    (Execution.run .postgres .insert "INSERT INTO people VALUES (1)".toList
        { executeError := some (.existingKey "UniqueViolation"
            ('"' :: ("people_key".toList ++ ['"', '\n'])) "name".toList
            "Ada 'a)' King".toList) }).2
      = .error (.database ⟨.execution,
          "UniqueViolation: \"?\"\nDETAIL:  Key (name)=(?) already exists.",
          some "UniqueViolation"⟩) := by
  constructor
  · have hdoubled : QuotesDoubled ('O' :: '\'' :: '\'' :: "Brien (\"Bob\")".toList) :=
      .plain (by decide) (.pair (.of_notMem (by decide)))
    have hreports : Execution.Reports .mysql .insert
        { executeError := some (.duplicateEntry "IntegrityError" 1062 "name".toList
            ('O' :: '\'' :: '\'' :: "Brien (\"Bob\")".toList)) } _ .refused :=
      .executing rfl rfl rfl
    obtain ⟨hrun, hduplicate, -⟩ := detail_of_embedded_value hreports (by decide)
      "INSERT INTO people VALUES (1)".toList
    rw [hrun, (hduplicate _ _ _ _ rfl).1 hdoubled, ExecutionFault.detail,
      StoreError.message_duplicateEntry (by decide)]
    cbv
  · have hname : Sql.Balanced ('"' :: ("people_key".toList ++ ['"', '\n'])) :=
      .named (by decide) (.plain (by decide) (by decide) .nil)
    have hwords : Unquoted "DETAIL:  Key (".toList := by decide
    have hcolumn : Unquoted "name".toList := by decide
    have hhidden : Sql.hideQuoted (StoreError.keyLead
        ('"' :: ("people_key".toList ++ ['"', '\n'])) "name".toList)
          = "\"?\"\nDETAIL:  Key (name".toList := by
      cbv
    have hlead : KeyLead (StoreError.keyLead
        ('"' :: ("people_key".toList ++ ['"', '\n'])) "name".toList) := by
      refine ⟨(hname.append_unquoted hwords).append_unquoted hcolumn, ?_⟩
      rw [hhidden]
      intro hmark
      exact absurd (hmark.subset List.mem_cons_self) (by decide)
    have hvalue : ')' ∉ Sql.hideQuoted "Ada 'a)' King".toList := by
      have hshown : Sql.hideQuoted "Ada 'a)' King".toList = "Ada '?' King".toList := by
        cbv
      rw [hshown]
      decide
    have hreports : Execution.Reports .postgres .insert
        { executeError := some (.existingKey "UniqueViolation"
            ('"' :: ("people_key".toList ++ ['"', '\n'])) "name".toList
            "Ada 'a)' King".toList) } _ .refused :=
      .executing rfl rfl rfl
    obtain ⟨hrun, -, hexisting⟩ := detail_of_embedded_value hreports (by decide)
      "INSERT INTO people VALUES (1)".toList
    rw [hrun, (hexisting _ _ _ _ rfl hlead).mpr hvalue, ExecutionFault.detail,
      StoreError.message_existingKey]
    cbv

/-- A single quote in a value ends what is hidden of it, and the rest is told. -/
theorem detail_of_apostrophe :
    (Execution.run .mysql .insert "INSERT INTO people VALUES (1)".toList
        { executeError := some (.duplicateEntry "IntegrityError" 1062 "name".toList
            "O'Brien".toList) }).2
      = .error (.database ⟨.execution, "IntegrityError: (1062) Duplicate entry '?'Brien'?'name'",
          some "IntegrityError"⟩) ∧
    (Execution.run .mysql .insert "INSERT INTO people VALUES (1)".toList
        { executeError := some (.duplicateEntry "IntegrityError" 1062 "name".toList
            "Bob".toList) }).2
      = .error (.database ⟨.execution, "IntegrityError: (1062) Duplicate entry '?' for key '?'",
          some "IntegrityError"⟩) := by
  have hreports : ∀ v, Execution.Reports .mysql .insert
      { executeError := some (.duplicateEntry "IntegrityError" 1062 "name".toList v) }
      (.duplicateEntry "IntegrityError" 1062 "name".toList v) .refused :=
    fun v => .executing rfl rfl rfl
  constructor
  · rw [(hreports _).run_eq (by decide), ExecutionFault.detail,
      StoreError.message_duplicateEntry (by decide)]
    cbv
  · rw [(hreports _).run_eq (by decide), ExecutionFault.detail,
      StoreError.message_duplicateEntry (by decide)]
    cbv

end GuardedSql
