import GuardedSql.Sql.Redaction

/-! A message with its quoted parts and bracketed values hidden, and hidden once more. A quote that
is left over has no other of its kind behind it, and each other one stands at a question mark with
its partner on the other side. A bracketed value begins and ends outside such pairs: hiding it takes
whole pairs or none, and no quote finds a new partner. -/

namespace GuardedSql.Sql

/-! What a quoted part and a bracketed value end at -/

/-- A text whose single quotes all stand in twos. -/
inductive QuotesDoubled : Text → Prop
  | nil : QuotesDoubled []
  | plain {c : Char} {t : Text} : c ≠ '\'' → QuotesDoubled t → QuotesDoubled (c :: t)
  | pair {t : Text} : QuotesDoubled t → QuotesDoubled ('\'' :: '\'' :: t)

/-- A text without quotes. -/
def Unquoted (t : Text) : Prop := ∀ c ∈ t, c ≠ '\'' ∧ c ≠ '"'

instance (t : Text) : Decidable (Unquoted t) :=
  List.decidableBAll (fun c => c ≠ '\'' ∧ c ≠ '"') t

/-- A quote at the front of the text is the only one in it. -/
def LoneInFront (t : Text) : Prop := ∀ rest, t = '\'' :: rest → '\'' ∉ rest

theorem loneInFront_of_head? {t : Text} (h : t.head? ≠ some '\'') : LoneInFront t := by
  intro rest heq
  subst heq
  exact absurd rfl h

theorem afterQuoted_eq_none_iff {t : Text} : afterQuoted t = none ↔ '\'' ∉ t := by
  fun_induction afterQuoted t with
  | case5 c rest _ hc ih => simp [ih, Ne.symm (fun heq => hc heq : c ≠ '\'')]
  | _ => simp_all

theorem afterQuoted_quote {tail : Text} (h : LoneInFront tail) :
    afterQuoted ('\'' :: tail) = some tail := by
  cases tail with
  | nil => rfl
  | cons c rest =>
    by_cases hc : c = '\''
    · subst hc
      rw [afterQuoted, afterQuoted_eq_none_iff.mpr (h rest rfl)]
    · rw [afterQuoted]
      intro rest' heq
      exact hc (List.cons.inj heq).1

theorem afterQuoted_cons {c : Char} (hc : c ≠ '\'') (t : Text) :
    afterQuoted (c :: t) = afterQuoted t := by
  rw [afterQuoted] <;> simp_all

theorem afterQuoted_doubled {body tail : Text} (hbody : QuotesDoubled body) (h : LoneInFront tail) :
    afterQuoted (body ++ '\'' :: tail) = some tail := by
  induction hbody with
  | nil => exact afterQuoted_quote h
  | plain hc _ ih => rw [List.cons_append, afterQuoted_cons hc, ih]
  | pair _ ih => rw [List.cons_append, List.cons_append, afterQuoted, ih]

/-- A quoted part ends at a quote with all before it doubled, and none behind but perhaps a last
one. -/
theorem afterQuoted_eq_some_iff {t tail : Text} : afterQuoted t = some tail ↔
    ∃ body, QuotesDoubled body ∧ t = body ++ '\'' :: tail ∧ LoneInFront tail := by
  constructor
  · intro h
    fun_induction afterQuoted t with
    | case1 => cases h
    | case2 rest found hfound ih =>
      obtain rfl := Option.some.inj h
      obtain ⟨body, hbody, rfl, hlone⟩ := ih hfound
      exact ⟨_, .pair hbody, rfl, hlone⟩
    | case3 rest hnone ih =>
      obtain rfl := Option.some.inj h
      refine ⟨[], .nil, rfl, ?_⟩
      intro rest' heq
      obtain rfl := (List.cons.inj heq).2
      exact afterQuoted_eq_none_iff.mp hnone
    | case4 rest hrest =>
      obtain rfl := Option.some.inj h
      exact ⟨[], .nil, rfl, fun rest' heq => absurd heq (hrest rest')⟩
    | case5 c rest _ hc ih =>
      obtain ⟨body, hbody, rfl, hlone⟩ := ih h
      exact ⟨c :: body, .plain (fun heq => hc heq) hbody, rfl, hlone⟩
  · intro h
    obtain ⟨body, hbody, rfl, hlone⟩ := h
    exact afterQuoted_doubled hbody hlone

theorem afterChar_eq_none_iff {stop : Char} {t : Text} : afterChar stop t = none ↔ stop ∉ t := by
  induction t with
  | nil => simp [afterChar]
  | cons c t ih =>
    by_cases hc : c = stop
    · simp [afterChar, hc]
    · simp [afterChar, hc, ih, Ne.symm hc]

theorem afterChar_append {stop : Char} {body : Text} (h : stop ∉ body) (tail : Text) :
    afterChar stop (body ++ stop :: tail) = some tail := by
  induction body with
  | nil => simp [afterChar]
  | cons c body ih =>
    obtain ⟨hc, hbody⟩ := not_or.mp (mt List.mem_cons.mpr h)
    simp [afterChar, Ne.symm hc, ih hbody]

theorem afterChar_eq_some_iff {stop : Char} {t tail : Text} : afterChar stop t = some tail ↔
    ∃ body, t = body ++ stop :: tail ∧ stop ∉ body := by
  constructor
  · intro h
    induction t with
    | nil => cases h
    | cons c t ih =>
      rw [afterChar] at h
      split at h
      · rename_i hc
        obtain rfl := beq_iff_eq.mp hc
        obtain rfl := Option.some.inj h
        exact ⟨[], rfl, List.not_mem_nil⟩
      · rename_i hc
        obtain ⟨body, rfl, hbody⟩ := ih h
        exact ⟨c :: body, rfl, by simpa [hbody] using Ne.symm (fun heq => hc (beq_iff_eq.mpr heq))⟩
  · intro h
    obtain ⟨body, rfl, hbody⟩ := h
    exact afterChar_append hbody tail

/-! One pass over the quoted parts -/

theorem hideQuoted_nil : hideQuoted [] = [] := by
  rw [hideQuoted]

theorem hideQuoted_of_some {c : Char} {t tail : Text} (h : afterOpening c t = some tail) :
    hideQuoted (c :: t) = c :: '?' :: c :: hideQuoted tail := by
  rw [hideQuoted]
  split
  · rename_i found hfound
    rw [h] at hfound
    rw [Option.some.inj hfound]
  · rename_i hnone
    rw [h] at hnone
    cases hnone

theorem hideQuoted_of_none {c : Char} {t : Text} (h : afterOpening c t = none) :
    hideQuoted (c :: t) = c :: hideQuoted t := by
  rw [hideQuoted]
  split
  · rename_i found hfound
    rw [h] at hfound
    cases hfound
  · rfl

theorem afterOpening_eq_none_iff {c : Char} {t : Text} :
    afterOpening c t = none ↔ (c = '\'' ∨ c = '"' → c ∉ t) := by
  unfold afterOpening
  by_cases hquote : c = '\''
  · subst hquote
    simp [afterQuoted_eq_none_iff]
  · by_cases hname : c = '"'
    · subst hname
      simp [afterChar_eq_none_iff]
    · simp [hquote, hname]

theorem hideQuoted_plain {c : Char} (hquote : c ≠ '\'') (hname : c ≠ '"') (t : Text) :
    hideQuoted (c :: t) = c :: hideQuoted t :=
  hideQuoted_of_none (afterOpening_eq_none_iff.mpr fun h => (h.elim hquote hname).elim)

theorem head?_hideQuoted (t : Text) : (hideQuoted t).head? = t.head? := by
  cases t with
  | nil => rw [hideQuoted_nil]
  | cons c t =>
    cases h : afterOpening c t with
    | some tail => rw [hideQuoted_of_some h]; rfl
    | none => rw [hideQuoted_of_none h]; rfl

theorem suffix_of_afterOpening {c : Char} {t tail : Text} (h : afterOpening c t = some tail) :
    tail <:+ t := by
  unfold afterOpening at h
  split at h
  · obtain ⟨body, -, rfl, -⟩ := afterQuoted_eq_some_iff.mp h
    exact (List.suffix_cons _ _).trans (List.suffix_append _ _)
  · split at h
    · obtain ⟨body, rfl, -⟩ := afterChar_eq_some_iff.mp h
      exact (List.suffix_cons _ _).trans (List.suffix_append _ _)
    · cases h

/-- The pass puts nothing into a text but question marks. -/
theorem mem_of_mem_hideQuoted {x : Char} {t : Text} (hx : x ≠ '?') (h : x ∈ hideQuoted t) :
    x ∈ t := by
  fun_induction hideQuoted t with
  | case1 => cases h
  | case2 c t tail hsome ih =>
    have hsuffix := suffix_of_afterOpening hsome
    simp only [List.mem_cons, hx, false_or] at h ⊢
    rcases h with rfl | rfl | htail
    · exact .inl rfl
    · exact .inl rfl
    · exact .inr (hsuffix.subset (ih htail))
  | case3 c t hnone ih =>
    rcases List.mem_cons.mp h with rfl | ht
    · exact List.mem_cons_self
    · exact List.mem_cons_of_mem _ (ih ht)

/-! One pass over the bracketed values -/

theorem hideKeyValues_nil : hideKeyValues [] = [] := by
  rw [hideKeyValues]

theorem hideKeyValues_of_some {t tail : Text} (h : afterChar ')' t = some tail) :
    hideKeyValues (')' :: '=' :: '(' :: t)
      = ')' :: '=' :: '(' :: '?' :: ')' :: hideKeyValues tail := by
  rw [hideKeyValues]
  split
  · rename_i found hfound
    rw [h] at hfound
    rw [Option.some.inj hfound]
  · rename_i hnone
    rw [h] at hnone
    cases hnone

theorem hideKeyValues_of_none {t : Text} (h : ')' ∉ t) :
    hideKeyValues (')' :: '=' :: '(' :: t) = ')' :: hideKeyValues ('=' :: '(' :: t) := by
  rw [hideKeyValues]
  split
  · rename_i found hfound
    rw [afterChar_eq_none_iff.mpr h] at hfound
    cases hfound
  · rfl

theorem hideKeyValues_of_not_mark {c : Char} {t : Text} (h : ¬ [')', '=', '('] <+: c :: t) :
    hideKeyValues (c :: t) = c :: hideKeyValues t := by
  rw [hideKeyValues]
  intro rest hc ht
  subst hc ht
  exact h ⟨rest, rfl⟩

theorem hideKeyValues_cons {c : Char} (hc : c ≠ ')') (t : Text) :
    hideKeyValues (c :: t) = c :: hideKeyValues t :=
  hideKeyValues_of_not_mark (by simp [Ne.symm hc])

/-- What a pass does at the front of a text. -/
theorem hideKeyValues_cases (c : Char) (t : Text) :
    hideKeyValues (c :: t) = c :: hideKeyValues t ∨
      ∃ value tail, ')' ∉ value ∧ c :: t = [')', '=', '('] ++ value ++ ')' :: tail ∧
        hideKeyValues (c :: t) = [')', '=', '(', '?', ')'] ++ hideKeyValues tail := by
  by_cases hmark : [')', '=', '('] <+: c :: t
  · obtain ⟨rest, heq⟩ := hmark
    obtain ⟨rfl, rfl⟩ := List.cons.inj heq
    cases h : afterChar ')' rest with
    | none => exact .inl (hideKeyValues_of_none (afterChar_eq_none_iff.mp h))
    | some tail =>
      obtain ⟨value, rfl, hvalue⟩ := afterChar_eq_some_iff.mp h
      exact .inr ⟨value, tail, hvalue, by simp, hideKeyValues_of_some h⟩
  · exact .inl (hideKeyValues_of_not_mark hmark)

theorem head?_hideKeyValues (t : Text) : (hideKeyValues t).head? = t.head? := by
  cases t with
  | nil => rw [hideKeyValues_nil]
  | cons c t =>
    rcases hideKeyValues_cases c t with h | ⟨value, tail, -, heq, h⟩
    · rw [h]; rfl
    · rw [h]
      obtain ⟨rfl, -⟩ := List.cons.inj heq
      rfl

/-- The pass puts nothing into a text but its own marks. -/
theorem mem_of_mem_hideKeyValues {x : Char} {t : Text} (hx : x ∉ [')', '=', '(', '?'])
    (h : x ∈ hideKeyValues t) : x ∈ t := by
  have hmarks : x ≠ ')' ∧ x ≠ '=' ∧ x ≠ '(' ∧ x ≠ '?' := by simpa using hx
  obtain ⟨hclose, hequal, hopen, hmask⟩ := hmarks
  fun_induction hideKeyValues t with
  | case1 => cases h
  | case2 t tail hsome ih =>
    obtain ⟨value, rfl, -⟩ := afterChar_eq_some_iff.mp hsome
    simp only [List.mem_cons, hclose, hequal, hopen, hmask, false_or] at h
    simp [ih h]
  | case3 t hnone ih =>
    simp only [List.mem_cons, hclose, false_or] at h ⊢ ih
    exact ih h
  | case4 c t hmark ih =>
    rcases List.mem_cons.mp h with rfl | ht
    · exact List.mem_cons_self
    · exact List.mem_cons_of_mem _ (ih ht)

theorem hideKeyValues_of_not_mem {t : Text} (h : ')' ∉ t) : hideKeyValues t = t := by
  induction t with
  | nil => exact hideKeyValues_nil
  | cons c t ih =>
    obtain ⟨hc, ht⟩ := not_or.mp (mt List.mem_cons.mpr h)
    rw [hideKeyValues_cons (Ne.symm hc), ih ht]

/-- A mark that stands in the output began in the text. -/
theorem mark_of_hideKeyValues {c : Char} {t : Text}
    (h : [')', '=', '('] <+: c :: hideKeyValues t) : [')', '=', '('] <+: c :: t := by
  obtain ⟨rest, heq⟩ := h
  obtain ⟨rfl, htail⟩ := List.cons.inj heq
  have hhead := head?_hideKeyValues t
  rw [← htail] at hhead
  obtain ⟨u, rfl⟩ := List.head?_eq_some_iff.mp hhead.symm
  rw [hideKeyValues_cons (by decide)] at htail
  have hnext := head?_hideKeyValues u
  rw [← (List.cons.inj htail).2] at hnext
  obtain ⟨v, rfl⟩ := List.head?_eq_some_iff.mp hnext.symm
  exact ⟨v, rfl⟩

theorem hideKeyValues_hideKeyValues (t : Text) :
    hideKeyValues (hideKeyValues t) = hideKeyValues t := by
  fun_induction hideKeyValues t with
  | case1 => exact hideKeyValues_nil
  | case2 t tail hsome ih => rw [hideKeyValues_of_some rfl, ih]
  | case3 t hnone ih =>
    have ht : ')' ∉ t := afterChar_eq_none_iff.mp hnone
    have hrest : hideKeyValues ('=' :: '(' :: t) = '=' :: '(' :: t :=
      hideKeyValues_of_not_mem (by simpa using ht)
    rw [hrest, hideKeyValues_of_none ht, hrest]
  | case4 c t hmark ih =>
    rw [hideKeyValues_of_not_mark, ih]
    intro hfront
    obtain ⟨rest, heq⟩ := mark_of_hideKeyValues hfront
    obtain ⟨rfl, rfl⟩ := List.cons.inj heq
    exact hmark rest rfl rfl

/-! What is left of quotes -/

/-- A text in which the quotes are settled: two stand around a question mark, or there is no other
of the same kind further on. -/
inductive Settled : Text → Prop
  | nil : Settled []
  | kept {c : Char} {t : Text} : (c = '\'' ∨ c = '"' → c ∉ t) → Settled t → Settled (c :: t)
  | pair {q : Char} {t : Text} : q = '"' ∨ q = '\'' ∧ LoneInFront t → Settled t →
      Settled (q :: '?' :: q :: t)

theorem LoneInFront.hideQuoted {t : Text} (h : LoneInFront t) : LoneInFront (hideQuoted t) := by
  cases t with
  | nil => rwa [hideQuoted_nil]
  | cons c t =>
    intro rest heq hrest
    have hhead := head?_hideQuoted (c :: t)
    rw [heq] at hhead
    obtain rfl : '\'' = c := by simpa using hhead
    have hlone := h t rfl
    rw [hideQuoted_of_none (afterOpening_eq_none_iff.mpr fun _ => hlone)] at heq
    obtain rfl := (List.cons.inj heq).2
    exact hlone (mem_of_mem_hideQuoted (by decide) hrest)

theorem LoneInFront.hideKeyValues {t : Text} (h : LoneInFront t) :
    LoneInFront (hideKeyValues t) := by
  cases t with
  | nil => rwa [hideKeyValues_nil]
  | cons c t =>
    intro rest heq hrest
    have hhead := head?_hideKeyValues (c :: t)
    rw [heq] at hhead
    obtain rfl : '\'' = c := by simpa using hhead
    rw [hideKeyValues_cons (by decide)] at heq
    obtain rfl := (List.cons.inj heq).2
    exact h t rfl (mem_of_mem_hideKeyValues (by decide) hrest)

theorem settled_hideQuoted (t : Text) : Settled (hideQuoted t) := by
  fun_induction hideQuoted t with
  | case1 => exact .nil
  | case2 c t tail hsome ih =>
    unfold afterOpening at hsome
    split at hsome
    · rename_i hc
      obtain rfl := beq_iff_eq.mp hc
      obtain ⟨body, -, -, hlone⟩ := afterQuoted_eq_some_iff.mp hsome
      exact .pair (.inr ⟨rfl, hlone.hideQuoted⟩) ih
    · split at hsome
      · rename_i hc
        obtain rfl := beq_iff_eq.mp hc
        exact .pair (.inl rfl) ih
      · cases hsome
  | case3 c t hnone ih =>
    refine .kept ?_ ih
    intro hc hmem
    refine afterOpening_eq_none_iff.mp hnone hc (mem_of_mem_hideQuoted ?_ hmem)
    rcases hc with rfl | rfl <;> decide

/-- Where the quotes are settled there is none to hide. -/
theorem Settled.hideQuoted_eq {t : Text} (h : Settled t) : hideQuoted t = t := by
  induction h with
  | nil => exact hideQuoted_nil
  | kept hc _ ih => rw [hideQuoted_of_none (afterOpening_eq_none_iff.mpr hc), ih]
  | @pair q t hq _ ih =>
    have hafter : afterOpening q ('?' :: q :: t) = some t := by
      rcases hq with rfl | ⟨rfl, hlone⟩
      · rfl
      · exact afterQuoted_doubled (.plain (by decide) .nil) hlone
    rw [hideQuoted_of_some hafter, ih]

theorem Settled.unquoted_append {u t : Text} (hu : Unquoted u) (ht : Settled t) :
    Settled (u ++ t) := by
  induction u with
  | nil => exact ht
  | cons c u ih =>
    obtain ⟨⟨hquote, hname⟩, hu⟩ := List.forall_mem_cons.mp hu
    exact .kept (fun h => (h.elim hquote hname).elim) (ih hu)

/-- A closing bracket behind a pair of quotes is one of the rest. -/
theorem bracket_behind_pair {q : Char} {t value tail : Text} (hq : q ≠ ')')
    (h : q :: '?' :: q :: t = value ++ ')' :: tail) (hvalue : ')' ∉ value) :
    ∃ rest, t = rest ++ ')' :: tail ∧ ')' ∉ rest := by
  rcases value with _ | ⟨a, _ | ⟨b, _ | ⟨c, rest⟩⟩⟩
  · exact absurd (List.cons.inj h).1 hq
  · exact absurd (List.cons.inj (List.cons.inj h).2).1 (by decide)
  · exact absurd (List.cons.inj (List.cons.inj (List.cons.inj h).2).2).1 hq
  · exact ⟨rest, (List.cons.inj (List.cons.inj (List.cons.inj h).2).2).2, by simp_all⟩

/-- Hiding bracketed values leaves the quotes settled, in a text and behind its first closing
bracket. The induction needs both: a value that is hidden may reach over many steps of it. -/
theorem Settled.hideKeyValues_and_behind {t : Text} (h : Settled t) :
    Settled (hideKeyValues t) ∧
      ∀ value tail, t = value ++ ')' :: tail → ')' ∉ value → Settled (hideKeyValues tail) := by
  induction h with
  | nil => exact ⟨by rw [hideKeyValues_nil]; exact .nil, by simp⟩
  | @kept c t hc ht ih =>
    obtain ⟨ihfront, ihbehind⟩ := ih
    constructor
    · rcases hideKeyValues_cases c t with h | ⟨value, tail, hvalue, heq, h⟩
      · rw [h]
        refine .kept ?_ ihfront
        intro hquote hmem
        refine hc hquote (mem_of_mem_hideKeyValues ?_ hmem)
        rcases hquote with rfl | rfl <;> decide
      · rw [h]
        have htail : t = ('=' :: '(' :: value) ++ ')' :: tail := (List.cons.inj heq).2
        exact .unquoted_append (by decide) (ihbehind _ tail htail (by simpa using hvalue))
    · intro value tail heq hvalue
      cases value with
      | nil =>
        obtain ⟨-, rfl⟩ := List.cons.inj heq
        exact ihfront
      | cons d value =>
        obtain ⟨-, rfl⟩ := List.cons.inj heq
        exact ihbehind value tail rfl (mt (List.mem_cons_of_mem _) hvalue)
  | @pair q t hq ht ih =>
    obtain ⟨ihfront, ihbehind⟩ := ih
    have hbracket : q ≠ ')' := by
      rcases hq with rfl | ⟨rfl, -⟩ <;> decide
    constructor
    · rw [hideKeyValues_cons hbracket, hideKeyValues_cons (by decide),
        hideKeyValues_cons hbracket]
      exact .pair (hq.imp_right fun h => ⟨h.1, h.2.hideKeyValues⟩) ihfront
    · intro value tail heq hvalue
      obtain ⟨rest, heq, hrest⟩ := bracket_behind_pair hbracket heq hvalue
      exact ihbehind rest tail heq hrest

theorem settled_redactMessage (message : Text) : Settled (redactMessage message) :=
  (settled_hideQuoted message).hideKeyValues_and_behind.1

/-- What is left of a message stays as it is: its quotes are settled, so that neither pass finds
anything to hide in it, nor do both together. -/
theorem redactMessage_stable (message : Text) :
    Settled (redactMessage message) ∧
      hideQuoted (redactMessage message) = redactMessage message ∧
      hideKeyValues (redactMessage message) = redactMessage message ∧
      redactMessage (redactMessage message) = redactMessage message := by
  have hsettled := settled_redactMessage message
  have hvalues : hideKeyValues (redactMessage message) = redactMessage message :=
    hideKeyValues_hideKeyValues (hideQuoted message)
  refine ⟨hsettled, hsettled.hideQuoted_eq, hvalues, ?_⟩
  rw [redactMessage, hsettled.hideQuoted_eq, hvalues]

end GuardedSql.Sql
