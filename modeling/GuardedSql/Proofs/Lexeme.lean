import GuardedSql.Proofs.Layout

/-! What the segments of a text are, said of the text alone: which marks open a literal or a
comment, what a literal is made of, where a comment ends. A cut is compared with it: what a cut
takes is one of these, and one of these is what a cut takes. -/

namespace GuardedSql.Sql

open Text (isBlank isWordChar atEdge)

/-! Openers -/

/-- A comment to the end of the line opens at the front of a text. Where `#` opens one, two
dashes do so only with a blank or nothing behind them. -/
inductive OpensLine (d : Dialect) : Text → Prop
  | hash {t : Text} : d.hashComments = true → OpensLine d ('#' :: t)
  | dashes {t : Text} : (d.hashComments = true → ∀ c ∈ t.head?, isBlank c = true) →
      OpensLine d ('-' :: '-' :: t)

/-- A literal or a comment opens at the front of a text. -/
def Opens (d : Dialect) (t : Text) : Prop :=
  ['\''] <+: t ∨ ['/', '*'] <+: t ∨ OpensLine d t

/-- Backslashes escape in a literal that stands behind a text: the dialect has it so, or a lone
`e` or `E` stands directly before. -/
def ReadsEscapes (d : Dialect) (before : Text) : Prop :=
  d.backslashEscapes = true ∨
    ∃ front mark, before = front ++ [mark] ∧ (mark = 'e' ∨ mark = 'E') ∧
      ∀ c ∈ front.getLast?, isWordChar c = false

/-! Segments -/

/-- What the body of a literal is made of. -/
inductive Item (escapes : Prop) : Text → Prop
  | plain {c : Char} : c ≠ '\'' → (escapes → c ≠ '\\') → Item escapes [c]
  | doubled : Item escapes ['\'', '\'']
  | escaped {c : Char} : escapes → Item escapes ['\\', c]

/-- A text is a whole literal: an opening quote, items, and a closing quote that no other
quote follows. -/
def IsClosedLiteral (escapes : Prop) (t after : Text) : Prop :=
  (∃ items : List Text, (∀ i ∈ items, Item escapes i) ∧ t = '\'' :: (items.flatten ++ ['\''])) ∧
    after.head? ≠ some '\''

/-- A literal that the input ends in: no front part of it is a whole one. -/
def IsOpenLiteral (escapes : Prop) (t after : Text) : Prop :=
  ['\''] <+: t ∧ after = [] ∧ ∀ u v, t = u ++ v → ¬ IsClosedLiteral escapes u v

/-- A text ends with its first newline, or with the input. -/
def EndsLine (t after : Text) : Prop :=
  (∃ body, t = body ++ ['\n'] ∧ '\n' ∉ body) ∨ ('\n' ∉ t ∧ after = [])

/-- A comment between a slash with a star and the first star with a slash behind them, or the
end of the input. -/
inductive IsBlock (after : Text) : Text → Bool → Prop
  | closed {body : Text} : ¬ ['*', '/'] <:+: body →
      IsBlock after ('/' :: '*' :: (body ++ ['*', '/'])) true
  | unclosed {body : Text} : ¬ ['*', '/'] <:+: body → after = [] →
      IsBlock after ('/' :: '*' :: body) false

/-- What a segment is, between the text before it and the text after it. -/
def IsSegment (d : Dialect) (before after : Text) : Segment → Prop
  | .code t => ∀ u v, t = u ++ v → v ≠ [] → ¬ Opens d (v ++ after)
  | .literal t true => IsClosedLiteral (ReadsEscapes d before) t after
  | .literal t false => IsOpenLiteral (ReadsEscapes d before) t after
  | .comment t closed =>
    (OpensLine d (t ++ after) ∧ EndsLine t after ∧ closed = true) ∨ IsBlock after t closed

/-! Openers of a scan -/

theorem followsEscapeMark_iff (before : Text) : followsEscapeMark before.reverse = true ↔
    ∃ front mark, before = front ++ [mark] ∧ (mark = 'e' ∨ mark = 'E') ∧
      ∀ c ∈ front.getLast?, isWordChar c = false := by
  rcases List.eq_nil_or_concat before with rfl | ⟨front, mark, rfl⟩
  · simp [followsEscapeMark]
  · rw [List.concat_eq_append]
    have hedge : atEdge front.getLast? = true ↔ ∀ c ∈ front.getLast?, isWordChar c = false := by
      cases front.getLast? <;> simp [atEdge]
    rw [List.reverse_append, List.reverse_singleton, List.singleton_append, followsEscapeMark,
      List.head?_reverse, Bool.and_eq_true, hedge]
    constructor
    · rintro ⟨hmark, hfront⟩
      exact ⟨front, mark, rfl, by simpa using hmark, hfront⟩
    · rintro ⟨front', mark', heq, hmark, hfront⟩
      obtain ⟨rfl, hlast⟩ := List.append_inj' heq rfl
      obtain rfl := List.singleton_inj.mp hlast
      exact ⟨by simpa using hmark, hfront⟩

theorem readsEscapes_iff (d : Dialect) (before : Text) :
    (d.backslashEscapes || followsEscapeMark before.reverse) = true ↔ ReadsEscapes d before := by
  rw [Bool.or_eq_true, followsEscapeMark_iff]
  rfl

theorem opensLine_dashes_iff (d : Dialect) (t : Text) : OpensLine d ('-' :: '-' :: t) ↔
    (d.hashComments = true → t.head?.all isBlank = true) := by
  have hall : t.head?.all isBlank = true ↔ ∀ c ∈ t.head?, isBlank c = true := by
    cases t.head? <;> simp
  rw [hall]
  constructor
  · rintro (_ | h)
    exact h
  · exact .dashes

theorem IsComment.opens {d : Dialect} {after t : Text} {closed : Bool}
    (h : IsComment d after t closed) : Opens d (t ++ after) := by
  cases h with
  | hash hd hcut => exact .inr (.inr (.hash hd))
  | dashes hd hcut => exact .inr (.inr ((opensLine_dashes_iff d _).mpr hd))
  | block hcut => exact .inr (.inl ⟨_, rfl⟩)

/-- A scan starts a segment other than code where one opens. -/
theorem opener?_eq_none_iff (d : Dialect) (b : Text) (c : Char) (t : Text) :
    opener? d b (c :: t) = none ↔ ¬ Opens d (c :: t) := by
  constructor
  · rintro h (⟨rest, hquote⟩ | ⟨rest, hblock⟩ | hline)
    · obtain ⟨rfl, -⟩ := List.cons.inj hquote
      simp [opener?] at h
    · rw [← hblock] at h
      simp [opener?] at h
    · cases hline with
      | hash hd => simp [opener?, hd] at h
      | @dashes rest hd =>
        have hblank := (opensLine_dashes_iff d rest).mp (.dashes hd)
        cases hhash : d.hashComments <;> simp_all [opener?]
  · intro h
    cases ho : opener? d b (c :: t) with
    | none => rfl
    | some o =>
      exfalso
      by_cases hc : c = '\''
      · exact h (.inl ⟨t, by simp [hc]⟩)
      · have hopens := (isComment_of_opener? hc ho).2.opens
        rw [List.cons_append, Opener.cut_append] at hopens
        exact h hopens

/-! Code -/

theorem plain_iff (d : Dialect) (before after t : Text) :
    Plain d after t ↔ IsSegment d before after (.code t) := by
  constructor
  · intro h u v ht hv
    subst ht
    obtain ⟨c, v, rfl⟩ := List.exists_cons_of_ne_nil hv
    exact (opener?_eq_none_iff d [] c _).mp (Plain.append.mp h).2.1
  · intro h
    induction t with
    | nil => trivial
    | cons c t ih =>
      refine ⟨(opener?_eq_none_iff d [] c _).mpr (h [] (c :: t) rfl (by simp)), ih ?_⟩
      intro u v ht hv
      exact h (c :: u) v (by simp [ht]) hv

/-! Comments -/

theorem endsLine_nil (after : Text) : EndsLine [] after ↔ after = [] := by
  simp [EndsLine]

theorem endsLine_newline (body after : Text) : EndsLine ('\n' :: body) after ↔ body = [] := by
  constructor
  · rintro (⟨front, heq, hfront⟩ | ⟨hbody, -⟩)
    · cases front with
      | nil => exact (List.cons.inj heq).2
      | cons c front =>
        obtain ⟨rfl, -⟩ := List.cons.inj heq
        simp at hfront
    · simp at hbody
  · rintro rfl
    exact .inl ⟨[], rfl, by simp⟩

theorem endsLine_cons {c : Char} (hc : c ≠ '\n') (body after : Text) :
    EndsLine (c :: body) after ↔ EndsLine body after := by
  constructor
  · rintro (⟨front, heq, hfront⟩ | ⟨hbody, rfl⟩)
    · cases front with
      | nil => exact absurd (List.cons.inj heq).1 hc
      | cons d front => exact .inl ⟨front, (List.cons.inj heq).2, by simp_all⟩
    · exact .inr ⟨by simp_all, rfl⟩
  · rintro (⟨front, rfl, hfront⟩ | ⟨hbody, rfl⟩)
    · exact .inl ⟨c :: front, rfl, by simp [Ne.symm hc, hfront]⟩
    · exact .inr ⟨by simp [Ne.symm hc, hbody], rfl⟩

theorem lineCut_eq_iff (body after : Text) (closed : Bool) :
    lineCut (body ++ after) = ⟨body, after, closed⟩ ↔ EndsLine body after ∧ closed = true := by
  induction body with
  | nil =>
    rw [List.nil_append, endsLine_nil]
    constructor
    · intro h
      cases after with
      | nil => exact ⟨rfl, (congrArg Cut.closed h).symm⟩
      | cons c after => exact absurd (congrArg Cut.taken h) (lineCut_taken_ne_nil c after)
    · rintro ⟨rfl, rfl⟩
      rfl
  | cons c body ih =>
    rw [List.cons_append, lineCut]
    by_cases hc : c = '\n'
    · subst hc
      rw [if_pos (by decide), endsLine_newline, Cut.mk.injEq]
      constructor
      · rintro ⟨hbody, -, hclosed⟩
        exact ⟨(List.cons.inj hbody).2.symm, hclosed.symm⟩
      · rintro ⟨rfl, rfl⟩
        exact ⟨rfl, rfl, rfl⟩
    · rw [if_neg (by simpa using hc), endsLine_cons hc, ← ih]
      constructor
      · exact Cut.after_eq
      · intro h
        rw [h, Cut.after]

/-- What a block cut takes from a text: all before the first closing mark and the mark. -/
theorem blockCut_of_no_mark {body : Text} (h : ¬ ['*', '/'] <:+: body) (after : Text) :
    blockCut (body ++ '*' :: '/' :: after) = ⟨body ++ ['*', '/'], after, true⟩ ∧
      blockCut body = ⟨body, [], false⟩ := by
  induction body with
  | nil => simp [blockCut]
  | cons c body ih =>
    rw [List.infix_cons_iff, not_or] at h
    obtain ⟨hhead, hbody⟩ := h
    obtain ⟨ih₁, ih₂⟩ := ih hbody
    have hfirst : c = '*' → body.head? ≠ some '/' := by
      rintro rfl hslash
      obtain ⟨rest, rfl⟩ := List.head?_eq_some_iff.mp hslash
      exact hhead ⟨rest, rfl⟩
    constructor
    · rw [List.cons_append, blockCut_cons, ih₁, Cut.after]
      · rfl
      · intro hc
        cases body with
        | nil => simp
        | cons e body => exact hfirst hc
    · rw [blockCut_cons hfirst, ih₂, Cut.after]

theorem blockCut_cases (t : Text) :
    (∃ body after, t = body ++ '*' :: '/' :: after ∧ ¬ ['*', '/'] <:+: body) ∨
      ¬ ['*', '/'] <:+: t := by
  by_cases h : ['*', '/'] <:+: t
  · left
    induction t with
    | nil => simp at h
    | cons c t ih =>
      by_cases hhead : ['*', '/'] <+: c :: t
      · obtain ⟨after, hafter⟩ := hhead
        exact ⟨[], after, hafter.symm, by simp⟩
      · obtain ⟨body, after, rfl, hbody⟩ := ih ((List.infix_cons_iff.mp h).resolve_left hhead)
        refine ⟨c :: body, after, rfl, ?_⟩
        rw [List.infix_cons_iff, not_or]
        refine ⟨?_, hbody⟩
        rintro ⟨u, hu⟩
        apply hhead
        cases body with
        | nil => simp at hu
        | cons e body =>
          obtain ⟨rfl, htail⟩ := List.cons.inj hu
          obtain ⟨rfl, -⟩ := List.cons.inj htail
          exact ⟨_, rfl⟩
  · exact .inr h

theorem blockCut_eq_iff (body after : Text) (closed : Bool) :
    blockCut (body ++ after) = ⟨body, after, closed⟩ ↔
      IsBlock after ('/' :: '*' :: body) closed := by
  constructor
  · intro h
    rcases blockCut_cases (body ++ after) with ⟨front, rest, heq, hfront⟩ | hnone
    · rw [heq, (blockCut_of_no_mark hfront rest).1, Cut.mk.injEq] at h
      obtain ⟨rfl, rfl, rfl⟩ := h
      exact .closed hfront
    · rw [(blockCut_of_no_mark hnone []).2, Cut.mk.injEq] at h
      obtain ⟨hbody, rfl, rfl⟩ := h
      rw [List.append_nil] at hnone
      exact .unclosed hnone rfl
  · intro h
    generalize ht : '/' :: '*' :: body = t at h
    cases h with
    | @closed front hfront =>
      obtain rfl : body = front ++ ['*', '/'] := by simpa using ht
      simpa using (blockCut_of_no_mark hfront after).1
    | @unclosed front hfront hafter =>
      obtain rfl : body = front := by simpa using ht
      subst hafter
      simpa using (blockCut_of_no_mark hfront []).2

/-- A comment of a layout is one said of the text. -/
theorem isComment_iff (d : Dialect) (before after t : Text) (closed : Bool) :
    IsComment d after t closed ↔ IsSegment d before after (.comment t closed) := by
  constructor
  · intro h
    cases h with
    | hash hd hcut =>
      obtain ⟨hends, hclosed⟩ := (lineCut_eq_iff _ _ _).mp hcut
      exact .inl ⟨.hash hd, (endsLine_cons (by decide) _ _).mpr hends, hclosed⟩
    | dashes hd hcut =>
      obtain ⟨hends, hclosed⟩ := (lineCut_eq_iff _ _ _).mp hcut
      refine .inl ⟨(opensLine_dashes_iff d _).mpr hd, ?_, hclosed⟩
      rwa [endsLine_cons (by decide), endsLine_cons (by decide)]
    | block hcut => exact .inr ((blockCut_eq_iff _ _ _).mp hcut)
  · rintro (⟨hopens, hends, rfl⟩ | hblock)
    · generalize hwhole : t ++ after = whole at hopens
      cases hopens with
      | @hash u hd =>
        cases t with
        | nil => simp [(endsLine_nil after).mp hends] at hwhole
        | cons c body =>
          obtain ⟨rfl, -⟩ := List.cons.inj hwhole
          rw [endsLine_cons (by decide)] at hends
          exact .hash hd ((lineCut_eq_iff _ _ _).mpr ⟨hends, rfl⟩)
      | @dashes u hd =>
        cases t with
        | nil => simp [(endsLine_nil after).mp hends] at hwhole
        | cons c body =>
          obtain ⟨rfl, htail⟩ := List.cons.inj hwhole
          rw [endsLine_cons (by decide)] at hends
          cases body with
          | nil => simp [(endsLine_nil after).mp hends] at htail
          | cons e body =>
            obtain ⟨rfl, rfl⟩ := List.cons.inj htail
            rw [endsLine_cons (by decide)] at hends
            exact .dashes ((opensLine_dashes_iff d _).mp (.dashes hd))
              ((lineCut_eq_iff _ _ _).mpr ⟨hends, rfl⟩)
    · cases hblock with
      | closed hbody => exact .block ((blockCut_eq_iff _ _ _).mpr (.closed hbody))
      | unclosed hbody hafter => exact .block ((blockCut_eq_iff _ _ _).mpr (.unclosed hbody hafter))

/-! Literals -/

theorem literalCut_item {escapes : Bool} {item : Text} (h : Item (escapes = true) item) (t : Text) :
    literalCut escapes (item ++ t) = ⟨item ++ (literalCut escapes t).taken,
      (literalCut escapes t).rest, (literalCut escapes t).closed⟩ := by
  cases h with
  | plain hq hb =>
    rw [List.singleton_append, literalCut_cons hq]
    · rfl
    · intro hc
      simpa using fun h => hb h hc
  | doubled => rfl
  | escaped he =>
    subst he
    simp [literalCut, Cut.after]

theorem literalCut_items {escapes : Bool} {items : List Text}
    (h : ∀ i ∈ items, Item (escapes = true) i) {after : Text} (hafter : after.head? ≠ some '\'') :
    literalCut escapes (items.flatten ++ '\'' :: after)
      = ⟨items.flatten ++ ['\''], after, true⟩ := by
  induction items with
  | nil => exact literalCut_quote hafter escapes
  | cons item items ih =>
    obtain ⟨hitem, hitems⟩ := List.forall_mem_cons.mp h
    rw [List.flatten_cons, List.append_assoc, literalCut_item hitem, ih hitems, List.append_assoc]

/-- The body that a cut closes is made of items. -/
theorem items_of_literalCut {escapes : Bool} {t : Text}
    (h : (literalCut escapes t).closed = true) : ∃ items : List Text,
      (∀ i ∈ items, Item (escapes = true) i) ∧
        (literalCut escapes t).taken = items.flatten ++ ['\''] := by
  fun_induction literalCut escapes t with
  | case1 => simp at h
  | case2 rest ih =>
    obtain ⟨items, hitems, htaken⟩ := ih h
    exact ⟨['\'', '\''] :: items, List.forall_mem_cons.mpr ⟨.doubled, hitems⟩,
      by simp [Cut.after, htaken]⟩
  | case3 rest hrest => exact ⟨[], by simp, rfl⟩
  | case4 c rest he ih =>
    obtain ⟨items, hitems, htaken⟩ := ih h
    exact ⟨['\\', c] :: items, List.forall_mem_cons.mpr ⟨.escaped he, hitems⟩,
      by simp [Cut.after, htaken]⟩
  | case5 c rest he ih =>
    obtain ⟨items, hitems, htaken⟩ := ih h
    refine ⟨['\\'] :: items, List.forall_mem_cons.mpr ⟨.plain (by decide) ?_, hitems⟩,
      by simp [Cut.after, htaken]⟩
    intro he'
    exact absurd he' he
  | case6 c rest h₁ h₂ h₃ ih =>
    obtain ⟨items, hitems, htaken⟩ := ih h
    refine ⟨[c] :: items, List.forall_mem_cons.mpr ⟨.plain (fun hc => h₂ hc) ?_, hitems⟩,
      by simp [Cut.after, htaken]⟩
    rintro - rfl
    cases rest with
    | nil => simp [literalCut, Cut.after] at h
    | cons e rest => exact h₃ e rest rfl rfl

theorem literalCut_eq_iff_closed (escapes : Bool) (body after : Text) :
    literalCut escapes (body ++ after) = ⟨body, after, true⟩ ↔
      IsClosedLiteral (escapes = true) ('\'' :: body) after := by
  constructor
  · intro h
    obtain ⟨items, hitems, htaken⟩ := items_of_literalCut (congrArg Cut.closed h)
    have hafter := (literalCut_rest escapes (body ++ after)).1 (congrArg Cut.closed h)
    rw [h] at htaken hafter
    exact ⟨⟨items, hitems, congrArg _ htaken⟩, hafter⟩
  · rintro ⟨⟨items, hitems, hbody⟩, hafter⟩
    obtain rfl := (List.cons.inj hbody).2
    rw [List.append_assoc]
    exact literalCut_items hitems hafter

/-- A cut meets the closing quote or takes everything. -/
theorem literalCut_cases (escapes : Bool) (t : Text) :
    (∃ taken rest, t = taken ++ rest ∧ literalCut escapes (taken ++ rest) = ⟨taken, rest, true⟩) ∨
      literalCut escapes t = ⟨t, [], false⟩ := by
  have happend := literalCut_append escapes t
  obtain ⟨-, hrest⟩ := literalCut_rest escapes t
  rcases hcut : literalCut escapes t with ⟨taken, rest, closed⟩
  rw [hcut] at happend hrest
  cases closed with
  | true => exact .inl ⟨taken, rest, happend.symm, by rw [happend, hcut]⟩
  | false =>
    obtain rfl : rest = [] := hrest rfl
    obtain rfl : taken = t := by simpa using happend
    exact .inr rfl

theorem literalCut_eq_iff_open (escapes : Bool) (body after : Text) :
    literalCut escapes (body ++ after) = ⟨body, after, false⟩ ↔
      IsOpenLiteral (escapes = true) ('\'' :: body) after := by
  constructor
  · intro h
    have hafter := (literalCut_rest escapes (body ++ after)).2 (congrArg Cut.closed h)
    rw [h] at hafter
    subst hafter
    refine ⟨⟨body, rfl⟩, rfl, ?_⟩
    rintro u v heq hclosed
    obtain ⟨⟨items, hitems, rfl⟩, hv⟩ := hclosed
    have hcut := (literalCut_eq_iff_closed escapes (items.flatten ++ ['\'']) v).mpr
      ⟨⟨items, hitems, rfl⟩, hv⟩
    obtain rfl : body = items.flatten ++ ['\''] ++ v := (List.cons.inj heq).2
    rw [List.append_nil, hcut] at h
    simp at h
  · rintro ⟨-, rfl, hopen⟩
    rw [List.append_nil]
    rcases literalCut_cases escapes body with ⟨taken, rest, rfl, hcut⟩ | hcut
    · exact absurd ((literalCut_eq_iff_closed escapes taken rest).mp hcut) (hopen _ rest rfl)
    · exact hcut

/-- What a scan cuts behind a quote is a literal, and a literal is what it cuts. -/
theorem isLiteral_iff (d : Dialect) (before after body : Text) (closed : Bool) :
    literalCut (d.backslashEscapes || followsEscapeMark before.reverse) (body ++ after)
        = ⟨body, after, closed⟩ ↔
      IsSegment d before after (.literal ('\'' :: body) closed) := by
  cases closed with
  | true => rw [literalCut_eq_iff_closed, IsSegment, readsEscapes_iff]
  | false => rw [literalCut_eq_iff_open, IsSegment, readsEscapes_iff]

theorem IsSegment.literal_head {d : Dialect} {before after t : Text} {closed : Bool}
    (h : IsSegment d before after (.literal t closed)) : ∃ body, t = '\'' :: body := by
  cases closed with
  | true =>
    obtain ⟨⟨items, -, rfl⟩, -⟩ := h
    exact ⟨_, rfl⟩
  | false =>
    obtain ⟨⟨body, rfl⟩, -⟩ := h
    exact ⟨body, rfl⟩

theorem IsSegment.literal_after {d : Dialect} {before after t : Text} {closed : Bool}
    (h : IsSegment d before after (.literal t closed)) : after.head? ≠ some '\'' := by
  cases closed with
  | true => exact h.2
  | false =>
    obtain ⟨-, rfl, -⟩ := h
    simp

/-- A segment that is left open ends the input, and is a literal or a block. -/
theorem IsSegment.of_not_closed {d : Dialect} {before after : Text} {s : Segment}
    (h : IsSegment d before after s) (hs : s.closed = false) :
    after = [] ∧ (s.kind = .literal ∨ s.kind = .comment ∧ ['/', '*'] <+: s.text) := by
  cases s with
  | code t => simp [Segment.closed] at hs
  | literal t closed =>
    obtain rfl : closed = false := hs
    exact ⟨h.2.1, .inl rfl⟩
  | comment t closed =>
    obtain rfl : closed = false := hs
    rcases h with ⟨-, -, hclosed⟩ | hblock
    · simp at hclosed
    · cases hblock with
      | unclosed hbody hafter => exact ⟨hafter, .inr ⟨rfl, ⟨_, rfl⟩⟩⟩

theorem IsSegment.text_ne_nil {d : Dialect} {before after : Text} {s : Segment}
    (h : IsSegment d before after s) (hs : s.kind ≠ .code) : s.text ≠ [] := by
  cases s with
  | code t => exact absurd rfl hs
  | literal t closed =>
    obtain ⟨body, rfl⟩ := h.literal_head
    simp [Segment.text]
  | comment t closed => exact ((isComment_iff d before after t closed).mpr h).ne_nil

end GuardedSql.Sql
