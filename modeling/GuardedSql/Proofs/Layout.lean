import GuardedSql.Proofs.Cut

/-! Segments laid out by hand, and what a scan of their text makes of them. In a layout code
opens nothing, a comment is one by itself, a literal starts with a quote, and only the last
literal may be left open. Whether the literals end where the layout ends them depends on what
stands before: `Whole` reads each one at its place. The main statement, `resumed_textOf`: the
scan gives the layout back, with code that touches merged and literals that touch joined. -/

namespace GuardedSql.Sql

open Text (isBlank)

/-! Layouts -/

/-- Code that opens nothing when `after` follows it. -/
def Plain (d : Dialect) (after : Text) : Text → Prop
  | [] => True
  | c :: t => opener? d [] (c :: (t ++ after)) = none ∧ Plain d after t

/-- A text that is a comment when `after` follows it: an opening mark, and all that a cut takes. -/
inductive IsComment (d : Dialect) (after : Text) : Text → Bool → Prop
  | hash {body : Text} {closed : Bool} : d.hashComments = true →
      lineCut (body ++ after) = ⟨body, after, closed⟩ → IsComment d after ('#' :: body) closed
  | dashes {body : Text} {closed : Bool} :
      (d.hashComments = true → (body ++ after).head?.all isBlank = true) →
      lineCut (body ++ after) = ⟨body, after, closed⟩ →
      IsComment d after ('-' :: '-' :: body) closed
  | block {body : Text} {closed : Bool} :
      blockCut (body ++ after) = ⟨body, after, closed⟩ →
      IsComment d after ('/' :: '*' :: body) closed

def Laid (d : Dialect) : List Segment → Prop
  | [] => True
  | .code t :: rest => t ≠ [] ∧ Plain d (textOf rest) t ∧ Laid d rest
  | .literal t closed :: rest =>
    t.head? = some '\'' ∧ (closed = false → rest = []) ∧ Laid d rest
  | .comment t closed :: rest => IsComment d (textOf rest) t closed ∧ Laid d rest

/-- Every literal, read at its place, is closed by its own last quote, or left open by its own
end. `marked` tells whether a literal that stood next would be read with backslash escapes for
what stands before it; one right behind a literal goes on with that one's reading. -/
def Whole (d : Dialect) : Bool → Text → List Segment → Prop
  | _, _, [] => True
  | marked, before, .literal t closed :: rest =>
    literalCut (d.backslashEscapes || marked) t.tail = ⟨t.tail, [], closed⟩ ∧
      Whole d marked (t.reverse ++ before) rest
  | _, before, .code t :: rest | _, before, .comment t _ :: rest =>
    Whole d (followsEscapeMark (t.reverse ++ before)) (t.reverse ++ before) rest

/-- The segments with code that touches merged. -/
def assemble : List Segment → List Segment
  | [] => []
  | .code t :: rest => t.foldr consCode (assemble rest)
  | .literal t closed :: rest => .literal t closed :: assemble rest
  | .comment t closed :: rest => .comment t closed :: assemble rest

/-- Puts a literal in front; it runs into a literal that stands there. -/
def joinLiteral (t : Text) (closed : Bool) : List Segment → List Segment
  | .literal u closed' :: rest => .literal (t ++ u) closed' :: rest
  | rest => .literal t closed :: rest

/-- The segments with literals that touch joined. -/
def joinLiterals : List Segment → List Segment
  | [] => []
  | .code t :: rest => .code t :: joinLiterals rest
  | .literal t closed :: rest => joinLiteral t closed (joinLiterals rest)
  | .comment t closed :: rest => .comment t closed :: joinLiterals rest

/-! Openers -/

/-- Only a quote minds what stands before it. -/
theorem opener?_before {d : Dialect} {c : Char} (hc : c ≠ '\'') (b b' t : Text) :
    opener? d b (c :: t) = opener? d b' (c :: t) := by
  rw [opener?.eq_def, opener?.eq_def]
  split <;> simp_all

theorem opener?_quote (d : Dialect) (b t : Text) :
    opener? d b ('\'' :: t) = some (.literal (d.backslashEscapes || followsEscapeMark b)) := rfl

theorem ne_quote_of_opener?_eq_none {d : Dialect} {b t : Text} {c : Char}
    (h : opener? d b (c :: t) = none) : c ≠ '\'' := by
  rintro rfl
  simp [opener?] at h

/-- What a scan cuts at an opener that is no quote is a comment. -/
theorem isComment_of_opener? {d : Dialect} {b t : Text} {c : Char} {o : Opener} (hc : c ≠ '\'')
    (h : opener? d b (c :: t) = some o) :
    o.segment c (o.cut t) = .comment (c :: (o.cut t).taken) (o.cut t).closed ∧
      IsComment d (o.cut t).rest (c :: (o.cut t).taken) (o.cut t).closed := by
  rw [opener?.eq_def] at h
  split at h
  · simp_all
  · rename_i t' heq
    obtain ⟨rfl, rfl⟩ := List.cons.inj heq
    split at h
    · rename_i hd
      obtain rfl := Option.some.inj h
      exact ⟨rfl, .hash hd (by rw [Opener.cut_append]; rfl)⟩
    · simp at h
  · rename_i rest heq
    obtain ⟨rfl, rfl⟩ := List.cons.inj heq
    split at h
    · rename_i hd
      obtain rfl := Option.some.inj h
      have hcut : (Opener.line).cut ('-' :: rest) = (lineCut rest).after '-' := rfl
      rw [hcut]
      refine ⟨rfl, .dashes ?_ ?_⟩
      · intro hash
        simpa [lineCut_append, Cut.after, hash] using hd
      · rw [Cut.after, lineCut_append]
    · simp at h
  · rename_i rest heq
    obtain ⟨rfl, rfl⟩ := List.cons.inj heq
    obtain rfl := Option.some.inj h
    have hcut : (Opener.block).cut ('*' :: rest) = (blockCut rest).after '*' := rfl
    rw [hcut]
    exact ⟨rfl, .block (by rw [Cut.after, blockCut_append])⟩
  · simp at h

/-- A comment is one before any other text, unless it would no longer end the text. -/
theorem IsComment.congr {d : Dialect} {t u text : Text} {closed : Bool}
    (h : IsComment d t text closed) (htu : t = [] → u = []) : IsComment d u text closed := by
  cases h with
  | hash hd hcut => exact .hash hd (lineCut_append_congr hcut htu)
  | @dashes body _ hd hcut =>
    refine .dashes ?_ (lineCut_append_congr hcut htu)
    intro hash
    cases body with
    | cons c body => simpa using hd hash
    | nil =>
      cases t with
      | nil => simp [htu rfl]
      | cons c t => exact absurd (congrArg Cut.taken hcut) (lineCut_taken_ne_nil c t)
  | block hcut => exact .block (blockCut_append_congr hcut htu)

theorem IsComment.head?_ne_quote {d : Dialect} {after t : Text} {closed : Bool}
    (h : IsComment d after t closed) : t.head? ≠ some '\'' := by
  cases h <;> simp

theorem IsComment.ne_nil {d : Dialect} {after t : Text} {closed : Bool}
    (h : IsComment d after t closed) : t ≠ [] := by
  cases h <;> simp

/-! Scans -/

theorem segmentsAfter_of_none {d : Dialect} {b t : Text} {c : Char}
    (h : opener? d b (c :: t) = none) :
    segmentsAfter d b (c :: t) = consCode c (segmentsAfter d (c :: b) t) := by
  rw [segmentsAfter]
  split <;> simp_all

theorem segmentsAfter_of_some {d : Dialect} {b t : Text} {c : Char} {o : Opener}
    (h : opener? d b (c :: t) = some o) :
    segmentsAfter d b (c :: t) = o.segment c (o.cut t) ::
      segmentsAfter d ((o.cut t).taken.reverse ++ c :: b) (o.cut t).rest := by
  rw [segmentsAfter]
  split <;> simp_all

theorem segmentsAfter_comment {d : Dialect} {b t text : Text} {closed : Bool}
    (h : IsComment d t text closed) :
    segmentsAfter d b (text ++ t)
      = .comment text closed :: segmentsAfter d (text.reverse ++ b) t := by
  cases h with
  | @hash body _ hd hcut =>
    rw [List.cons_append, segmentsAfter_of_some (by simp [opener?, hd]; rfl)]
    simp [Opener.cut, hcut, Opener.segment]
  | @dashes body _ hd hcut =>
    have hopen : opener? d b ('-' :: '-' :: (body ++ t)) = some .line := by
      rw [opener?, if_pos]
      cases hash : d.hashComments with
      | false => rfl
      | true => simpa using hd hash
    rw [List.cons_append, List.cons_append, segmentsAfter_of_some hopen]
    simp [Opener.cut, lineCut, hcut, Opener.segment, Cut.after]
  | @block body _ hcut =>
    rw [List.cons_append, List.cons_append, segmentsAfter_of_some rfl]
    simp [Opener.cut, hcut, Opener.segment, Cut.after]

theorem Plain.append {d : Dialect} {after t u : Text} :
    Plain d after (t ++ u) ↔ Plain d (u ++ after) t ∧ Plain d after u := by
  induction t with
  | nil => simp [Plain]
  | cons c t ih => simp [Plain, ih, and_assoc]

theorem segmentsAfter_plain {d : Dialect} {b t u : Text} (h : Plain d u t) :
    segmentsAfter d b (t ++ u) = t.foldr consCode (segmentsAfter d (t.reverse ++ b) u) := by
  induction t generalizing b with
  | nil => rfl
  | cons c t ih =>
    have hc := h.1
    rw [opener?_before (ne_quote_of_opener?_eq_none hc) [] b] at hc
    rw [List.cons_append, segmentsAfter_of_none hc, ih h.2]
    simp

/-- A scan that stands behind a literal: a quote that comes next is half of a doubled one. -/
def resumed (d : Dialect) (marked : Bool) (before : Text) : Text → List Segment
  | '\'' :: t =>
    let cut := literalCut (d.backslashEscapes || marked) t
    .literal ('\'' :: cut.taken) cut.closed ::
      segmentsAfter d (cut.taken.reverse ++ '\'' :: before) cut.rest
  | t => segmentsAfter d before t

theorem resumed_of_head?_ne {d : Dialect} {marked : Bool} {b t : Text}
    (h : t.head? ≠ some '\'') : resumed d marked b t = segmentsAfter d b t := by
  rw [resumed]
  rintro u rfl
  simp at h

/-- Where no literal stands before, a scan starts afresh. -/
theorem resumed_followsEscapeMark (d : Dialect) (b t : Text) :
    resumed d (followsEscapeMark b) b t = segmentsAfter d b t := by
  by_cases h : t.head? = some '\''
  · obtain ⟨u, rfl⟩ := List.head?_eq_some_iff.mp h
    rw [resumed, segmentsAfter_of_some (opener?_quote d b u)]
    rfl
  · exact resumed_of_head?_ne h

theorem head?_of_segmentsAfter_literal {d : Dialect} {b t u : Text} {closed : Bool}
    {rest : List Segment} (h : segmentsAfter d b t = .literal u closed :: rest) :
    t.head? = some '\'' := by
  cases t with
  | nil => simp [segmentsAfter] at h
  | cons c t =>
    by_cases hc : c = '\''
    · simp [hc]
    · cases hopen : opener? d b (c :: t) with
      | none =>
        rw [segmentsAfter_of_none hopen] at h
        unfold consCode at h
        split at h <;> simp at h
      | some o =>
        rw [segmentsAfter_of_some hopen, (isComment_of_opener? hc hopen).1] at h
        simp at h

/-! Joining -/

theorem joinLiterals_consCode (c : Char) (segs : List Segment) :
    joinLiterals (consCode c segs) = consCode c (joinLiterals segs) := by
  cases segs with
  | nil => rfl
  | cons s rest =>
    cases s with
    | code t => rfl
    | comment t closed => rfl
    | literal t closed =>
      simp only [consCode, joinLiterals]
      unfold joinLiteral
      split <;> rfl

theorem joinLiterals_foldr_consCode (t : Text) (segs : List Segment) :
    joinLiterals (t.foldr consCode segs) = t.foldr consCode (joinLiterals segs) := by
  induction t with
  | nil => rfl
  | cons c t ih => rw [List.foldr_cons, joinLiterals_consCode, ih, List.foldr_cons]

theorem joinLiteral_of_head {t : Text} {closed : Bool} {segs : List Segment}
    (h : ∀ u closed' rest, segs ≠ .literal u closed' :: rest) :
    joinLiteral t closed segs = .literal t closed :: segs := by
  unfold joinLiteral
  split
  · exact absurd rfl (h _ _ _)
  · rfl

theorem Plain.head?_ne_quote {d : Dialect} {t u : Text} (h : Plain d u t) (hne : t ≠ [])
    : (t ++ u).head? ≠ some '\'' := by
  cases t with
  | nil => exact absurd rfl hne
  | cons c t => simpa using ne_quote_of_opener?_eq_none h.1

/-- The scan of a layout's text gives the layout back, merged and joined. -/
theorem resumed_textOf {d : Dialect} {marked : Bool} {before : Text} {segs : List Segment}
    (hl : Laid d segs) (hw : Whole d marked before segs) :
    resumed d marked before (textOf segs) = joinLiterals (assemble segs) := by
  induction segs generalizing marked before with
  | nil => simp [textOf, resumed, segmentsAfter, assemble, joinLiterals]
  | cons s rest ih =>
    cases s with
    | code t =>
      obtain ⟨hne, hplain, hrest⟩ := hl
      rw [textOf_cons, Segment.text,
        resumed_of_head?_ne (hplain.head?_ne_quote hne),
        segmentsAfter_plain hplain, assemble, joinLiterals_foldr_consCode, ← ih hrest hw,
        resumed_followsEscapeMark]
    | comment t closed =>
      obtain ⟨hc, hrest⟩ := hl
      have hhead : (t ++ textOf rest).head? ≠ some '\'' := by
        cases t with
        | nil => exact absurd rfl hc.ne_nil
        | cons c t => simpa using hc.head?_ne_quote
      rw [textOf_cons, Segment.text, resumed_of_head?_ne hhead, segmentsAfter_comment hc, assemble,
        joinLiterals, ← ih hrest hw, resumed_followsEscapeMark]
    | literal t closed =>
      obtain ⟨hquote, hopen, hrest⟩ := hl
      obtain ⟨body, rfl⟩ := List.head?_eq_some_iff.mp hquote
      obtain ⟨hcut, hwrest⟩ := hw
      rw [List.tail_cons] at hcut
      have hback := ih hrest hwrest
      rw [textOf_cons, Segment.text, List.cons_append, assemble, joinLiterals]
      cases closed with
      | false =>
        obtain rfl := hopen rfl
        simp [textOf, resumed, hcut, segmentsAfter, assemble, joinLiterals, joinLiteral]
      | true =>
        obtain ⟨hends, hgoes⟩ := literalCut_append_of_closed hcut
        by_cases hq : (textOf rest).head? = some '\''
        · -- the next literal belongs to this one, and its reading is this one's
          obtain ⟨u, hu⟩ := List.head?_eq_some_iff.mp hq
          rw [hu] at hback ⊢
          rw [← hback]
          simp [resumed, hgoes, joinLiteral]
        · rw [resumed_of_head?_ne hq] at hback
          have hfirst : ∀ u closed' segs,
              joinLiterals (assemble rest) ≠ .literal u closed' :: segs := by
            intro u closed' segs hsegs
            exact hq (head?_of_segmentsAfter_literal (hback.trans hsegs))
          rw [joinLiteral_of_head hfirst, ← hback]
          simp [resumed, hends _ hq]

/-! A scan lays its segments out -/

theorem Laid.eq_nil {d : Dialect} {segs : List Segment} (hl : Laid d segs)
    (h : textOf segs = []) : segs = [] := by
  cases segs with
  | nil => rfl
  | cons s rest =>
    rw [textOf_cons, List.append_eq_nil_iff] at h
    cases s with
    | code t => exact absurd h.1 hl.1
    | literal t closed => simp_all [Laid, Segment.text]
    | comment t closed => exact absurd h.1 hl.1.ne_nil

theorem Laid.consCode {d : Dialect} {b : Text} {c : Char} {segs : List Segment}
    (h : opener? d b (c :: textOf segs) = none) (hl : Laid d segs) :
    Laid d (consCode c segs) := by
  rw [opener?_before (ne_quote_of_opener?_eq_none h) b []] at h
  cases segs with
  | nil => exact ⟨by simp, ⟨h, trivial⟩, trivial⟩
  | cons s rest =>
    cases s with
    | code t => exact ⟨by simp, ⟨by simpa [textOf_cons, Segment.text] using h, hl.2.1⟩, hl.2.2⟩
    | literal t closed => exact ⟨by simp, ⟨h, trivial⟩, hl⟩
    | comment t closed => exact ⟨by simp, ⟨h, trivial⟩, hl⟩

theorem whole_consCode {d : Dialect} {marked : Bool} {b : Text} {c : Char}
    {segs : List Segment} :
    Whole d marked b (consCode c segs) ↔ Whole d (followsEscapeMark (c :: b)) (c :: b) segs := by
  cases segs with
  | nil => simp [Sql.consCode, Whole]
  | cons s rest => cases s <;> simp [Sql.consCode, Whole]

/-- What stands before matters only to a literal that comes first. -/
theorem whole_of_head {d : Dialect} {m m' : Bool} {b : Text} {segs : List Segment}
    (h : ∀ u closed rest, segs ≠ .literal u closed :: rest) (hw : Whole d m b segs) :
    Whole d m' b segs := by
  cases segs with
  | nil => trivial
  | cons s rest =>
    cases s with
    | code t => exact hw
    | literal t closed => exact absurd rfl (h _ _ _)
    | comment t closed => exact hw

theorem laid_segmentsAfter (d : Dialect) (before t : Text) : Laid d (segmentsAfter d before t) := by
  fun_induction segmentsAfter d before t with
  | case1 => trivial
  | case2 before c t h ih => exact Laid.consCode (by rwa [textOf_segmentsAfter]) ih
  | case3 before c t o h cut ih =>
    by_cases hc : c = '\''
    · subst hc
      obtain rfl := Option.some.inj ((opener?_quote d before t).symm.trans h)
      refine ⟨by simp, ?_, ih⟩
      intro hclosed
      have hrest : cut.rest = [] := (literalCut_rest _ t).2 hclosed
      rw [hrest, segmentsAfter]
    · obtain ⟨hseg, hcomment⟩ := isComment_of_opener? hc h
      rw [hseg]
      exact ⟨by rwa [textOf_segmentsAfter], ih⟩

theorem whole_segmentsAfter (d : Dialect) (before t : Text) :
    Whole d (followsEscapeMark before) before (segmentsAfter d before t) := by
  fun_induction segmentsAfter d before t with
  | case1 => trivial
  | case2 before c t h ih => exact whole_consCode.mpr ih
  | case3 before c t o h cut ih =>
    by_cases hc : c = '\''
    · subst hc
      obtain rfl := Option.some.inj ((opener?_quote d before t).symm.trans h)
      have hcut : cut = literalCut (d.backslashEscapes || followsEscapeMark before) t := rfl
      refine ⟨by rw [List.tail_cons, hcut, literalCut_taken], ?_⟩
      have hafter : cut.taken.reverse ++ '\'' :: before
          = ('\'' :: cut.taken).reverse ++ before := by
        simp
      rw [hafter] at ih ⊢
      cases hclosed : cut.closed with
      | false =>
        have hrest : cut.rest = [] := (literalCut_rest _ t).2 hclosed
        rw [hrest, segmentsAfter]
        trivial
      | true =>
        refine whole_of_head ?_ ih
        intro u closed' segs hsegs
        exact (literalCut_rest _ t).1 hclosed (head?_of_segmentsAfter_literal hsegs)
    · obtain ⟨hseg, hcomment⟩ := isComment_of_opener? hc h
      rw [hseg]
      simpa [Whole] using ih

/-! Merging changes nothing that counts -/

theorem whole_foldr_consCode {d : Dialect} {m : Bool} {b t : Text} {segs : List Segment}
    (hne : t ≠ []) : Whole d m b (t.foldr consCode segs) ↔
      Whole d (followsEscapeMark (t.reverse ++ b)) (t.reverse ++ b) segs := by
  induction t generalizing m b with
  | nil => exact absurd rfl hne
  | cons c t ih =>
    rw [List.foldr_cons, whole_consCode]
    cases t with
    | nil => rfl
    | cons e t => rw [ih (by simp)]; simp

theorem whole_assemble {d : Dialect} {m : Bool} {b : Text} {segs : List Segment}
    (hl : Laid d segs) : Whole d m b (assemble segs) ↔ Whole d m b segs := by
  induction segs generalizing m b with
  | nil => rfl
  | cons s rest ih =>
    cases s with
    | code t =>
      obtain ⟨hne, -, hrest⟩ := hl
      rw [assemble, whole_foldr_consCode hne, ih hrest, Whole]
    | literal t closed =>
      obtain ⟨-, -, hrest⟩ := hl
      rw [assemble, Whole, Whole, ih hrest]
    | comment t closed =>
      obtain ⟨-, hrest⟩ := hl
      rw [assemble, Whole, Whole, ih hrest]

theorem countKind_foldr_consCode {kind : SegmentKind} (hk : kind ≠ .code) (t : Text)
    (segs : List Segment) : countKind kind (t.foldr consCode segs) = countKind kind segs := by
  induction t with
  | nil => rfl
  | cons c t ih =>
    rw [List.foldr_cons, ← ih]
    generalize t.foldr consCode segs = tail
    cases tail with
    | nil => simp [consCode, countKind, Segment.kind, Ne.symm hk]
    | cons s rest => cases s <;> simp [consCode, countKind, Segment.kind, Ne.symm hk]

theorem countKind_assemble {kind : SegmentKind} (hk : kind ≠ .code) (segs : List Segment) :
    countKind kind (assemble segs) = countKind kind segs := by
  fun_induction assemble segs with
  | case1 => rfl
  | case2 t rest ih =>
    rw [countKind_foldr_consCode hk, ih]
    simp [countKind, Segment.kind, Ne.symm hk]
  | case3 t closed rest ih => simp_all [countKind, List.countP_cons]
  | case4 t closed rest ih => simp_all [countKind, List.countP_cons]

/-- The literals and comments among segments. -/
def outsideCode (segs : List Segment) : List Segment := segs.filter (·.kind != .code)

@[simp]
theorem outsideCode_code (t : Text) (rest : List Segment) :
    outsideCode (.code t :: rest) = outsideCode rest := rfl

@[simp]
theorem outsideCode_literal (t : Text) (closed : Bool) (rest : List Segment) :
    outsideCode (.literal t closed :: rest) = .literal t closed :: outsideCode rest := rfl

@[simp]
theorem outsideCode_comment (t : Text) (closed : Bool) (rest : List Segment) :
    outsideCode (.comment t closed :: rest) = .comment t closed :: outsideCode rest := rfl

theorem outsideCode_foldr_consCode (t : Text) (segs : List Segment) :
    outsideCode (t.foldr consCode segs) = outsideCode segs := by
  induction t with
  | nil => rfl
  | cons c t ih =>
    rw [List.foldr_cons, ← ih]
    generalize t.foldr consCode segs = tail
    cases tail with
    | nil => rfl
    | cons s rest => cases s <;> rfl

theorem outsideCode_assemble (segs : List Segment) :
    outsideCode (assemble segs) = outsideCode segs := by
  fun_induction assemble segs with
  | case1 => rfl
  | case2 t rest ih => rw [outsideCode_foldr_consCode, ih, outsideCode_code]
  | case3 t closed rest ih => rw [outsideCode_literal, outsideCode_literal, ih]
  | case4 t closed rest ih => rw [outsideCode_comment, outsideCode_comment, ih]

/-- The literals and comments of a layout decide the rest: if a scan finds them, it finds the
code between them as well. -/
theorem segmentsAfter_eq_assemble {d : Dialect} {before : Text} {segs : List Segment}
    (hl : Laid d segs)
    (h : outsideCode (segmentsAfter d before (textOf segs)) = outsideCode segs) :
    segmentsAfter d before (textOf segs) = assemble segs := by
  induction segs generalizing before with
  | nil => simp [textOf, segmentsAfter, assemble]
  | cons s rest ih =>
    cases s with
    | code t =>
      obtain ⟨-, hplain, hrest⟩ := hl
      rw [textOf_cons, Segment.text, segmentsAfter_plain hplain] at h ⊢
      rw [outsideCode_foldr_consCode] at h
      rw [ih hrest (by simpa using h), assemble]
    | comment t closed =>
      obtain ⟨hc, hrest⟩ := hl
      rw [textOf_cons, Segment.text, segmentsAfter_comment hc] at h ⊢
      rw [ih hrest (by simpa using h), assemble]
    | literal t closed =>
      obtain ⟨hquote, -, hrest⟩ := hl
      obtain ⟨body, rfl⟩ := List.head?_eq_some_iff.mp hquote
      rw [textOf_cons, Segment.text, List.cons_append,
        segmentsAfter_of_some (opener?_quote d before _)] at h ⊢
      simp only [Opener.cut, Opener.segment] at h ⊢
      generalize hcut : literalCut (d.backslashEscapes || followsEscapeMark before)
        (body ++ textOf rest) = cut at h ⊢
      have happend := literalCut_append (d.backslashEscapes || followsEscapeMark before)
        (body ++ textOf rest)
      rw [hcut] at happend
      rw [outsideCode_literal, outsideCode_literal] at h
      obtain ⟨hlit, htail⟩ := List.cons.inj h
      obtain ⟨htaken, hclosed⟩ := Segment.literal.inj hlit
      rw [(List.cons.inj htaken).2] at happend htail ⊢
      rw [List.append_cancel_left_eq] at happend
      rw [happend] at htail ⊢
      rw [ih hrest htail, hclosed, assemble]

theorem countKind_joinLiteral (t : Text) (closed : Bool) (segs : List Segment) :
    countKind .literal (joinLiteral t closed segs) ≤ countKind .literal segs + 1 ∧
      (countKind .literal (joinLiteral t closed segs) = countKind .literal segs + 1 →
        joinLiteral t closed segs = .literal t closed :: segs) := by
  unfold joinLiteral
  split <;> simp [countKind, Segment.kind]

/-- Joining takes literals away, unless it changes nothing at all. -/
theorem countKind_joinLiterals (segs : List Segment) :
    countKind .literal (joinLiterals segs) ≤ countKind .literal segs ∧
      (countKind .literal (joinLiterals segs) = countKind .literal segs →
        joinLiterals segs = segs) := by
  fun_induction joinLiterals segs with
  | case1 => simp
  | case2 t rest ih => simpa [countKind, Segment.kind] using ih
  | case3 t closed rest ih =>
    obtain ⟨hle, heq⟩ := ih
    obtain ⟨hle', heq'⟩ := countKind_joinLiteral t closed (joinLiterals rest)
    have hcons : countKind .literal (.literal t closed :: rest) = countKind .literal rest + 1 := by
      simp [countKind, Segment.kind]
    rw [hcons]
    constructor
    · omega
    · intro h
      rw [heq' (by omega), heq (by omega)]
  | case4 t closed rest ih => simpa [countKind, Segment.kind] using ih

end GuardedSql.Sql
