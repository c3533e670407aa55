import GuardedSql.Proofs.Holes
import GuardedSql.Proofs.Injection
import GuardedSql.Proofs.Shown

/-! The indices that a template asks for. They are read from the holes that the plain dialect finds
in code, whereas a store fills the holes that its own dialect finds there. The two find the same
numbered holes, since none of them reaches over the border of a segment, but may differ on whether
one stands in code. -/

namespace GuardedSql

open Text (isNumeral natValue)

namespace Sql

open Literal (mayOpen mayOpen_of_isDigit ne_of_isDigit)

/-! Holes in a text -/

/-- What starts outside a front part begins behind it. -/
theorem infix_of_infix_append {c : Char} {u v t : Text} (hv : c ∉ v) (h : c :: u <:+: v ++ t) :
    c :: u <:+: t := by
  induction v with
  | nil => exact h
  | cons a v ih =>
    obtain ⟨hc, hv⟩ := not_or.mp (mt List.mem_cons.mpr hv)
    rcases List.infix_cons_iff.mp h with hfront | hbehind
    · exact absurd (List.cons_prefix_cons.mp hfront).1 hc
    · exact ih hv hbehind

theorem holeToken?_of_prefix {token t : Text} (h : ∀ c ∈ token, isBrace c = false)
    (ht : (Piece.hole token).text <+: '\x7b' :: t) : ∃ rest, holeToken? t = some (token, rest) := by
  obtain ⟨rest, hrest⟩ := ht
  refine ⟨rest, ?_⟩
  have hsplit : t = token ++ '\x7d' :: rest := by
    simpa [Piece.text] using hrest.symm
  rw [hsplit, Template.holeToken?_append h]

/-- The holes of a text are the tokens in braces that stand in it. -/
theorem mem_tokens_iff {token : Text} (h : ∀ c ∈ token, isBrace c = false) {t : Text} :
    token ∈ tokens t ↔ (Piece.hole token).text <:+: t := by
  have hmem : ∀ ps : List Piece, token ∈ ps.filterMap Piece.token? ↔ .hole token ∈ ps := by
    intro ps
    rw [List.mem_filterMap]
    constructor
    · intro hpiece
      obtain ⟨p, hp, htoken⟩ := hpiece
      cases p with
      | char c => cases htoken
      | hole token' => rwa [← Option.some.inj htoken]
    · intro hpiece
      exact ⟨_, hpiece, rfl⟩
  rw [tokens, hmem]
  constructor
  · intro hpiece
    rw [← render_pieces t]
    exact List.infix_of_mem_flatten (List.mem_map_of_mem hpiece)
  · fun_induction pieces t with
    | case1 => simp [Piece.text]
    | case2 c t token' rest hopen ih =>
      intro hinfix
      split at hopen
      · next hc =>
        rw [beq_iff_eq.mp hc] at hinfix
        obtain ⟨hsplit, hplain⟩ := holeToken?_eq hopen
        rcases List.infix_cons_iff.mp hinfix with hfront | hbehind
        · obtain ⟨rest', hrest⟩ := holeToken?_of_prefix h hfront
          rw [hopen] at hrest
          rw [(Prod.mk.inj (Option.some.inj hrest)).1]
          exact List.mem_cons_self
        · -- it starts behind the hole, which has one opening brace only
          have hbrace : '\x7b' ∉ token' ++ ['\x7d'] := by
            intro hmem
            rcases List.mem_append.mp hmem with htoken | hclose
            · exact absurd (hplain _ htoken) (by decide)
            · exact absurd (List.mem_singleton.mp hclose) (by decide)
          rw [hsplit, ← List.singleton_append, ← List.append_assoc] at hbehind
          exact List.mem_cons_of_mem _ (ih (infix_of_infix_append hbrace hbehind))
      · cases hopen
    | case3 c t hnone ih =>
      intro hinfix
      rcases List.infix_cons_iff.mp hinfix with hfront | hbehind
      · obtain rfl : '\x7b' = c := (List.cons_prefix_cons.mp hfront).1
        obtain ⟨rest, hrest⟩ := holeToken?_of_prefix h hfront
        simp [hrest] at hnone
      · exact List.mem_cons_of_mem _ (ih hbehind)

/-! Borders of segments -/

/-- Characters that a literal or a comment may begin or end with. -/
def isMark (c : Char) : Bool := mayOpen c || c == '\n'

theorem IsSegment.isMark_head? {d : Dialect} {before after : Text} {s : Segment}
    (h : IsSegment d before after s) (hs : s.kind ≠ .code) :
    ∀ c ∈ s.text.head?, isMark c = true := by
  cases s with
  | code t => exact absurd rfl hs
  | literal t closed =>
    obtain ⟨body, rfl⟩ := h.literal_head
    simp [Segment.text, isMark, mayOpen]
  | comment t closed =>
    cases (isComment_iff d before after t closed).mpr h with
    | hash _ _ => simp [Segment.text, isMark, mayOpen]
    | dashes _ _ => simp [Segment.text, isMark, mayOpen]
    | block _ => simp [Segment.text, isMark, mayOpen]

theorem EndsLine.isMark_getLast? {t after : Text} (h : EndsLine t after) (hafter : after ≠ []) :
    ∀ c ∈ t.getLast?, isMark c = true := by
  rcases h with ⟨body, rfl, -⟩ | ⟨-, hend⟩
  · simp [isMark]
  · exact absurd hend hafter

theorem IsSegment.isMark_getLast? {d : Dialect} {before after : Text} {s : Segment}
    (h : IsSegment d before after s) (hs : s.kind ≠ .code) (hafter : after ≠ []) :
    ∀ c ∈ s.text.getLast?, isMark c = true := by
  cases s with
  | code t => exact absurd rfl hs
  | literal t closed =>
    cases closed with
    | true =>
      obtain ⟨⟨items, -, rfl⟩, -⟩ := h
      rw [Segment.text, ← List.cons_append, List.getLast?_concat]
      simp [isMark, mayOpen]
    | false => exact absurd h.2.1 hafter
  | comment t closed =>
    rcases h with ⟨-, hline, -⟩ | hblock
    · exact hline.isMark_getLast? hafter
    · cases hblock with
      | @closed body _ =>
        have hsplit : '/' :: '*' :: (body ++ ['*', '/'])
            = ('/' :: '*' :: (body ++ ['*'])) ++ ['/'] := by
          simp
        rw [Segment.text, hsplit, List.getLast?_concat]
        simp [isMark, mayOpen]
      | unclosed _ hend => exact absurd hend hafter

/-- At the border of two segments there is a mark on one of its sides. -/
theorem IsScan.isMark_border {d : Dialect} {before t : Text} {s : Segment} {segs : List Segment}
    (h : IsScan d before t (s :: segs)) (hne : textOf segs ≠ []) :
    (∀ c ∈ s.text.getLast?, isMark c = true) ∨ ∀ c ∈ (textOf segs).head?, isMark c = true := by
  obtain ⟨-, -, hkinds, -, hsegment, hscan⟩ := isScan_cons.mp h
  by_cases hcode : s.kind = .code
  · cases segs with
    | nil => exact absurd rfl hne
    | cons s' rest =>
      obtain ⟨-, htext, -, -, hnext, -⟩ := isScan_cons.mp hscan
      have hkind : s'.kind ≠ .code := by
        intro hcode'
        have hcomment := hkinds s' rfl (hcode.trans hcode'.symm)
        rw [hcode] at hcomment
        cases hcomment
      obtain ⟨c, u, hu⟩ := List.exists_cons_of_ne_nil htext
      have hmark := hnext.isMark_head? hkind
      rw [hu] at hmark
      rw [textOf_cons, hu]
      exact .inr hmark
  · exact .inl (hsegment.isMark_getLast? hcode hne)

/-- Text without marks reaches over no border: where it stands, it stands in one segment. -/
theorem IsScan.exists_infix {d : Dialect} {before t u : Text} {segs : List Segment}
    (h : IsScan d before t segs) (hne : u ≠ []) (hu : ∀ c ∈ u, isMark c = false)
    (ht : u <:+: t) : ∃ s ∈ segs, u <:+: s.text := by
  induction segs generalizing before t with
  | nil =>
    obtain rfl := isScan_nil.mp h
    exact absurd (List.infix_nil.mp ht) hne
  | cons s segs ih =>
    obtain ⟨rfl, -, -, -, -, hscan⟩ := isScan_cons.mp h
    have hlater : u <:+: textOf segs → ∃ s' ∈ s :: segs, u <:+: s'.text := by
      intro hrest
      obtain ⟨s', hs', hinfix⟩ := ih hscan hrest
      exact ⟨s', List.mem_cons_of_mem _ hs', hinfix⟩
    rcases List.infix_append_iff.mp ht with hfirst | hrest | ⟨v, w, hsplit, hv, hw⟩
    · exact ⟨s, List.mem_cons_self, hfirst⟩
    · exact hlater hrest
    · rcases List.eq_nil_or_concat v with rfl | ⟨v, a, rfl⟩
      · exact hlater (hsplit ▸ hw.isInfix)
      · cases w with
        | nil => exact ⟨s, List.mem_cons_self, by simpa [hsplit] using hv.isInfix⟩
        | cons b w =>
          -- the text would have a character on either side of a border
          obtain ⟨front, hfront⟩ := hv
          obtain ⟨back, hback⟩ := hw
          have hrest : textOf segs ≠ [] := by
            simp [← hback]
          rcases h.isMark_border hrest with hlast | hhead
          · have ha : isMark a = true := hlast a (by simp [← hfront])
            rw [hu a (by simp [hsplit])] at ha
            cases ha
          · have hb : isMark b = true := hhead b (by simp [← hback])
            rw [hu b (by simp [hsplit])] at hb
            cases hb

/-! Numbered holes -/

theorem isDigit_of_isNumeral {token : Text} (h : isNumeral token = true) :
    ∀ c ∈ token, c.isDigit = true := by
  rw [isNumeral, Bool.and_eq_true, List.all_eq_true] at h
  exact h.2

theorem mem_tokensIn_iff {kind : SegmentKind} {segs : List Segment} {token : Text} :
    token ∈ tokensIn kind segs ↔ ∃ s ∈ segs, s.kind = kind ∧ token ∈ tokens s.text := by
  simp [tokensIn, and_assoc]

theorem isBrace_of_isDigit {c : Char} (h : c.isDigit = true) : isBrace c = false := by
  have hopen : c ≠ '\x7b' := ne_of_isDigit h (by decide)
  have hclose : c ≠ '\x7d' := ne_of_isDigit h (by decide)
  simp [isBrace, hopen, hclose]

theorem isMark_of_isDigit {c : Char} (h : c.isDigit = true) : isMark c = false := by
  have hline : c ≠ '\n' := ne_of_isDigit h (by decide)
  simp [isMark, mayOpen_of_isDigit h, hline]

/-- Every dialect finds the same numbered holes in a text, each in some segment. -/
theorem exists_mem_tokensIn {d : Dialect} {kind : SegmentKind} {t token : Text}
    (h : isNumeral token = true) (htoken : token ∈ tokensIn kind (segments d t)) (d' : Dialect) :
    ∃ kind', token ∈ tokensIn kind' (segments d' t) := by
  have hscan : IsScan d' [] t (segments d' t) := isScan_segmentsAfter d' [] t
  have hdigits := isDigit_of_isNumeral h
  have hplain : ∀ c ∈ token, isBrace c = false := fun c hc => isBrace_of_isDigit (hdigits c hc)
  have hmarks : ∀ c ∈ (Piece.hole token).text, isMark c = false := by
    intro c hc
    rcases List.mem_append.mp hc with hfront | hclose
    · rcases List.mem_cons.mp hfront with rfl | hdigit
      · decide
      · exact isMark_of_isDigit (hdigits c hdigit)
    · rw [List.mem_singleton.mp hclose]
      decide
  obtain ⟨s, hs, -, hhole⟩ := mem_tokensIn_iff.mp htoken
  have hinfix : (Piece.hole token).text <:+: t := by
    rw [← textOf_segments d t]
    exact ((mem_tokens_iff hplain).mp hhole).trans
      (List.infix_of_mem_flatten (List.mem_map_of_mem hs))
  obtain ⟨s', hs', hhole'⟩ := hscan.exists_infix (by simp [Piece.text]) hmarks hinfix
  exact ⟨s'.kind, mem_tokensIn_iff.mpr ⟨s', hs', rfl, (mem_tokens_iff hplain).mpr hhole'⟩⟩

end Sql

namespace Template

open Sql

/-! Sorted indices -/

theorem mem_insertIndex {i j : Nat} {l : List Nat} : j ∈ insertIndex i l ↔ j = i ∨ j ∈ l := by
  fun_induction insertIndex i l with
  | case1 => simp
  | case2 a rest heq =>
    obtain rfl := eq_of_beq heq
    simp
  | case3 a rest _ _ => simp
  | case4 a rest _ _ ih =>
    rw [List.mem_cons, List.mem_cons, ih]
    tauto

theorem pairwise_insertIndex {i : Nat} {l : List Nat} (h : l.Pairwise (· < ·)) :
    (insertIndex i l).Pairwise (· < ·) := by
  fun_induction insertIndex i l with
  | case1 => simp
  | case2 a rest _ => exact h
  | case3 a rest _ hlt =>
    obtain ⟨hrest, -⟩ := List.pairwise_cons.mp h
    refine List.pairwise_cons.mpr ⟨List.forall_mem_cons.mpr ⟨hlt, ?_⟩, h⟩
    intro b hb
    exact hlt.trans (hrest b hb)
  | case4 a rest hne hle ih =>
    obtain ⟨hrest, hsorted⟩ := List.pairwise_cons.mp h
    refine List.pairwise_cons.mpr ⟨?_, ih hsorted⟩
    intro b hb
    rw [beq_iff_eq] at hne
    rcases mem_insertIndex.mp hb with rfl | hb
    · omega
    · exact hrest b hb

theorem mem_sortedIndices {i : Nat} {l : List Nat} : i ∈ sortedIndices l ↔ i ∈ l := by
  induction l with
  | nil => simp [sortedIndices]
  | cons j l ih => rw [sortedIndices, List.foldr_cons, mem_insertIndex, ← sortedIndices, ih,
      List.mem_cons]

theorem pairwise_sortedIndices (l : List Nat) : (sortedIndices l).Pairwise (· < ·) := by
  induction l with
  | nil => exact .nil
  | cons i l ih => exact pairwise_insertIndex ih

/-- Sorted, indices below a bound are those in the range that there are. -/
theorem sortedIndices_eq_filter {l : List Nat} {n : Nat} (h : ∀ i ∈ l, i < n) :
    sortedIndices l = (List.range n).filter (· ∈ l) := by
  refine (pairwise_sortedIndices l).eq_of_mem_iff (List.pairwise_lt_range.filter _) ?_
  intro i
  rw [mem_sortedIndices, List.mem_filter, List.mem_range, decide_eq_true_iff]
  exact ⟨fun hi => ⟨h i hi, hi⟩, fun hi => hi.2⟩

/-! The indices that code asks for -/

/-- The indices that a template's code asks for in a dialect, sorted, each once. -/
def indicesIn (d : Dialect) (template : Text) : Except Failure (List Nat) :=
  (((tokensIn .code (segments d template)).filter isNumeral).mapM readIndex).map sortedIndices

theorem indices_eq_indicesIn (template : Text) : indices template = indicesIn {} template := rfl

/-- A hole in code asks for the value of an index. -/
def AsksFor (d : Dialect) (template : Text) (i : Nat) : Prop :=
  ∃ token ∈ tokensIn .code (segments d template), isNumeral token = true ∧ natValue token = i

instance (d : Dialect) (template : Text) (i : Nat) : Decidable (AsksFor d template i) :=
  List.decidableBEx (fun token => isNumeral token = true ∧ natValue token = i)
    (tokensIn .code (segments d template))

theorem mapM_readIndex {tokens : List Text}
    (h : ∀ token ∈ tokens, token.length ≤ Value.digitLimit) :
    tokens.mapM readIndex = .ok (tokens.map natValue) := by
  induction tokens with
  | nil => rfl
  | cons token tokens ih =>
    obtain ⟨htoken, htokens⟩ := List.forall_mem_cons.mp h
    have hread : readIndex token = .ok (natValue token) := if_pos htoken
    rw [List.mapM_cons, hread, ih htokens]
    rfl

/-- Where a value can be found for every numbered hole in code, the indices are those in the range
of the values that a hole asks for. -/
theorem indicesIn_eq_filter {d : Dialect} {template : Text} {n : Nat}
    (h : ∀ token ∈ tokensIn .code (segments d template), isNumeral token = true →
      Fillable n token) :
    indicesIn d template = .ok ((List.range n).filter fun i => AsksFor d template i) := by
  have hfillable : ∀ token ∈ (tokensIn .code (segments d template)).filter isNumeral,
      Fillable n token := by
    intro token htoken
    obtain ⟨hmem, hnumeral⟩ := List.mem_filter.mp htoken
    exact h token hmem hnumeral
  have hrange : ∀ i ∈ ((tokensIn .code (segments d template)).filter isNumeral).map natValue,
      i < n := by
    intro i hi
    obtain ⟨token, htoken, rfl⟩ := List.mem_map.mp hi
    exact (hfillable token htoken).inRange
  rw [indicesIn, mapM_readIndex fun token htoken => (hfillable token htoken).short]
  refine congrArg Except.ok ((sortedIndices_eq_filter hrange).trans (List.filter_congr ?_))
  intro i _
  rw [decide_eq_decide]
  simp [AsksFor, and_assoc]

/-- What a template that was filled is like: its holes in code can all be filled, no numbered one
stands elsewhere, and every value is asked for. -/
structure FilledWith (d : Dialect) (template : Text) (n : Nat) : Prop where
  fillable : ∀ token ∈ tokensIn .code (segments d template), Fillable n token
  outside : ∀ kind, kind ≠ .code → ∀ token ∈ tokensIn kind (segments d template),
    isNumeral token = false
  used : ∀ i < n, AsksFor d template i

theorem filledWith_of_fill {d : Dialect} {template statement : Text} {literals : List Text}
    (h : fill d template literals = .ok statement) : FilledWith d template literals.length := by
  simp only [fill] at h
  obtain ⟨⟨⟩, hcheck, hfilled⟩ := Result.bind_eq_ok h
  obtain ⟨ts, hts, hchecked⟩ := Result.bind_eq_ok hfilled
  have hfillable := exists_fillSegments_eq_ok_iff.mp ⟨ts, hts⟩
  refine ⟨hfillable, checkHoles_eq_ok_iff.mp (Result.mapError_eq_ok hcheck), ?_⟩
  split at hchecked
  · cases hchecked
  · next hused =>
    intro i hi
    have hmem : i ∈ usedIndices (segments d template) := by
      simpa using List.find?_eq_none.mp hused i (List.mem_range.mpr hi)
    obtain ⟨token, htoken, hvalue⟩ := List.mem_map.mp hmem
    exact ⟨token, htoken, (hfillable token htoken).numeral, hvalue⟩

/-- A value can be found for every numbered hole, whichever dialect finds it in code. -/
theorem FilledWith.fillable_of_numeral {d : Dialect} {template : Text} {n : Nat}
    (h : FilledWith d template n) {d' : Dialect} {token : Text}
    (htoken : token ∈ tokensIn .code (segments d' template)) (hnumeral : isNumeral token = true) :
    Fillable n token := by
  obtain ⟨kind, hkind⟩ := exists_mem_tokensIn hnumeral htoken d
  by_cases hcode : kind = .code
  · exact h.fillable token (hcode ▸ hkind)
  · have hplain := h.outside kind hcode token hkind
    rw [hnumeral] at hplain
    cases hplain

/-- The indices of a template that was filled are those of the values, as the dialect that it was
filled in reads it. In another reading they are the values that code asks for there; the plain
reading gives all of them exactly if it finds a hole in code for each, and does so if the dialects
read the template alike. -/
theorem indices_of_substitute {d : Dialect} {escape : Escaper} {template replacements : Value}
    {t statement : Text} (ht : template.text? = some t)
    (h : substitute d escape template replacements = .ok statement) :
    ∃ values, replacementValues replacements = .ok values ∧
      indicesIn d t = .ok (List.range values.length) ∧
      indices t = .ok ((List.range values.length).filter fun i => AsksFor {} t i) ∧
      (indices t = .ok (List.range values.length) ↔ ∀ i < values.length, AsksFor {} t i) ∧
      (ReadsAlike d t → indices t = .ok (List.range values.length)) := by
  obtain ⟨values, literals, hvalues, hliterals, hfill⟩ := substitute_eq_ok ht h
  have hlength : literals.length = values.length :=
    (Result.forall₂_of_mapM hliterals).length_eq.symm
  have hfilled : FilledWith d t values.length := hlength ▸ filledWith_of_fill hfill
  have hown : indicesIn d t = .ok (List.range values.length) := by
    rw [indicesIn_eq_filter fun token htoken _ => hfilled.fillable token htoken,
      List.filter_eq_self.mpr]
    intro i hi
    exact decide_eq_true (hfilled.used i (List.mem_range.mp hi))
  have hplain : indices t = .ok ((List.range values.length).filter fun i => AsksFor {} t i) :=
    indicesIn_eq_filter fun token htoken hnumeral => hfilled.fillable_of_numeral htoken hnumeral
  refine ⟨values, hvalues, hown, hplain, ?_, ?_⟩
  · rw [hplain, Except.ok.injEq, List.filter_eq_self]
    simp only [List.mem_range, decide_eq_true_iff]
  · intro halike
    rw [indices_eq_indicesIn, ← hown, indicesIn, indicesIn,
      segments_eq_plain_iff_readsAlike.mpr halike]

/-- A template with a comment and a literal that both dialects read alike. -/
theorem indices_of_substitute_alike :
    substitute (Mode.mysql true).dialect (⟨.mysql true, {}, none⟩ : Connection).escaper
        (.text "SELECT {1}, 'a\\b', {0} -- {x}".toList) (.list [.bool true, .null])
      = .ok "SELECT NULL, 'a\\b', TRUE -- {x}".toList ∧
    indices "SELECT {1}, 'a\\b', {0} -- {x}".toList = .ok [0, 1] := by
  have hsubstitute : substitute (Mode.mysql true).dialect
      (⟨.mysql true, {}, none⟩ : Connection).escaper
      (.text "SELECT {1}, 'a\\b', {0} -- {x}".toList) (.list [.bool true, .null])
        = .ok "SELECT NULL, 'a\\b', TRUE -- {x}".toList := by
    cbv
  have halike : segments (Mode.mysql true).dialect "SELECT {1}, 'a\\b', {0} -- {x}".toList
      = segments {} "SELECT {1}, 'a\\b', {0} -- {x}".toList := by
    cbv
  obtain ⟨values, hvalues, -, -, -, hindices⟩ := indices_of_substitute rfl hsubstitute
  obtain rfl : [Value.bool true, Value.null] = values := Except.ok.inj hvalues
  exact ⟨hsubstitute, hindices (segments_eq_plain_iff_readsAlike.mp halike)⟩

/-- Dashes without a blank behind them, and a quote behind a backslash, are read otherwise by the
plain dialect: it finds a hole in a comment, or in a literal, that MySQL fills. -/
theorem indices_of_substitute_otherwise :
    (substitute (Mode.mysql true).dialect (⟨.mysql true, {}, none⟩ : Connection).escaper
        (.text "SELECT 1--{0}".toList) (.list [.null]) = .ok "SELECT 1--NULL".toList ∧
      indices "SELECT 1--{0}".toList = .ok []) ∧
    (substitute (Mode.mysql true).dialect (⟨.mysql true, {}, none⟩ : Connection).escaper
        (.text "SELECT 'it\\'s', {0}".toList) (.list [.null]) = .ok "SELECT 'it\\'s', NULL".toList ∧
      indices "SELECT 'it\\'s', {0}".toList = .ok []) := by
  refine ⟨⟨?_, ?_⟩, ?_, ?_⟩
  · cbv
  · cbv
  · cbv
  · cbv

end Template

end GuardedSql
