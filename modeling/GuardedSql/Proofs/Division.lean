import GuardedSql.Sql.Statement
import GuardedSql.Proofs.Scan

/-! The division of a text at its semicolons in code, said of its characters: each stands in a
segment of some kind, and only a semicolon that stands in code divides. The statements of a text
are its pieces with content, in their order, without the blanks at their ends. -/

namespace GuardedSql.Sql

open Text (isBlank allBlank strip)

/-! Characters and the segments they stand in -/

/-- The characters of a text, each with the kind of the segment that it stands in. -/
def placed (segs : List Segment) : List (Char × SegmentKind) :=
  segs.flatMap fun s => s.text.map (·, s.kind)

/-- The characters without their places. -/
def lettersOf (piece : List (Char × SegmentKind)) : Text := piece.map Prod.fst

/-- What divides a text. -/
def separator : Char × SegmentKind := (';', .code)

/-- The stretches of a text between its semicolons in code. -/
def division (segs : List Segment) : List (List (Char × SegmentKind)) :=
  (placed segs).splitOn separator

/-- Whether a character is content: one of a literal is, and one of code but a blank. -/
def isContent : Char × SegmentKind → Bool
  | (_, .literal) => true
  | (c, .code) => !isBlank c
  | (_, .comment) => false

/-- Whether a piece has content. -/
def isFilled (piece : List (Char × SegmentKind)) : Bool := piece.any isContent

theorem placed_cons (s : Segment) (segs : List Segment) :
    placed (s :: segs) = s.text.map (·, s.kind) ++ placed segs := rfl

theorem lettersOf_placed (segs : List Segment) : lettersOf (placed segs) = textOf segs := by
  induction segs with
  | nil => rfl
  | cons s segs ih =>
    have hletters : lettersOf (s.text.map (·, s.kind)) = s.text := by
      simp [lettersOf, Function.comp_def]
    rw [placed_cons, textOf_cons, ← ih]
    nth_rewrite 2 [← hletters]
    exact List.map_append

theorem isContent_eq_false_iff {c : Char × SegmentKind} :
    isContent c = false ↔ c.2 = .comment ∨ c.2 = .code ∧ isBlank c.1 = true := by
  obtain ⟨c, kind⟩ := c
  cases kind <;> simp [isContent]

/-! Stretches of segments and pieces of the text -/

/-- A front part without a separator joins the first piece. -/
theorem splitOn_append_of_notMem {α : Type} [BEq α] [LawfulBEq α] {a : α} {front : List α}
    (h : a ∉ front) (t : List α) :
    (front ++ t).splitOn a = (t.splitOn a).modifyHead (front ++ ·) := by
  induction front with
  | nil => exact (congrFun List.modifyHead_id _).symm
  | cons c front ih =>
    obtain ⟨hc, hfront⟩ := not_or.mp (mt List.mem_cons.mpr h)
    have hne : ¬ (c == a) = true := fun heq => hc (eq_of_beq heq).symm
    rw [List.cons_append, List.splitOn_cons_eq_if_modifyHead, if_neg hne, ih hfront,
      List.modifyHead_modifyHead]
    rfl

theorem notMem_of_mem_splitOn {α : Type} [BEq α] [LawfulBEq α] {a : α} {t part : List α}
    (h : part ∈ t.splitOn a) : a ∉ part := by
  induction t generalizing part with
  | nil => simp_all
  | cons c t ih =>
    rw [List.splitOn_cons_eq_if_modifyHead] at h
    split at h
    · rcases List.mem_cons.mp h with rfl | hpart
      · exact List.not_mem_nil
      · exact ih hpart
    · next hc =>
      obtain ⟨first, rest, hsplit⟩ := List.exists_cons_of_ne_nil (List.splitOn_ne_nil a t)
      rw [hsplit] at h ih
      rcases List.mem_cons.mp h with rfl | hpart
      · have hne : a ≠ c := fun heq => hc (beq_iff_eq.mpr heq.symm)
        exact List.not_mem_cons_of_ne_of_not_mem hne (ih List.mem_cons_self)
      · exact ih (List.mem_cons_of_mem _ hpart)

theorem map_placed_consSegment (s : Segment) {stretches : List (List Segment)}
    (h : stretches ≠ []) : (consSegment s stretches).map placed
      = (stretches.map placed).modifyHead (s.text.map (·, s.kind) ++ ·) := by
  cases stretches with
  | nil => exact absurd rfl h
  | cons stretch stretches => rfl

theorem map_placed_prependParts_cons (c : Char) (part : Text) (parts : List Text)
    {stretches : List (List Segment)} (h : stretches ≠ []) :
    (prependParts ((c :: part) :: parts) stretches).map placed
      = ((prependParts (part :: parts) stretches).map placed).modifyHead ((c, .code) :: ·) := by
  cases parts with
  | nil =>
    rw [prependParts, prependParts, map_placed_consSegment _ h, map_placed_consSegment _ h,
      List.modifyHead_modifyHead]
    rfl
  | cons next parts => rfl

/-- Code in front of segments is divided at each of its semicolons. -/
theorem map_placed_prependParts {stretches : List (List Segment)} {segs : List Segment}
    (hne : stretches ≠ []) (h : stretches.map placed = division segs) (t : Text) :
    (prependParts (splitCode t) stretches).map placed = division (.code t :: segs) := by
  have hdivision : ∀ c t, division (.code (c :: t) :: segs)
      = ((c, .code) :: placed (.code t :: segs)).splitOn separator := fun _ _ => rfl
  fun_induction splitCode t with
  | case1 =>
    rw [prependParts, map_placed_consSegment _ hne, h]
    exact congrFun List.modifyHead_id _
  | case2 c t hc ih =>
    -- more parts follow, so that the empty one in front is a stretch by itself
    obtain ⟨part, parts, hparts⟩ := List.exists_cons_of_ne_nil (splitCode_ne_nil t)
    rw [hparts] at ih ⊢
    rw [hdivision, eq_of_beq hc, List.splitOn_cons_eq_if_modifyHead, if_pos (by decide),
      prependParts, List.map_cons, ih]
    · rfl
    · simp
  | case3 c t hc hparts => exact absurd hparts (splitCode_ne_nil t)
  | case4 c t hc part parts hparts ih =>
    have hne' : ¬ ((c, SegmentKind.code) == separator) = true := by
      simpa [separator] using hc
    rw [hparts] at ih
    rw [hdivision, List.splitOn_cons_eq_if_modifyHead, if_neg hne',
      map_placed_prependParts_cons c part parts hne, ih]
    rfl

/-- The stretches of segments are the pieces of the text. -/
theorem map_placed_stretches (segs : List Segment) :
    (stretches segs).map placed = division segs := by
  fun_induction stretches segs with
  | case1 => exact (List.splitOn_nil _).symm
  | case2 t rest ih => exact map_placed_prependParts (stretches_ne_nil rest) ih t
  | case3 s rest hs ih =>
    have hfront : separator ∉ s.text.map (·, s.kind) := by
      intro hmem
      obtain ⟨c, -, heq⟩ := List.mem_map.mp hmem
      cases s with
      | code t => exact hs t rfl
      | literal t closed => cases heq
      | comment t closed => cases heq
    rw [map_placed_consSegment _ (stretches_ne_nil rest), ih]
    exact (splitOn_append_of_notMem hfront _).symm

/-! Content -/

section Cut

variable {P : Segment → Prop}

theorem forall_consSegment {s : Segment} (hs : P s) {stretches : List (List Segment)}
    (h : ∀ stretch ∈ stretches, ∀ s ∈ stretch, P s) :
    ∀ stretch ∈ consSegment s stretches, ∀ s ∈ stretch, P s := by
  cases stretches with
  | nil => simpa [consSegment] using hs
  | cons stretch stretches =>
    obtain ⟨hfirst, hrest⟩ := List.forall_mem_cons.mp h
    exact List.forall_mem_cons.mpr ⟨List.forall_mem_cons.mpr ⟨hs, hfirst⟩, hrest⟩

theorem forall_prependParts (hcode : ∀ t, P (.code t)) (parts : List Text)
    {stretches : List (List Segment)} (h : ∀ stretch ∈ stretches, ∀ s ∈ stretch, P s) :
    ∀ stretch ∈ prependParts parts stretches, ∀ s ∈ stretch, P s := by
  fun_induction prependParts parts stretches with
  | case1 => exact h
  | case2 part => exact forall_consSegment (hcode part) h
  | case3 part parts stretches _ ih =>
    exact List.forall_mem_cons.mpr ⟨by simpa using hcode part, ih h⟩

/-- What holds of all code and of every segment holds of what the segments are cut into. -/
theorem forall_stretches (hcode : ∀ t, P (.code t)) {segs : List Segment} (h : ∀ s ∈ segs, P s) :
    ∀ stretch ∈ stretches segs, ∀ s ∈ stretch, P s := by
  fun_induction stretches segs with
  | case1 => simp
  | case2 t rest ih => exact forall_prependParts hcode _ (ih (List.forall_mem_cons.mp h).2)
  | case3 s rest _ ih =>
    obtain ⟨hs, hrest⟩ := List.forall_mem_cons.mp h
    exact forall_consSegment hs (ih hrest)

end Cut

theorem any_isContent_segment {s : Segment} (h : s.kind = .literal → s.text ≠ []) :
    (s.text.map (·, s.kind)).any isContent = s.hasContent := by
  cases s with
  | code t =>
    have hcode : isContent ∘ (·, SegmentKind.code) = fun c => !isBlank c := rfl
    rw [Segment.text, Segment.kind, Segment.hasContent, allBlank, List.any_map, hcode,
      List.not_all_eq_any_not]
  | literal t closed =>
    obtain ⟨c, t, rfl⟩ := List.exists_cons_of_ne_nil (h rfl)
    rfl
  | comment t closed =>
    simp [Segment.text, Segment.kind, Segment.hasContent, isContent]

theorem isFilled_placed {stretch : List Segment}
    (h : ∀ s ∈ stretch, s.kind = .literal → s.text ≠ []) :
    isFilled (placed stretch) = hasContent stretch := by
  induction stretch with
  | nil => rfl
  | cons s stretch ih =>
    obtain ⟨hs, hstretch⟩ := List.forall_mem_cons.mp h
    rw [isFilled, placed_cons, List.any_append, any_isContent_segment hs]
    exact congrArg _ (ih hstretch)

theorem length_filter_le_one_iff {α : Type} {p : α → Bool} {l : List α} :
    (l.filter p).length ≤ 1 ↔ l.Pairwise fun a b => p a = true → p b = false := by
  induction l with
  | nil => simp
  | cons a l ih =>
    rw [List.pairwise_cons, ← ih]
    by_cases ha : p a = true
    · -- behind one that passes there is none
      have hnone : l.filter p = [] ↔ ∀ b ∈ l, p b = false := by
        simp
      rw [List.filter_cons_of_pos ha, List.length_cons]
      constructor
      · intro hle
        have hempty : l.filter p = [] := List.length_eq_zero_iff.mp (by omega)
        exact ⟨fun b hb _ => hnone.mp hempty b hb, by simp [hempty]⟩
      · intro hrest
        rw [hnone.mpr fun b hb => hrest.1 b hb ha]
        simp
    · rw [List.filter_cons_of_neg ha]
      exact ⟨fun hle => ⟨fun b _ hpass => absurd hpass ha, hle⟩, fun hrest => hrest.2⟩

/-- The statements of a text are its pieces with content. -/
theorem statements_eq_pieces (d : Dialect) (sql : Text) : statements (segments d sql)
    = ((division (segments d sql)).filter isFilled).map fun piece => strip (lettersOf piece) := by
  have hscan : IsScan d [] sql (segments d sql) := isScan_segmentsAfter d [] sql
  have hliterals : ∀ stretch ∈ stretches (segments d sql), ∀ s ∈ stretch,
      s.kind = .literal → s.text ≠ [] :=
    forall_stretches (fun t hcode => nomatch hcode) fun s hs _ => hscan.ne_nil s hs
  have hfilled : ∀ stretch ∈ stretches (segments d sql),
      (isFilled ∘ placed) stretch = hasContent stretch :=
    fun stretch hstretch => isFilled_placed (hliterals stretch hstretch)
  rw [← map_placed_stretches, List.filter_map, List.map_map, List.filter_congr hfilled]
  simp only [statements, Function.comp_def, lettersOf_placed]

/-- The pieces of a text are the only division of its characters at the semicolons in code, and
joined by semicolons they are the text. Its statements are the pieces with content, each without
the blanks at its ends; in the other pieces are comments and blanks alone. There is at most one
statement exactly if no two pieces have content. -/
theorem statements_of_pieces (d : Dialect) (sql : Text) :
    lettersOf (placed (segments d sql)) = sql ∧
      (∀ parts ≠ [], parts = division (segments d sql) ↔
        [separator].intercalate parts = placed (segments d sql) ∧
          ∀ piece ∈ parts, separator ∉ piece) ∧
      [';'].intercalate ((division (segments d sql)).map lettersOf) = sql ∧
      statements (segments d sql)
        = ((division (segments d sql)).filter isFilled).map (fun piece => strip (lettersOf piece)) ∧
      (∀ piece ∈ division (segments d sql), isFilled piece = false →
        ∀ c ∈ piece, c.2 = .comment ∨ c.2 = .code ∧ isBlank c.1 = true) ∧
      ((statements (segments d sql)).length ≤ 1 ↔ (division (segments d sql)).Pairwise
        fun piece piece' => isFilled piece = true → isFilled piece' = false) := by
  have htext : textOf (segments d sql) = sql := (isScan_segmentsAfter d [] sql).text
  refine ⟨by rw [lettersOf_placed, htext], ?_, ?_, statements_eq_pieces d sql, ?_, ?_⟩
  · intro parts hne
    constructor
    · intro heq
      subst heq
      exact ⟨List.intercalate_splitOn _, fun piece => notMem_of_mem_splitOn⟩
    · intro hparts
      obtain ⟨hjoined, hpieces⟩ := hparts
      rw [division, ← hjoined, List.splitOn_intercalate _ hpieces hne]
  · have hletters : lettersOf ∘ placed = textOf := funext lettersOf_placed
    rw [← map_placed_stretches, List.map_map, hletters]
    exact (joined_stretches _).trans htext
  · intro piece _ hempty c hc
    rw [isFilled, List.any_eq_false] at hempty
    exact isContent_eq_false_iff.mp (Bool.eq_false_iff.mpr (hempty c hc))
  · rw [statements_eq_pieces, List.length_map, length_filter_le_one_iff]

example : statements (segments {} "SELECT ';' -- a;\n; ; /* ; */".toList)
    = ["SELECT ';' -- a;".toList] := by
  cbv

end GuardedSql.Sql
