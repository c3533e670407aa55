import GuardedSql.Guard
import GuardedSql.Proofs.Scan
import GuardedSql.Proofs.WholeWord
import Mathlib.Data.List.TakeWhile

/-! The judgement of a statement, said of its segments. The guard reads one text in which
literals and comments have shrunk to marks; a mark belongs to no word, so that nothing is read
across the border of two segments and nothing in one is missed. -/

namespace GuardedSql

open Sql
open Text (isBlank allBlank isWordChar findWord HoldsWord IsKeyword)

namespace Sql

/-! The code of a statement -/

theorem codeText_code (t : Text) (segs : List Segment) :
    codeText (.code t :: segs) = t ++ codeText segs := rfl

theorem codeText_literal (t : Text) (closed : Bool) (segs : List Segment) :
    codeText (.literal t closed :: segs) = '\'' :: '\'' :: codeText segs := rfl

theorem codeText_comment (t : Text) (closed : Bool) (segs : List Segment) :
    codeText (.comment t closed :: segs) = ' ' :: codeText segs := rfl

/-- Behind code stands the mark of a literal or a comment, or nothing. -/
theorem codeText_of_next {segs : List Segment} (h : ∀ s ∈ segs.head?, s.kind ≠ .code) :
    codeText segs = [] ∨ ∃ c t, codeText segs = c :: t ∧ (c = '\'' ∨ c = ' ') := by
  cases segs with
  | nil => exact .inl rfl
  | cons s segs =>
    right
    cases s with
    | code t => exact absurd rfl (h _ rfl)
    | literal t closed => exact ⟨'\'', _, codeText_literal t closed segs, .inl rfl⟩
    | comment t closed => exact ⟨' ', _, codeText_comment t closed segs, .inr rfl⟩

theorem isWordChar_mark {c : Char} (h : c = '\'' ∨ c = ' ') : isWordChar c = false := by
  rcases h with rfl | rfl <;> decide

theorem isSome_findWord_codeText {words : List Text} (hwords : ∀ word ∈ words, IsKeyword word)
    {segs : List Segment} (h : Apart segs) :
    (findWord words none (codeText segs)).isSome = true ↔
      ∃ t, .code t ∈ segs ∧ (findWord words none t).isSome = true := by
  induction segs with
  | nil => simp [codeText, findWord]
  | cons s segs ih =>
    have ih := ih h.tail
    cases s with
    | literal u closed =>
      rw [codeText_literal, Text.isSome_findWord_cons_of_edge hwords (by decide),
        Text.isSome_findWord_cons_of_edge hwords (by decide), ih]
      simp
    | comment u closed =>
      rw [codeText_comment, Text.isSome_findWord_cons_of_edge hwords (by decide), ih]
      simp
    | code u =>
      have hsplit : (findWord words none (u ++ codeText segs)).isSome
          = ((findWord words none u).isSome || (findWord words none (codeText segs)).isSome) := by
        rcases codeText_of_next h.next_ne_code with hnil | ⟨c, t, heq, hc⟩
        · simp [hnil, findWord]
        · rw [heq, Text.isSome_findWord_append_cons hwords (isWordChar_mark hc),
            Text.isSome_findWord_cons_of_edge hwords (isWordChar_mark hc)]
      rw [codeText_code, hsplit, Bool.or_eq_true, ih]
      simp [or_and_right, exists_or]

end Sql

namespace Guard

/-- A character that may stand in front of the command. -/
def isIdle (c : Char) : Bool := isBlank c || c == ';'

/-- The statement leads with a run of letters and underscores, taken to its full extent. In
front of it stand blanks, semicolons and comments only. -/
inductive Leads (run : Text) : List Segment → Prop
  | comment {t : Text} {closed : Bool} {rest : List Segment} :
      Leads run rest → Leads run (.comment t closed :: rest)
  | idle {t : Text} {rest : List Segment} :
      (∀ c ∈ t, isIdle c = true) → Leads run rest → Leads run (.code t :: rest)
  | here {idle after : Text} {rest : List Segment} :
      (∀ c ∈ idle, isIdle c = true) → run ≠ [] → (∀ c ∈ run, isCommandChar c = true) →
      (∀ c ∈ after.head?, isCommandChar c = false) →
      Leads run (.code (idle ++ run ++ after) :: rest)

/-- A run of letters names a command, if the code may run it. A DELETE is one only where rows
may be deleted, and with a LIMIT in the code. -/
def Names (g : Guard) (segs : List Segment) (run : Text) (kind : CommandKind) : Prop :=
  run.map Char.toUpper = kind.name.toList ∧
    (kind = .delete → g.softDelete = false ∧ ∃ t, .code t ∈ segs ∧ HoldsWord "LIMIT".toList t)

/-- What a guard permits, and as which command. -/
structure Permits (g : Guard) (segs : List Segment) (kind : CommandKind) : Prop where
  closed : ∀ s ∈ segs, s.closed = true
  inert : ∀ s ∈ segs, s.kind = .comment → ¬ ['/', '*', '!'] <+: s.text
  /-- Of the stretches between the semicolons in code, exactly one has content. -/
  single : (stretches segs).countP hasContent = 1
  command : ∃ run, Leads run segs ∧ g.Names segs run kind
  harmless : ∀ t, .code t ∈ segs → ∀ word ∈ g.forbiddenWords, ¬ HoldsWord word t

theorem isWordChar_of_isIdle {c : Char} (h : isIdle c = true) : isWordChar c = false := by
  rw [isIdle, Bool.or_eq_true, beq_iff_eq] at h
  rcases h with hblank | rfl
  · exact Text.isWordChar_of_isBlank hblank
  · decide

theorem isIdle_of_isCommandChar {c : Char} (h : isCommandChar c = true) : isIdle c = false := by
  by_contra hidle
  rw [Bool.not_eq_false] at hidle
  have hword : isWordChar c = true := by
    rw [isCommandChar, Bool.or_eq_true, beq_iff_eq] at h
    rcases h with halpha | rfl
    · exact Text.isWordChar_of_isAlpha halpha
    · decide
  rw [isWordChar_of_isIdle hidle] at hword
  cases hword

/-! The leading run -/

theorem takeWhile_append_of_head {q : Char → Bool} {more : Text}
    (h : ∀ c ∈ more.head?, q c = false) (t : Text) : (t ++ more).takeWhile q = t.takeWhile q := by
  induction t with
  | nil =>
    cases more with
    | nil => rfl
    | cons c more => simp [h c rfl]
  | cons c t ih =>
    rw [List.cons_append, List.takeWhile_cons, List.takeWhile_cons, ih]

/-- The run that a code leads with, cut out of it. -/
theorem takeWhile_dropWhile_eq_iff {run : Text} (hrun : run ≠ []) (t : Text) :
    (t.dropWhile isIdle).takeWhile isCommandChar = run ↔
      ∃ idle after, t = idle ++ run ++ after ∧ (∀ c ∈ idle, isIdle c = true) ∧
        (∀ c ∈ run, isCommandChar c = true) ∧ ∀ c ∈ after.head?, isCommandChar c = false := by
  constructor
  · rintro rfl
    refine ⟨t.takeWhile isIdle, (t.dropWhile isIdle).dropWhile isCommandChar, ?_, ?_, ?_, ?_⟩
    · rw [List.append_assoc, List.takeWhile_append_dropWhile, List.takeWhile_append_dropWhile]
    · intro c hc
      exact List.mem_takeWhile_imp hc
    · intro c hc
      exact List.mem_takeWhile_imp hc
    · intro c hc
      have hstop := List.head?_dropWhile_not isCommandChar (t.dropWhile isIdle)
      rw [Option.mem_def.mp hc] at hstop
      exact hstop
  · rintro ⟨idle, after, rfl, hidle, hcommand, hafter⟩
    obtain ⟨c, run, rfl⟩ := List.exists_cons_of_ne_nil hrun
    have hc := isIdle_of_isCommandChar (hcommand c (by simp))
    rw [List.append_assoc, List.dropWhile_append_of_pos hidle, List.cons_append,
      List.dropWhile_cons_of_neg (by simp [hc]), ← List.cons_append,
      takeWhile_append_of_head hafter, List.takeWhile_eq_self_iff]
    exact hcommand

theorem leads_iff {run : Text} {segs : List Segment} (h : Apart segs) :
    Leads run segs ↔ run ≠ [] ∧ (leadingCode segs).takeWhile isCommandChar = run := by
  induction segs with
  | nil =>
    constructor
    · rintro ⟨⟩
    · rintro ⟨hrun, rfl⟩
      exact absurd rfl hrun
  | cons s segs ih =>
    have ih := ih h.tail
    cases s with
    | literal u closed =>
      constructor
      · rintro ⟨⟩
      · rintro ⟨hrun, rfl⟩
        exact absurd rfl hrun
    | comment u closed =>
      have hsame : leadingCode (.comment u closed :: segs) = leadingCode segs := rfl
      rw [hsame, ← ih]
      constructor
      · rintro (hrest | _)
        exact hrest
      · exact .comment
    | code u =>
      have hcode : leadingCode (.code u :: segs) = (u ++ codeText segs).dropWhile isIdle := rfl
      by_cases hidle : ∀ c ∈ u, isIdle c = true
      · have hsame : leadingCode (.code u :: segs) = leadingCode segs := by
          rw [hcode, List.dropWhile_append_of_pos hidle]
          rfl
        rw [hsame, ← ih]
        constructor
        · intro hleads
          cases hleads with
          | idle _ hrest => exact hrest
          | @here idle after _ _ hrun hcommand _ =>
            obtain ⟨c, hc⟩ := List.exists_mem_of_ne_nil run hrun
            have hno := isIdle_of_isCommandChar (hcommand c hc)
            rw [hidle c (by simp [hc])] at hno
            cases hno
        · exact .idle hidle
      · have hmark : ∀ c ∈ (codeText segs).head?, isCommandChar c = false := by
          intro c hc
          rcases codeText_of_next h.next_ne_code with hnil | ⟨e, t, heq, he⟩
          · simp [hnil] at hc
          · obtain rfl : e = c := by simpa [heq] using hc
            rcases he with rfl | rfl <;> decide
        have hdrop : (u.dropWhile isIdle).isEmpty = false := by
          simpa [List.dropWhile_eq_nil_iff] using hidle
        rw [hcode, List.dropWhile_append, hdrop, if_neg (by simp), takeWhile_append_of_head hmark]
        constructor
        · intro hleads
          cases hleads with
          | idle hu _ => exact absurd hu hidle
          | here hfront hrun hcommand hafter =>
            exact ⟨hrun, (takeWhile_dropWhile_eq_iff hrun _).mpr
              ⟨_, _, rfl, hfront, hcommand, hafter⟩⟩
        · rintro ⟨hrun, hrest⟩
          obtain ⟨idle, after, rfl, hfront, hcommand, hafter⟩ :=
            (takeWhile_dropWhile_eq_iff hrun u).mp hrest
          exact .here hfront hrun hcommand hafter

/-! Content -/

/-- Whether a segment has content besides semicolons. -/
def isSubstantial : Segment → Bool
  | .code t => t.any fun c => !isIdle c
  | .literal .. => true
  | .comment .. => false

theorem any_hasContent_consSegment (s : Segment) (parts : List (List Segment)) :
    (consSegment s parts).any hasContent = (s.hasContent || parts.any hasContent) := by
  cases parts <;> simp [consSegment, hasContent, Bool.or_assoc]

theorem any_hasContent_prependParts (codes : List Text) (parts : List (List Segment)) :
    (prependParts codes parts).any hasContent
      = (codes.any (fun t => !allBlank t) || parts.any hasContent) := by
  fun_induction prependParts codes parts with
  | case1 => simp
  | case2 code parts => simp [any_hasContent_consSegment, Segment.hasContent]
  | case3 code codes parts _ ih =>
    simp [ih, hasContent, Segment.hasContent, Bool.or_assoc]

theorem any_splitCode (t : Text) :
    (splitCode t).any (fun part => !allBlank part) = t.any fun c => !isIdle c := by
  fun_induction splitCode t with
  | case1 => rfl
  | case2 c t hc ih =>
    have hidle : isIdle c = true := by simp [isIdle, hc]
    rw [List.any_cons, List.any_cons, ih, hidle]
    rfl
  | case3 c t hc hnil => exact absurd hnil (splitCode_ne_nil t)
  | case4 c t hc part parts heq ih =>
    have hidle : isIdle c = isBlank c := by simp [isIdle, hc]
    rw [heq] at ih
    simp only [List.any_cons, ← ih, hidle, allBlank, List.all_cons, Bool.not_and, Bool.or_assoc]

theorem any_hasContent_stretches (segs : List Segment) :
    (stretches segs).any hasContent = segs.any isSubstantial := by
  fun_induction stretches segs with
  | case1 => rfl
  | case2 t rest ih =>
    rw [any_hasContent_prependParts, any_splitCode, ih]
    rfl
  | case3 s rest hs ih =>
    rw [any_hasContent_consSegment, ih, List.any_cons]
    cases s with
    | code t => exact absurd rfl (hs t)
    | literal t closed => rfl
    | comment t closed => rfl

theorem Leads.any_isSubstantial {run : Text} {segs : List Segment} (h : Leads run segs) :
    segs.any isSubstantial = true := by
  induction h with
  | comment _ ih => rw [List.any_cons, ih, Bool.or_true]
  | idle _ _ ih => rw [List.any_cons, ih, Bool.or_true]
  | here _ hrun hcommand _ =>
    obtain ⟨c, hc⟩ := List.exists_mem_of_ne_nil _ hrun
    rw [List.any_cons, Bool.or_eq_true, isSubstantial, List.any_eq_true]
    exact .inl ⟨c, by simp [hc], by simp [isIdle_of_isCommandChar (hcommand c hc)]⟩

/-! The steps of the judgement -/

theorem segmentFault?_eq_none_iff (s : Segment) : segmentFault? s = none ↔
    s.closed = true ∧ (s.kind = .comment → ¬ ['/', '*', '!'] <+: s.text) := by
  have hexec : isExecutable s = true ↔ s.kind = .comment ∧ ['/', '*', '!'] <+: s.text := by
    rw [isExecutable, Bool.and_eq_true, beq_iff_eq, List.isPrefixOf_iff_prefix]
  rw [← not_and, ← hexec, segmentFault?]
  cases s.closed <;> cases isExecutable s <;> simp

theorem ofName?_eq_some_iff (name : String) (kind : CommandKind) :
    CommandKind.ofName? name = some kind ↔ kind.name = name := by
  constructor
  · intro h
    simpa using List.find?_some h
  · rintro rfl
    cases kind <;> decide

theorem command?_eq_some_iff (g : Guard) (code keyword : Text) (kind : CommandKind) :
    g.command? code keyword = some kind ↔ keyword = kind.name.toList ∧
      (kind = .delete → g.softDelete = false ∧ Text.hasWord "LIMIT".toList code = true) := by
  have hname : keyword = kind.name.toList ↔
      CommandKind.ofName? (String.ofList keyword) = some kind := by
    rw [ofName?_eq_some_iff]
    constructor
    · rintro rfl
      rw [String.ofList_toList]
    · intro h
      rw [h, String.toList_ofList]
  rw [hname, command?]
  cases CommandKind.ofName? (String.ofList keyword) with
  | none => simp
  | some found =>
    cases found with
    | delete => cases kind <;> simp
    | select => cases kind <;> simp
    | insert => cases kind <;> simp
    | update => cases kind <;> simp

theorem judgeCode_eq_ok_iff (g : Guard) (code : Text) (kind : CommandKind) :
    g.judgeCode code = .ok kind ↔
      g.command? code ((code.takeWhile isCommandChar).map Char.toUpper) = some kind ∧
        findWord g.forbiddenWords none code = none := by
  unfold judgeCode
  generalize (code.takeWhile isCommandChar).map Char.toUpper = keyword
  dsimp only
  by_cases hempty : keyword.isEmpty = true
  · obtain rfl := List.isEmpty_iff.mp hempty
    have hnone : g.command? code [] ≠ some kind := by
      rw [Ne, command?_eq_some_iff]
      rintro ⟨hname, -⟩
      cases kind <;> simp [CommandKind.name] at hname
    simp [hnone]
  · rw [if_neg hempty]
    cases g.command? code keyword with
    | none => simp
    | some found => cases findWord g.forbiddenWords none code <;> simp

theorem judge_eq_ok_iff (g : Guard) (statement : Text) (kind : CommandKind) :
    g.judge statement = .ok kind ↔ allBlank statement = false ∧
      (∀ s ∈ segments g.dialect statement, segmentFault? s = none) ∧
      (statements (segments g.dialect statement)).length ≤ 1 ∧
      g.judgeCode (leadingCode (segments g.dialect statement)) = .ok kind := by
  unfold judge
  dsimp only
  rw [← List.findSome?_eq_none_iff, ← Nat.not_lt]
  cases allBlank statement with
  | true => simp
  | false =>
    cases (segments g.dialect statement).findSome? segmentFault? with
    | some fault => simp
    | none =>
      by_cases hstacked : 1 < (statements (segments g.dialect statement)).length <;>
        simp [hstacked]

/-! The verdict -/

theorem isKeyword_forbiddenWords (g : Guard) : ∀ word ∈ g.forbiddenWords, IsKeyword word := by
  cases hg : g.softDelete <;> simp only [forbiddenWords, hg] <;> decide

/-- A search of the code finds a word where a segment of code holds it. -/
theorem isSome_findWord_leadingCode {words : List Text} (hwords : ∀ word ∈ words, IsKeyword word)
    {segs : List Segment} (h : Apart segs) :
    (findWord words none (leadingCode segs)).isSome = true ↔
      ∃ t, .code t ∈ segs ∧ ∃ word ∈ words, HoldsWord word t := by
  have hdrop : leadingCode segs = (codeText segs).dropWhile isIdle := rfl
  rw [hdrop, Text.isSome_findWord_dropWhile hwords fun _ => isWordChar_of_isIdle,
    isSome_findWord_codeText hwords h]
  simp only [Text.isSome_findWord_iff hwords]

theorem Leads.exists_mem_textOf {run : Text} {segs : List Segment} (h : Leads run segs) :
    ∃ c ∈ textOf segs, isCommandChar c = true := by
  induction h with
  | comment _ ih =>
    obtain ⟨c, hc, hcommand⟩ := ih
    exact ⟨c, by simp [textOf_cons, hc], hcommand⟩
  | idle _ _ ih =>
    obtain ⟨c, hc, hcommand⟩ := ih
    exact ⟨c, by simp [textOf_cons, hc], hcommand⟩
  | here _ hrun hcommand _ =>
    obtain ⟨c, hc⟩ := List.exists_mem_of_ne_nil _ hrun
    exact ⟨c, by simp [textOf_cons, Segment.text, hc], hcommand c hc⟩

theorem Leads.allBlank_textOf {run : Text} {segs : List Segment} (h : Leads run segs) :
    allBlank (textOf segs) = false := by
  obtain ⟨c, hc, hcommand⟩ := h.exists_mem_textOf
  have hidle := isIdle_of_isCommandChar hcommand
  rw [isIdle, Bool.or_eq_false_iff] at hidle
  rw [allBlank, List.all_eq_false]
  exact ⟨c, hc, by simp [hidle.1]⟩

theorem Leads.single_iff {run : Text} {segs : List Segment} (h : Leads run segs) :
    (stretches segs).countP hasContent = 1 ↔ (statements segs).length ≤ 1 := by
  have hpos : 0 < (stretches segs).countP hasContent := by
    rw [List.countP_pos_iff, ← List.any_eq_true, any_hasContent_stretches]
    exact h.any_isSubstantial
  rw [statements, List.length_map, ← List.countP_eq_length_filter]
  omega

theorem names_iff (g : Guard) {segs : List Segment} (h : Apart segs) (run : Text)
    (kind : CommandKind) : g.Names segs run kind ↔
      g.command? (leadingCode segs) (run.map Char.toUpper) = some kind := by
  have hlimit : Text.hasWord "LIMIT".toList (leadingCode segs) = true ↔
      ∃ t, .code t ∈ segs ∧ HoldsWord "LIMIT".toList t := by
    have hword : ∀ word ∈ ["LIMIT".toList], IsKeyword word := by decide
    rw [Text.hasWord, isSome_findWord_leadingCode hword h]
    simp only [List.mem_singleton, exists_eq_left]
  rw [command?_eq_some_iff, hlimit]
  rfl

theorem judge_eq_ok_iff_permits (g : Guard) (statement : Text) (kind : CommandKind) :
    g.judge statement = .ok kind ↔ g.Permits (segments g.dialect statement) kind := by
  have hapart : Apart (segments g.dialect statement) :=
    (isScan_segmentsAfter g.dialect [] statement).apart
  have htext := textOf_segments g.dialect statement
  rw [judge_eq_ok_iff, judgeCode_eq_ok_iff, ← names_iff g hapart]
  generalize segments g.dialect statement = segs at hapart htext ⊢
  constructor
  · rintro ⟨-, hfaults, hlength, hnames, hfind⟩
    have hrun : (leadingCode segs).takeWhile isCommandChar ≠ [] := by
      intro hnil
      have hname := hnames.1
      rw [hnil] at hname
      cases kind <;> simp [CommandKind.name] at hname
    have hleads := (leads_iff hapart).mpr ⟨hrun, rfl⟩
    refine ⟨?_, ?_, hleads.single_iff.mpr hlength, ⟨_, hleads, hnames⟩, ?_⟩
    · intro s hs
      exact ((segmentFault?_eq_none_iff s).mp (hfaults s hs)).1
    · intro s hs
      exact ((segmentFault?_eq_none_iff s).mp (hfaults s hs)).2
    · intro t ht word hword hholds
      have hfound := (isSome_findWord_leadingCode (isKeyword_forbiddenWords g) hapart).mpr
        ⟨t, ht, word, hword, hholds⟩
      rw [hfind] at hfound
      cases hfound
  · rintro ⟨hclosed, hinert, hsingle, ⟨run, hleads, hnames⟩, hharmless⟩
    obtain ⟨-, hrun⟩ := (leads_iff hapart).mp hleads
    refine ⟨htext ▸ hleads.allBlank_textOf, ?_, hleads.single_iff.mp hsingle, hrun ▸ hnames, ?_⟩
    · intro s hs
      exact (segmentFault?_eq_none_iff s).mpr ⟨hclosed s hs, hinert s hs⟩
    · rw [← Option.not_isSome_iff_eq_none,
        isSome_findWord_leadingCode (isKeyword_forbiddenWords g) hapart]
      rintro ⟨t, ht, word, hword, hholds⟩
      exact hharmless t ht word hword hholds

/-- A guard accepts exactly the statements whose segments it permits, and as the commands that
they lead with; it refuses every other. -/
theorem classify_eq_ok_iff_permits (g : Guard) (statement : Text) :
    (∀ kind, g.classify (.text statement) = .ok kind ↔
      g.Permits (segments g.dialect statement) kind) ∧
    ((∃ fault, g.classify (.text statement) = .error fault) ↔
      ∀ kind, ¬ g.Permits (segments g.dialect statement) kind) := by
  have hverdict : ∀ kind, g.classify (.text statement) = .ok kind ↔
      g.Permits (segments g.dialect statement) kind := g.judge_eq_ok_iff_permits statement
  refine ⟨hverdict, ?_⟩
  simp only [← hverdict]
  cases g.classify (.text statement) with
  | error fault => simp
  | ok kind => simp

end Guard

end GuardedSql
