import GuardedSql.Proofs.Filling

/-! Which templates can be filled. A hole is filled with the literal of its index if it asks, by a
numeral of not too many digits, for a value that is there. Holes are filled in order, so that the
first one that cannot be decides how the filling fails. -/

namespace GuardedSql.Template

open Sql
open Text (isNumeral natValue)

/-- A token that one of so many values is found for. -/
structure Fillable (count : Nat) (token : Text) : Prop where
  numeral : isNumeral token = true
  short : token.length ≤ Value.digitLimit
  inRange : natValue token < count

/-- A numeral that is too long to be read as a number. -/
def Overlong (token : Text) : Prop := isNumeral token = true ∧ Value.digitLimit < token.length

def fillHole (literals : List Text) (token : Text) : Except Failure Text :=
  fillPiece literals (.hole token)

/-! Holes in a text -/

theorem holeToken?_append {token : Text} (h : ∀ c ∈ token, isBrace c = false) (rest : Text) :
    holeToken? (token ++ '\x7d' :: rest) = some (token, rest) := by
  induction token with
  | nil => rfl
  | cons c token ih =>
    obtain ⟨hc, htoken⟩ := List.forall_mem_cons.mp h
    simp only [isBrace, Bool.or_eq_false_iff] at hc
    simp [holeToken?, hc.1, hc.2, ih htoken]

theorem pieces_char {c : Char} (hc : c ≠ '\x7b') (t : Text) :
    pieces (c :: t) = .char c :: pieces t := by
  rw [pieces]
  split <;> simp_all

theorem pieces_hole {token : Text} (h : ∀ c ∈ token, isBrace c = false) (rest : Text) :
    pieces ('\x7b' :: (token ++ '\x7d' :: rest)) = .hole token :: pieces rest := by
  rw [pieces]
  split <;> simp_all [holeToken?_append h]

/-! One hole -/

theorem fillHole_of_fillable {literals : List Text} {token : Text}
    (h : Fillable literals.length token) :
    fillHole literals token = .ok (literals.get ⟨natValue token, h.inRange⟩) := by
  have hindex : readIndex token = .ok (natValue token) := if_pos h.short
  rw [fillHole, fillPiece, if_pos h.numeral, hindex]
  simp only [bind, Except.bind, List.getElem?_eq_getElem h.inRange]
  rfl

theorem fillHole_of_overlong {token : Text} (h : Overlong token) (literals : List Text) :
    fillHole literals token = .error (.tooManyDigits token.length) := by
  have hindex : readIndex token = .error (.tooManyDigits token.length) :=
    if_neg (Nat.not_le.mpr h.2)
  rw [fillHole, fillPiece, if_pos h.1, hindex]
  rfl

/-- What is neither is the template's fault. -/
theorem fillHole_cases (literals : List Text) (token : Text) :
    Fillable literals.length token ∨ Overlong token ∨
      ∃ f, fillHole literals token = .error (fault f) := by
  cases hnumeral : isNumeral token with
  | false => exact .inr (.inr ⟨_, by rw [fillHole, fillPiece, hnumeral]; rfl⟩)
  | true =>
    by_cases hshort : token.length ≤ Value.digitLimit
    · by_cases hrange : natValue token < literals.length
      · exact .inl ⟨hnumeral, hshort, hrange⟩
      · have hindex : readIndex token = .ok (natValue token) := if_pos hshort
        refine .inr (.inr ⟨.missingValue (natValue token) literals.length, ?_⟩)
        rw [fillHole, fillPiece, if_pos hnumeral, hindex]
        simp only [bind, Except.bind, List.getElem?_eq_none (Nat.not_lt.mp hrange)]
        rfl
    · exact .inr (.inl ⟨hnumeral, Nat.not_le.mp hshort⟩)

theorem exists_fillHole_eq_ok_iff {literals : List Text} {token : Text} :
    (∃ literal, fillHole literals token = .ok literal) ↔ Fillable literals.length token := by
  constructor
  · rintro ⟨literal, hok⟩
    rcases fillHole_cases literals token with h | h | ⟨f, h⟩
    · exact h
    · cases hok.symm.trans (fillHole_of_overlong h literals)
    · cases hok.symm.trans h
  · intro h
    exact ⟨_, fillHole_of_fillable h⟩

theorem fillHole_eq_tooManyDigits_iff {literals : List Text} {token : Text} {n : Nat} :
    fillHole literals token = .error (.tooManyDigits n) ↔ Overlong token ∧ token.length = n := by
  constructor
  · intro herror
    rcases fillHole_cases literals token with h | h | ⟨f, h⟩
    · cases herror.symm.trans (fillHole_of_fillable h)
    · exact ⟨h, (Failure.tooManyDigits.inj (Except.error.inj
        (herror.symm.trans (fillHole_of_overlong h literals)))).symm⟩
    · cases herror.symm.trans h
  · rintro ⟨h, rfl⟩
    exact fillHole_of_overlong h literals

/-! All holes -/

/-- A text of code fails to be filled as its holes do. -/
theorem fillPieces_eq_error_iff {literals : List Text} {ps : List Piece} {f : Failure} :
    ps.mapM (fillPiece literals) = .error f ↔
      (ps.filterMap Piece.token?).mapM (fillHole literals) = .error f := by
  induction ps with
  | nil => rfl
  | cons p ps ih =>
    rw [Result.mapM_cons_eq_error_iff, ih]
    cases p with
    | char c =>
      have hnone : Piece.token? (.char c) = none := rfl
      rw [List.filterMap_cons_none hnone]
      simp [fillPiece]
    | hole token =>
      have hsome : Piece.token? (.hole token) = some token := rfl
      rw [List.filterMap_cons_some hsome, Result.mapM_cons_eq_error_iff]
      rfl

theorem tokensIn_code_cons (s : Segment) (segs : List Segment) :
    tokensIn .code (s :: segs) = s.code?.elim [] tokens ++ tokensIn .code segs := by
  cases s <;> simp [tokensIn, Segment.kind, Segment.code?, Segment.text]

theorem fillSegment_eq_error_iff {literals : List Text} {s : Segment} {f : Failure} :
    fillSegment literals s = .error f ↔
      (s.code?.elim [] tokens).mapM (fillHole literals) = .error f := by
  cases s with
  | code t =>
    rw [fillSegment, Result.map_eq_error_iff, fillPieces_eq_error_iff]
    rfl
  | literal t closed => exact ⟨by rintro ⟨⟩, by rintro ⟨⟩⟩
  | comment t closed => exact ⟨by rintro ⟨⟩, by rintro ⟨⟩⟩

/-- Segments fail to be filled as the holes in code do. -/
theorem fillSegments_eq_error_iff {literals : List Text} {segs : List Segment} {f : Failure} :
    segs.mapM (fillSegment literals) = .error f ↔
      (tokensIn .code segs).mapM (fillHole literals) = .error f := by
  induction segs generalizing f with
  | nil => rfl
  | cons s segs ih =>
    rw [Result.mapM_cons_eq_error_iff, tokensIn_code_cons, Result.mapM_append_eq_error_iff,
      fillSegment_eq_error_iff, ih,
      Result.exists_eq_ok_congr fun _ => fillSegment_eq_error_iff]

theorem exists_fillSegments_eq_ok_iff {literals : List Text} {segs : List Segment} :
    (∃ ts, segs.mapM (fillSegment literals) = .ok ts) ↔
      ∀ token ∈ tokensIn .code segs, Fillable literals.length token := by
  rw [Result.exists_eq_ok_congr fun _ => fillSegments_eq_error_iff, Result.exists_mapM_eq_ok_iff]
  simp only [exists_fillHole_eq_ok_iff]

/-- The numeral that is too long to be read, where it is the first hole not to be filled. -/
theorem fillSegments_eq_tooManyDigits_iff {literals : List Text} {segs : List Segment} {n : Nat} :
    segs.mapM (fillSegment literals) = .error (.tooManyDigits n) ↔
      ∃ front token back, tokensIn .code segs = front ++ token :: back ∧
        (∀ before ∈ front, Fillable literals.length before) ∧ Overlong token ∧
        token.length = n := by
  rw [fillSegments_eq_error_iff, Result.mapM_eq_error_iff]
  simp only [exists_fillHole_eq_ok_iff, fillHole_eq_tooManyDigits_iff]

/-! Holes that no value can be for -/

theorem checkHoles_eq_ok_iff {segs : List Segment} : checkHoles segs = .ok () ↔
    ∀ kind, kind ≠ .code → ∀ token ∈ tokensIn kind segs, isNumeral token = false := by
  have hnone : ∀ kind, (tokensIn kind segs).find? isNumeral = none ↔
      ∀ token ∈ tokensIn kind segs, isNumeral token = false := by
    intro kind
    simp [List.find?_eq_none]
  constructor
  · intro h kind hkind
    unfold checkHoles at h
    split at h
    · cases h
    · rename_i hliteral
      split at h
      · cases h
      · rename_i hcomment
        cases kind with
        | code => exact absurd rfl hkind
        | literal => exact (hnone _).mp hliteral
        | comment => exact (hnone _).mp hcomment
  · intro h
    rw [checkHoles, (hnone .literal).mpr (h _ (by decide)),
      (hnone .comment).mpr (h _ (by decide))]

end GuardedSql.Template
