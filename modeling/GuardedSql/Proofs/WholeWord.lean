import GuardedSql.Text.Keyword
import Mathlib

/-! Words that stand in a text as a whole. The search finds one exactly if its letters stand
somewhere in the text, each in some case, with no word character on either side. A character
that belongs to no word parts a text: what is found stands on one side of it. -/

namespace GuardedSql.Text

/-- A text holds a word as a whole. -/
def HoldsWord (word t : Text) : Prop :=
  ∃ before hit after, t = before ++ hit ++ after ∧
    List.Forall₂ (fun letter c => sameLetter letter c = true) word hit ∧
    (∀ c ∈ before.getLast?, isWordChar c = false) ∧ ∀ c ∈ after.head?, isWordChar c = false

/-- A word as it may be searched for. -/
def IsKeyword (word : Text) : Prop := word ≠ [] ∧ ∀ letter ∈ word, letter.isUpper = true

instance (word : Text) : Decidable (IsKeyword word) :=
  decidable_of_iff (word.isEmpty = false ∧ word.all Char.isUpper = true) (by simp [IsKeyword])

/-! Characters -/

theorem atEdge_iff (c : Option Char) : atEdge c = true ↔ ∀ x ∈ c, isWordChar x = false := by
  cases c <;> simp [atEdge]

theorem isAlpha_of_isUpper_toUpper {c : Char} (h : c.toUpper.isUpper = true) :
    c.isAlpha = true := by
  by_cases hlower : c.isLower = true
  · simp [Char.isAlpha, hlower]
  · have hsame : c.toUpper = c := by
      unfold Char.toUpper
      rw [dif_neg]
      simpa [Char.isLower] using hlower
    rw [hsame] at h
    simp [Char.isAlpha, h]

theorem toNat_lt_of_isAlpha {c : Char} (h : c.isAlpha = true) : c.toNat < 128 := by
  simp only [Char.isAlpha, Char.isUpper, Char.isLower, Bool.or_eq_true, Bool.and_eq_true,
    decide_eq_true_eq] at h
  rcases h with ⟨-, h⟩ | ⟨-, h⟩
  · have hle : c.toNat ≤ 90 := by simpa [UInt32.le_iff_toNat_le] using h
    omega
  · have hle : c.toNat ≤ 122 := by simpa [UInt32.le_iff_toNat_le] using h
    omega

theorem isWordChar_of_isAlpha {c : Char} (h : c.isAlpha = true) : isWordChar c = true := by
  simp [isWordChar, isAlnum, toNat_lt_of_isAlpha h, Char.isAlphanum, h]

theorem isWordChar_of_sameLetter {letter c : Char} (hletter : letter.isUpper = true)
    (h : sameLetter letter c = true) : isWordChar c = true := by
  simp only [sameLetter, Bool.or_eq_true, Bool.and_eq_true, beq_iff_eq] at h
  rcases h with ((rfl | ⟨-, rfl | rfl⟩) | ⟨-, rfl⟩) | ⟨-, rfl⟩
  · exact isWordChar_of_isAlpha (isAlpha_of_isUpper_toUpper hletter)
  -- what Unicode folds to an ASCII letter is a letter
  all_goals decide +kernel

theorem isWordChar_of_isBlank {c : Char} (h : isBlank c = true) : isWordChar c = false := by
  have hblanks : ∀ n ∈ [9, 10, 11, 12, 13, 28, 29, 30, 31, 32, 0x85, 0xA0, 0x1680, 0x2000, 0x2001,
      0x2002, 0x2003, 0x2004, 0x2005, 0x2006, 0x2007, 0x2008, 0x2009, 0x200A, 0x2028, 0x2029,
      0x202F, 0x205F, 0x3000], isWordChar (Char.ofNat n) = false := by
    decide +kernel
  rw [← Char.ofNat_toNat c]
  apply hblanks
  simp only [isBlank, Bool.or_eq_true, Bool.and_eq_true, decide_eq_true_eq, beq_iff_eq] at h
  simp only [List.mem_cons, List.not_mem_nil, or_false]
  omega

/-! The search -/

theorem startsWithWord_iff (word t : Text) : startsWithWord word t = true ↔
    ∃ hit after, t = hit ++ after ∧
      List.Forall₂ (fun letter c => sameLetter letter c = true) word hit ∧
      ∀ c ∈ after.head?, isWordChar c = false := by
  induction word generalizing t with
  | nil =>
    rw [startsWithWord, atEdge_iff]
    constructor
    · intro h
      exact ⟨[], t, rfl, .nil, h⟩
    · rintro ⟨hit, after, rfl, hhit, hafter⟩
      cases hhit
      exact hafter
  | cons letter word ih =>
    constructor
    · intro h
      cases t with
      | nil => simp [startsWithWord] at h
      | cons c t =>
        rw [startsWithWord, Bool.and_eq_true, ih] at h
        obtain ⟨hc, hit, after, rfl, hhit, hafter⟩ := h
        exact ⟨c :: hit, after, rfl, .cons hc hhit, hafter⟩
    · rintro ⟨hit, after, rfl, hhit, hafter⟩
      cases hhit with
      | @cons _ c _ hit hc hhit =>
        rw [List.cons_append, startsWithWord, Bool.and_eq_true, ih]
        exact ⟨hc, hit, after, rfl, hhit, hafter⟩

theorem isSome_findWord_cons (words : List Text) (before : Option Char) (c : Char) (t : Text) :
    (findWord words before (c :: t)).isSome
      = ((atEdge before && words.any (startsWithWord · (c :: t))) ||
          (findWord words (some c) t).isSome) := by
  have hhere : (wordAt words (c :: t)).isSome = words.any (startsWithWord · (c :: t)) := by
    rw [Bool.eq_iff_iff, wordAt, Option.isSome_map, List.find?_isSome, List.any_eq_true]
  rw [findWord, ← hhere]
  cases atEdge before with
  | false => simp
  | true => cases wordAt words (c :: t) <;> simp

/-- Of what stands before, only the edge matters. -/
theorem isSome_findWord_congr {words : List Text} {before before' : Option Char}
    (h : atEdge before = atEdge before') (t : Text) :
    (findWord words before t).isSome = (findWord words before' t).isSome := by
  cases t with
  | nil => rfl
  | cons c t => rw [isSome_findWord_cons, isSome_findWord_cons, h]

theorem startsWithWord_append_cons {word : Text} (hword : ∀ letter ∈ word, letter.isUpper = true)
    {c : Char} (hc : isWordChar c = false) (u v : Text) :
    startsWithWord word (u ++ c :: v) = startsWithWord word u := by
  induction word generalizing u with
  | nil => cases u <;> simp [startsWithWord, atEdge, hc]
  | cons letter word ih =>
    obtain ⟨hletter, hword⟩ := List.forall_mem_cons.mp hword
    cases u with
    | cons e u => rw [List.cons_append, startsWithWord, startsWithWord, ih hword]
    | nil =>
      have hno : sameLetter letter c = false := by
        by_contra hsame
        rw [Bool.not_eq_false] at hsame
        rw [isWordChar_of_sameLetter hletter hsame] at hc
        cases hc
      simp [startsWithWord, hno]

section Keywords

variable {words : List Text} (hwords : ∀ word ∈ words, IsKeyword word)

include hwords

theorem isSome_findWord_iff_behind (before : Option Char) (t : Text) :
    (findWord words before t).isSome = true ↔
      ∃ word ∈ words, ∃ front hit after, t = front ++ hit ++ after ∧
        List.Forall₂ (fun letter c => sameLetter letter c = true) word hit ∧
        atEdge (front.getLast?.or before) = true ∧ ∀ c ∈ after.head?, isWordChar c = false := by
  induction t generalizing before with
  | nil =>
    rw [findWord]
    constructor
    · simp
    · rintro ⟨word, hword, front, hit, after, heq, hhit, -⟩
      obtain ⟨-, rfl, -⟩ : front = [] ∧ hit = [] ∧ after = [] := by simpa using heq.symm
      cases hhit
      exact absurd rfl (hwords [] hword).1
  | cons c t ih =>
    rw [isSome_findWord_cons, Bool.or_eq_true, Bool.and_eq_true, List.any_eq_true, ih]
    constructor
    · rintro (⟨hbefore, word, hword, hstarts⟩ | ⟨word, hword, front, hit, after, rfl, hhit, hedges⟩)
      · obtain ⟨hit, after, heq, hhit, hafter⟩ := (startsWithWord_iff word _).mp hstarts
        exact ⟨word, hword, [], hit, after, heq, hhit, by simpa using hbefore, hafter⟩
      · refine ⟨word, hword, c :: front, hit, after, rfl, hhit, ?_⟩
        cases hlast : front.getLast? <;> simpa [List.getLast?_cons, hlast] using hedges
    · rintro ⟨word, hword, front, hit, after, heq, hhit, hedge, hafter⟩
      cases front with
      | nil =>
        exact .inl ⟨by simpa using hedge, word, hword,
          (startsWithWord_iff word _).mpr ⟨hit, after, heq, hhit, hafter⟩⟩
      | cons e front =>
        obtain ⟨rfl, rfl⟩ := List.cons.inj heq
        refine .inr ⟨word, hword, front, hit, after, rfl, hhit, ?_, hafter⟩
        cases hlast : front.getLast? <;> simpa [List.getLast?_cons, hlast] using hedge

theorem isSome_findWord_iff (t : Text) :
    (findWord words none t).isSome = true ↔ ∃ word ∈ words, HoldsWord word t := by
  rw [isSome_findWord_iff_behind hwords]
  simp only [Option.or_none, atEdge_iff]
  rfl

/-- What is found stands on one side of a character that belongs to no word. -/
theorem isSome_findWord_append_cons {c : Char} (hc : isWordChar c = false) (before : Option Char)
    (u v : Text) : (findWord words before (u ++ c :: v)).isSome
      = ((findWord words before u).isSome || (findWord words none v).isSome) := by
  have hany : ∀ u : Text, words.any (startsWithWord · (u ++ c :: v))
      = words.any (startsWithWord · u) := by
    intro u
    rw [Bool.eq_iff_iff, List.any_eq_true, List.any_eq_true]
    refine exists_congr fun word => and_congr_right fun hword => ?_
    rw [startsWithWord_append_cons (hwords word hword).2 hc]
  induction u generalizing before with
  | nil =>
    have hnone : words.any (startsWithWord · []) = false := by
      rw [List.any_eq_false]
      intro word hword
      cases word with
      | nil => exact absurd rfl (hwords [] hword).1
      | cons letter word => simp [startsWithWord]
    have hedge : atEdge (some c) = atEdge none := by simp [atEdge, hc]
    rw [List.nil_append, isSome_findWord_cons, ← List.nil_append (c :: v), hany [], hnone,
      isSome_findWord_congr hedge]
    simp [findWord]
  | cons e u ih =>
    rw [List.cons_append, isSome_findWord_cons, ← List.cons_append, hany, ih, isSome_findWord_cons,
      Bool.or_assoc]

theorem isSome_findWord_cons_of_edge {c : Char} (hc : isWordChar c = false) (before : Option Char)
    (t : Text) : (findWord words before (c :: t)).isSome = (findWord words none t).isSome := by
  simpa [findWord] using isSome_findWord_append_cons hwords hc before [] t

/-- What is cut off in front, if it belongs to no word, is not searched. -/
theorem isSome_findWord_dropWhile {p : Char → Bool} (hp : ∀ c, p c = true → isWordChar c = false)
    (t : Text) : (findWord words none (t.dropWhile p)).isSome = (findWord words none t).isSome := by
  induction t with
  | nil => rfl
  | cons c t ih =>
    by_cases hc : p c = true
    · rw [List.dropWhile_cons_of_pos hc, ih, isSome_findWord_cons_of_edge hwords (hp c hc)]
    · rw [List.dropWhile_cons_of_neg hc]

end Keywords

end GuardedSql.Text
