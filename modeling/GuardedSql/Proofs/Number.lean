import GuardedSql.Literal
import GuardedSql.Proofs.Layout
import GuardedSql.Proofs.Result

/-! The literals of values that are no texts. They are code wherever they stand: they open
nothing, complete no opener with what is around them, and leave no lone `e` before a quote. -/

namespace GuardedSql.Literal

open Sql
open Text (isBlank)

/-- Characters that an opener may start with. -/
def mayOpen (c : Char) : Bool := c == '\'' || c == '#' || c == '-' || c == '/'

/-- A text that is code, whatever is around it. -/
structure FitsCode (d : Dialect) (t : Text) : Prop where
  plain : ∀ after, Plain d after t
  /-- The first character is no second half of an opener, and no blank either. -/
  head : ∃ c u, t = c :: u ∧ c ≠ '-' ∧ c ≠ '*' ∧ isBlank c = false
  unmarked : ∀ before, followsEscapeMark (t.reverse ++ before) = false

theorem opener?_of_not_mayOpen {d : Dialect} {c : Char} (h : mayOpen c = false) (b t : Text) :
    opener? d b (c :: t) = none := by
  rw [opener?.eq_def]
  split <;> simp_all [mayOpen]

theorem opener?_minus {d : Dialect} {c : Char} (h : c ≠ '-') (b t : Text) :
    opener? d b ('-' :: c :: t) = none := by
  rw [opener?.eq_def]
  split <;> simp_all

theorem plain_of_forall {d : Dialect} {after t : Text} (h : ∀ c ∈ t, mayOpen c = false) :
    Plain d after t := by
  induction t with
  | nil => trivial
  | cons c t ih =>
    exact ⟨opener?_of_not_mayOpen (h c (by simp)) _ _, ih fun x hx => h x (by simp [hx])⟩

/-! Digits -/

def AllDigits (t : Text) : Prop := ∀ c ∈ t, c.isDigit = true

theorem ne_of_isDigit {c e : Char} (hc : c.isDigit = true) (he : e.isDigit = false) : c ≠ e := by
  rintro rfl
  rw [hc] at he
  cases he

theorem mayOpen_of_isDigit {c : Char} (h : c.isDigit = true) : mayOpen c = false := by
  have hquote : c ≠ '\'' := ne_of_isDigit h (by decide)
  have hhash : c ≠ '#' := ne_of_isDigit h (by decide)
  have hminus : c ≠ '-' := ne_of_isDigit h (by decide)
  have hslash : c ≠ '/' := ne_of_isDigit h (by decide)
  simp [mayOpen, hquote, hhash, hminus, hslash]

theorem isBlank_of_isDigit {c : Char} (h : c.isDigit = true) : isBlank c = false := by
  simp only [Char.isDigit, Bool.and_eq_true, decide_eq_true_eq] at h
  have hlow : 48 ≤ c.toNat := by simpa [UInt32.le_iff_toNat_le] using h.1
  have hhigh : c.toNat ≤ 57 := by simpa [UInt32.le_iff_toNat_le] using h.2
  simp only [isBlank, Bool.or_eq_false_iff, Bool.and_eq_false_iff, decide_eq_false_iff_not,
    beq_eq_false_iff_ne]
  omega

theorem AllDigits.append {t u : Text} (ht : AllDigits t) (hu : AllDigits u) :
    AllDigits (t ++ u) := by
  intro c hc
  rcases List.mem_append.mp hc with h | h
  · exact ht c h
  · exact hu c h

theorem AllDigits.take {t : Text} (h : AllDigits t) (n : Nat) : AllDigits (t.take n) := by
  intro c hc
  exact h c (List.mem_of_mem_take hc)

theorem AllDigits.drop {t : Text} (h : AllDigits t) (n : Nat) : AllDigits (t.drop n) := by
  intro c hc
  exact h c (List.mem_of_mem_drop hc)

theorem allDigits_natText (n : Nat) : AllDigits (Decimal.natText n) :=
  fun _ hc => Nat.isDigit_of_mem_toDigits (by decide) (by decide) hc

theorem natText_ne_nil (n : Nat) : Decimal.natText n ≠ [] := Nat.toDigits_ne_nil

theorem allDigits_zeros (n : Nat) : AllDigits (Decimal.zeros n) := by
  intro c hc
  rw [List.eq_of_mem_replicate hc]
  decide

theorem allDigits_significant {t : Text} (h : AllDigits t) :
    AllDigits (Decimal.significant t) := by
  refine (h.take _).append ?_
  intro c hc
  have hdrop := List.mem_reverse.mp ((List.dropWhile_sublist _).mem (List.mem_reverse.mp hc))
  exact h.drop _ c hdrop

theorem significant_ne_nil {t : Text} (h : t ≠ []) : Decimal.significant t ≠ [] := by
  cases t with
  | nil => exact absurd rfl h
  | cons c t => simp [Decimal.significant]

/-! Written numbers -/

/-- A number without a sign as it may be written: from a digit to a digit, opening nothing. -/
structure IsMagnitude (t : Text) : Prop where
  plain : ∀ d after, Plain d after t
  starts : ∃ c u, t = c :: u ∧ c.isDigit = true
  ends : ∃ u c, t = u ++ [c] ∧ c.isDigit = true

theorem IsMagnitude.ofDigits {t : Text} (hne : t ≠ []) (h : AllDigits t) : IsMagnitude t where
  plain _ _ := plain_of_forall fun c hc => mayOpen_of_isDigit (h c hc)
  starts := by
    cases t with
    | nil => exact absurd rfl hne
    | cons c u => exact ⟨c, u, rfl, h c (by simp)⟩
  ends := ⟨t.dropLast, t.getLast hne, (List.dropLast_concat_getLast hne).symm,
    h _ (List.getLast_mem hne)⟩

/-- Digits, something between that may end in a sign, and digits again. -/
theorem IsMagnitude.between {t u v : Text} (ht : IsMagnitude t)
    (hu : ∀ d c after, c.isDigit = true → Plain d (c :: after) u) (hv : IsMagnitude v) :
    IsMagnitude (t ++ u ++ v) where
  plain d after := by
    obtain ⟨c, w, hcw, hc⟩ := hv.starts
    rw [Plain.append, Plain.append]
    refine ⟨⟨ht.plain d _, ?_⟩, hv.plain d _⟩
    rw [hcw]
    exact hu d c _ hc
  starts := by
    obtain ⟨c, w, rfl, hc⟩ := ht.starts
    exact ⟨c, w ++ u ++ v, by simp, hc⟩
  ends := by
    obtain ⟨w, c, rfl, hc⟩ := hv.ends
    exact ⟨t ++ u ++ w, c, by simp, hc⟩

theorem plain_mark {c : Char} (h : mayOpen c = false) (d : Dialect) (after : Text) :
    Plain d after [c] := plain_of_forall (by simpa using h)

theorem isMagnitude_inPlace {digits : Text} (hne : digits ≠ []) (h : AllDigits digits)
    (point : Int) : IsMagnitude (Decimal.inPlace ['.', '0'] digits point) := by
  have hzero : IsMagnitude ['0'] := .ofDigits (by simp) (allDigits_zeros 1)
  have hpoint : ∀ d c after, c.isDigit = true → Plain d (c :: after) ['.'] :=
    fun d _ _ _ => plain_mark (by decide) d _
  unfold Decimal.inPlace
  split
  · have hrest : IsMagnitude (Decimal.zeros (-point).toNat ++ digits) :=
      .ofDigits (by simp [hne]) ((allDigits_zeros _).append h)
    simpa using hzero.between hpoint hrest
  · dsimp only
    split
    · have hwhole : IsMagnitude (digits ++ Decimal.zeros (point.toNat - digits.length)) :=
        .ofDigits (by simp [hne]) (h.append (allDigits_zeros _))
      simpa using hwhole.between hpoint hzero
    · rename_i hpos hlen
      have htake : IsMagnitude (digits.take point.toNat) :=
        .ofDigits (by simp [hne]; omega) (h.take _)
      have hdrop : IsMagnitude (digits.drop point.toNat) :=
        .ofDigits (by simp; omega) (h.drop _)
      simpa using htake.between hpoint hdrop

/-- A sign of an exponent stands before a digit, so that no two signs meet. -/
theorem plain_sign (e : Int) (d : Dialect) {c : Char} (hc : c.isDigit = true) (after : Text) :
    Plain d (c :: after) (if e < 0 then ['-'] else ['+']) := by
  split
  · exact ⟨opener?_minus (ne_of_isDigit hc (by decide)) _ _, trivial⟩
  · exact plain_mark (by decide) d _

theorem isMagnitude_scientific {digits : Text} (hne : digits ≠ []) (h : AllDigits digits)
    (e : Int) : IsMagnitude (Decimal.scientific digits e) := by
  have hfirst : IsMagnitude (digits.take 1) :=
    .ofDigits (by simp [hne]) (h.take 1)
  have hexponent : IsMagnitude (Decimal.zeros (2 - (Decimal.natText e.natAbs).length) ++
      Decimal.natText e.natAbs) :=
    .ofDigits (by simp [natText_ne_nil]) ((allDigits_zeros _).append (allDigits_natText _))
  have hfraction : ∀ d after, Plain d after
      (if (digits.drop 1).isEmpty then [] else '.' :: digits.drop 1) := by
    intro d after
    split
    · trivial
    · refine plain_of_forall ?_
      intro c hc
      rcases List.mem_cons.mp hc with rfl | hc
      · decide
      · exact mayOpen_of_isDigit (h.drop 1 c hc)
  have hmiddle : ∀ d c after, c.isDigit = true → Plain d (c :: after)
      ((if (digits.drop 1).isEmpty then [] else '.' :: digits.drop 1) ++ ['e'] ++
        (if e < 0 then ['-'] else ['+'])) := by
    intro d c after hc
    rw [Plain.append, Plain.append]
    exact ⟨⟨hfraction d _, plain_mark (by decide) d _⟩, plain_sign e d hc after⟩
  have hall := hfirst.between hmiddle hexponent
  simpa [Decimal.scientific, Decimal.exponentText] using hall

/-- A magnitude is written in one of two ways. -/
theorem magnitudeText_cases (s : Decimal.Scaled) : ∃ e : Int,
    Decimal.magnitudeText s
        = Decimal.inPlace ['.', '0'] (Decimal.significant (Decimal.natText s.digits)) (e + 1) ∨
      Decimal.magnitudeText s
        = Decimal.scientific (Decimal.significant (Decimal.natText s.digits)) e := by
  obtain ⟨e, he⟩ : ∃ e : Int, Decimal.magnitudeText s
      = if -4 ≤ e && e < 16 then
          Decimal.inPlace ['.', '0'] (Decimal.significant (Decimal.natText s.digits)) (e + 1)
        else Decimal.scientific (Decimal.significant (Decimal.natText s.digits)) e :=
    ⟨_, rfl⟩
  refine ⟨e, ?_⟩
  rw [he]
  split
  · exact .inl rfl
  · exact .inr rfl

theorem isMagnitude_magnitudeText (s : Decimal.Scaled) :
    IsMagnitude (Decimal.magnitudeText s) := by
  have hne := significant_ne_nil (natText_ne_nil s.digits)
  have hall := allDigits_significant (allDigits_natText s.digits)
  obtain ⟨e, he | he⟩ := magnitudeText_cases s
  · rw [he]
    exact isMagnitude_inPlace hne hall _
  · rw [he]
    exact isMagnitude_scientific hne hall _

/-! Literals of numbers -/

theorem followsEscapeMark_of_isDigit {c : Char} (h : c.isDigit = true) (before : Text) :
    followsEscapeMark (c :: before) = false := by
  have hlower : c ≠ 'e' := ne_of_isDigit h (by decide)
  have hupper : c ≠ 'E' := ne_of_isDigit h (by decide)
  simp [followsEscapeMark, hlower, hupper]

theorem IsMagnitude.fitsCode {t : Text} (h : IsMagnitude t) (d : Dialect) : FitsCode d t where
  plain := h.plain d
  head := by
    obtain ⟨c, u, rfl, hc⟩ := h.starts
    exact ⟨c, u, rfl, ne_of_isDigit hc (by decide), ne_of_isDigit hc (by decide),
      isBlank_of_isDigit hc⟩
  unmarked before := by
    obtain ⟨u, c, rfl, hc⟩ := h.ends
    simpa using followsEscapeMark_of_isDigit hc _

/-- A negative number in its brackets. -/
theorem IsMagnitude.fitsCode_negative {t : Text} (h : IsMagnitude t) (d : Dialect) :
    FitsCode d ('(' :: '-' :: t ++ [')']) where
  plain after := by
    obtain ⟨c, u, hcu, hc⟩ := h.starts
    have hminus : Plain d (t ++ [')'] ++ after) ['-'] := by
      rw [hcu]
      exact ⟨opener?_minus (ne_of_isDigit hc (by decide)) _ _, trivial⟩
    have hsplit : '(' :: '-' :: t ++ [')'] = ['('] ++ (['-'] ++ (t ++ [')'])) := by simp
    rw [hsplit, Plain.append, Plain.append, Plain.append]
    exact ⟨plain_mark (by decide) d _, hminus, h.plain d _, plain_mark (by decide) d _⟩
  head := ⟨'(', '-' :: t ++ [')'], rfl, by decide, by decide, by decide⟩
  unmarked before := by simp [followsEscapeMark]

theorem fitsCode_ofNumber {t : Text} (h : IsMagnitude t) (negative : Bool) (d : Dialect) :
    FitsCode d (ofNumber ((if negative then ['-'] else []) ++ t)) := by
  cases negative with
  | true => simpa [ofNumber] using h.fitsCode_negative d
  | false =>
    obtain ⟨c, u, hcu, hc⟩ := h.starts
    have hhead : (t.head? == some '-') = false := by
      rw [hcu]
      simp [ne_of_isDigit hc (by decide : '-'.isDigit = false)]
    simpa [ofNumber, hhead] using h.fitsCode d

theorem fitsCode_int (n : Int) (d : Dialect) : FitsCode d (ofNumber (Value.intText n)) := by
  have h : IsMagnitude (Decimal.natText n.natAbs) :=
    .ofDigits (natText_ne_nil _) (allDigits_natText _)
  have := fitsCode_ofNumber h (decide (n < 0)) d
  by_cases hn : n < 0 <;> simpa [Value.intText, hn] using this

theorem fitsCode_float {bits : UInt64} (h : (Decimal.Binary64.ofBits bits).isFinite = true)
    (d : Dialect) : FitsCode d (ofNumber (Decimal.text bits)) := by
  unfold Decimal.text
  cases hbits : Decimal.Binary64.ofBits bits with
  | finite negative m q => exact fitsCode_ofNumber (isMagnitude_magnitudeText _) negative d
  | infinite negative => simp [hbits, Decimal.Binary64.isFinite] at h
  | notANumber => simp [hbits, Decimal.Binary64.isFinite] at h

/-! Keywords -/

theorem fitsCode_null (d : Dialect) : FitsCode d "NULL".toList where
  plain _ := plain_of_forall (by simp [mayOpen])
  head := ⟨'N', "ULL".toList, rfl, by decide, by decide, by decide⟩
  unmarked _ := rfl

/-- The last letter is an `E`, but with a letter before it. -/
theorem fitsCode_bool (b : Bool) (d : Dialect) :
    FitsCode d (if b then "TRUE" else "FALSE").toList := by
  cases b with
  | true =>
    exact ⟨fun _ => plain_of_forall (by simp [mayOpen]),
      ⟨'T', "RUE".toList, rfl, by decide, by decide, by decide⟩, fun _ => rfl⟩
  | false =>
    exact ⟨fun _ => plain_of_forall (by simp [mayOpen]),
      ⟨'F', "ALSE".toList, rfl, by decide, by decide, by decide⟩, fun _ => rfl⟩

/-! Values -/

/-- The literals of values that are no texts. -/
theorem encode_cases {escape : Escaper} {v : Value} {literal : Text} (hv : v.text? = none)
    (h : encode escape v = .ok literal) :
    literal = "NULL".toList ∨ (∃ b : Bool, literal = (if b then "TRUE" else "FALSE").toList) ∨
      (∃ n, literal = ofNumber (Value.intText n)) ∨
      ∃ bits, (Decimal.Binary64.ofBits bits).isFinite = true ∧
        literal = ofNumber (Decimal.text bits) := by
  cases v with
  | null => exact .inl (Except.ok.inj h).symm
  | bool b => exact .inr (.inl ⟨b, (Except.ok.inj h).symm⟩)
  | int n =>
    have hint : ofInt n = .ok literal := Result.mapError_eq_ok h
    unfold ofInt at hint
    split at hint
    · exact .inr (.inr (.inl ⟨n, (Except.ok.inj hint).symm⟩))
    · cases hint
  | float bits =>
    have hfloat : ofFloat bits = .ok literal := Result.mapError_eq_ok h
    unfold ofFloat at hfloat
    split at hfloat
    · rename_i hfinite
      exact .inr (.inr (.inr ⟨bits, hfinite, (Except.ok.inj hfloat).symm⟩))
    · cases hfloat
  | text t => simp [Value.text?] at hv
  | markup t => simp [Value.text?] at hv
  | list _ => simp [encode] at h
  | tuple _ => simp [encode] at h
  | mapping _ => simp [encode] at h
  | bytes _ _ => simp [encode] at h
  | decimal _ => simp [encode] at h
  | foreign _ => simp [encode] at h

theorem fitsCode_encode {escape : Escaper} {v : Value} {literal : Text} (hv : v.text? = none)
    (h : encode escape v = .ok literal) (d : Dialect) : FitsCode d literal := by
  rcases encode_cases hv h with rfl | ⟨b, rfl⟩ | ⟨n, rfl⟩ | ⟨bits, hfinite, rfl⟩
  · exact fitsCode_null d
  · exact fitsCode_bool b d
  · exact fitsCode_int n d
  · exact fitsCode_float hfinite d

/-! Characters -/

/-- Characters that numbers and keywords are written with. -/
def isFigure (c : Char) : Bool :=
  c.isAlphanum || c == '.' || c == '+' || c == '-' || c == '(' || c == ')'

def AllFigures (t : Text) : Prop := ∀ c ∈ t, isFigure c = true

theorem AllFigures.cons {c : Char} {t : Text} (hc : isFigure c = true) (ht : AllFigures t) :
    AllFigures (c :: t) := List.forall_mem_cons.mpr ⟨hc, ht⟩

theorem AllFigures.append {t u : Text} (ht : AllFigures t) (hu : AllFigures u) :
    AllFigures (t ++ u) := List.forall_mem_append.mpr ⟨ht, hu⟩

theorem AllDigits.allFigures {t : Text} (h : AllDigits t) : AllFigures t := by
  intro c hc
  simp [isFigure, Char.isAlphanum, h c hc]

theorem allFigures_inPlace {digits : Text} (h : AllDigits digits) (point : Int) :
    AllFigures (Decimal.inPlace ['.', '0'] digits point) := by
  unfold Decimal.inPlace
  split
  · exact (AllFigures.cons rfl (.cons rfl (allDigits_zeros _).allFigures)).append h.allFigures
  · dsimp only
    split
    · have hending : AllFigures ['.', '0'] := .cons rfl (.cons rfl (by rintro c ⟨⟩))
      exact (h.append (allDigits_zeros _)).allFigures.append hending
    · exact (h.take _).allFigures.append (.cons rfl (h.drop _).allFigures)

theorem allFigures_scientific {digits : Text} (h : AllDigits digits) (e : Int) :
    AllFigures (Decimal.scientific digits e) := by
  have hfraction : AllFigures (if (digits.drop 1).isEmpty then [] else '.' :: digits.drop 1) := by
    split
    · rintro c ⟨⟩
    · exact .cons rfl (h.drop 1).allFigures
  have hsign : AllFigures (if e < 0 then ['-'] else ['+']) := by
    split <;> exact .cons rfl (by rintro c ⟨⟩)
  have hdigits : AllDigits (Decimal.zeros (2 - (Decimal.natText e.natAbs).length) ++
      Decimal.natText e.natAbs) :=
    (allDigits_zeros _).append (allDigits_natText _)
  have hexponent := hsign.append hdigits.allFigures
  rw [← List.append_assoc] at hexponent
  exact ((h.take 1).allFigures.append hfraction).append (.cons rfl hexponent)

theorem allFigures_magnitudeText (s : Decimal.Scaled) :
    AllFigures (Decimal.magnitudeText s) := by
  have hdigits := allDigits_significant (allDigits_natText s.digits)
  obtain ⟨e, he | he⟩ := magnitudeText_cases s
  · rw [he]
    exact allFigures_inPlace hdigits _
  · rw [he]
    exact allFigures_scientific hdigits _

theorem AllFigures.ofNumber {t : Text} (h : AllFigures t) : AllFigures (ofNumber t) := by
  unfold Literal.ofNumber
  split
  · exact (AllFigures.cons rfl h).append (.cons rfl (by rintro c ⟨⟩))
  · exact h

theorem allFigures_int (n : Int) : AllFigures (ofNumber (Value.intText n)) := by
  have hdigits := (allDigits_natText n.natAbs).allFigures
  refine AllFigures.ofNumber ?_
  unfold Value.intText
  split
  · exact .cons rfl hdigits
  · exact hdigits

theorem allFigures_float {bits : UInt64}
    (h : (Decimal.Binary64.ofBits bits).isFinite = true) :
    AllFigures (ofNumber (Decimal.text bits)) := by
  refine AllFigures.ofNumber ?_
  unfold Decimal.text
  cases hbits : Decimal.Binary64.ofBits bits with
  | finite negative m q =>
    have hmagnitude := allFigures_magnitudeText (Decimal.shortest m q)
    cases negative with
    | true => exact .cons rfl hmagnitude
    | false => exact hmagnitude
  | infinite negative => simp [hbits, Decimal.Binary64.isFinite] at h
  | notANumber => simp [hbits, Decimal.Binary64.isFinite] at h

/-- The literal of a value that is no text has no characters but these. -/
theorem allFigures_encode {escape : Escaper} {v : Value} {literal : Text} (hv : v.text? = none)
    (h : encode escape v = .ok literal) : AllFigures literal := by
  rcases encode_cases hv h with rfl | ⟨b, rfl⟩ | ⟨n, rfl⟩ | ⟨bits, hfinite, rfl⟩
  · simp [AllFigures, isFigure]
  · cases b <;> simp [AllFigures, isFigure]
  · exact allFigures_int n
  · exact allFigures_float hfinite

end GuardedSql.Literal
