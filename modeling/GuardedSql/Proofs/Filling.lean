import GuardedSql.Proofs.Body
import GuardedSql.Proofs.Number
import GuardedSql.Template

/-! Templates taken apart, and put together with literals in the place of their holes. What is
put in may be of two kinds: the literal of a text, in its quotes, or code that fits anywhere. So
the filled template is a layout again (`laid_filled`), and the text of that layout is the
statement (`eq_textOf_of_fill`). -/

namespace GuardedSql.Template

open Sql Literal
open Text (natValue isNumeral isBlank)

/-- A part of a template: a character of code, a hole in code, or a literal or comment whole. -/
inductive Part where
  | char (c : Char)
  | hole (token : Text)
  | literal (text : Text) (closed : Bool)
  | comment (text : Text) (closed : Bool)
  deriving DecidableEq, Repr

/-- A value with its literal. -/
abbrev Entry := Value × Text

namespace Part

def ofPiece : Piece → Part
  | .char c => .char c
  | .hole token => .hole token

def ofSegment : Segment → List Part
  | .code t => (pieces t).map ofPiece
  | .literal t closed => [.literal t closed]
  | .comment t closed => [.comment t closed]

/-- A part as it stands in the template. -/
def kept : Part → Segment
  | .char c => .code [c]
  | .hole token => .code (Piece.hole token).text
  | .literal t closed => .literal t closed
  | .comment t closed => .comment t closed

/-- What stands for a value: a text is a literal of its own, any other value is code. -/
def inserted (entry : Entry) : Segment :=
  if entry.1.text?.isSome then .literal entry.2 true else .code entry.2

/-- A part as it stands in the statement. -/
def filled (entries : List Entry) : Part → Segment
  | .char c => .code [c]
  | .hole token =>
    match entries[natValue token]? with
    | some entry => inserted entry
    | none => .code (Piece.hole token).text
  | .literal t closed => .literal t closed
  | .comment t closed => .comment t closed

end Part

/-- The parts of segments, in order. -/
def partsOf (segs : List Segment) : List Part := segs.flatMap Part.ofSegment

/-- The parts of a template, in order. -/
def parts (dialect : Dialect) (template : Text) : List Part := partsOf (segments dialect template)

/-- The segments of a template with the entries in the place of its holes: code that touches is
merged, all else is as it was. -/
def filledSegments (dialect : Dialect) (template : Text) (entries : List Entry) : List Segment :=
  assemble ((parts dialect template).map (Part.filled entries))

/-! The template as a layout of its parts -/

theorem kept_ofPiece (p : Piece) : (Part.ofPiece p).kept = .code p.text := by
  cases p <;> rfl

theorem Piece.text_ne_nil (p : Piece) : p.text ≠ [] := by
  cases p <;> simp [Piece.text]

theorem textOf_kept_pieces (ps : List Piece) (rest : List Segment) :
    textOf ((ps.map Part.ofPiece).map Part.kept ++ rest) = render ps ++ textOf rest := by
  induction ps with
  | nil => rfl
  | cons p ps ih =>
    rw [List.map_cons, List.map_cons, List.cons_append, textOf_cons, ih, kept_ofPiece]
    simp [Segment.text, render]

theorem laid_kept_pieces {d : Dialect} {ps : List Piece} {rest : List Segment}
    (h : Plain d (textOf rest) (render ps)) (hl : Laid d rest) :
    Laid d ((ps.map Part.ofPiece).map Part.kept ++ rest) := by
  induction ps with
  | nil => exact hl
  | cons p ps ih =>
    have hsplit : render (p :: ps) = p.text ++ render ps := by simp [render]
    rw [hsplit, Plain.append] at h
    rw [List.map_cons, List.map_cons, List.cons_append, kept_ofPiece]
    refine ⟨Piece.text_ne_nil p, ?_, ih h.2⟩
    rw [textOf_kept_pieces]
    exact h.1

theorem whole_kept_pieces {d : Dialect} {m : Bool} {b : Text} {ps : List Piece}
    {rest : List Segment} (hne : ps ≠ [])
    (hw : Whole d (followsEscapeMark ((render ps).reverse ++ b)) ((render ps).reverse ++ b) rest) :
    Whole d m b ((ps.map Part.ofPiece).map Part.kept ++ rest) := by
  induction ps generalizing m b with
  | nil => exact absurd rfl hne
  | cons p ps ih =>
    have hsplit : (render (p :: ps)).reverse ++ b
        = (render ps).reverse ++ (p.text.reverse ++ b) := by
      simp [render]
    rw [hsplit] at hw
    rw [List.map_cons, List.map_cons, List.cons_append, kept_ofPiece, Whole]
    cases ps with
    | nil => exact hw
    | cons q ps => exact ih (by simp) hw

theorem partsOf_cons (s : Segment) (segs : List Segment) :
    partsOf (s :: segs) = Part.ofSegment s ++ partsOf segs := rfl

theorem textOf_kept_partsOf (segs : List Segment) :
    textOf ((partsOf segs).map Part.kept) = textOf segs := by
  induction segs with
  | nil => rfl
  | cons s segs ih =>
    rw [partsOf_cons, List.map_append, textOf_cons, ← ih]
    cases s with
    | code t => rw [Part.ofSegment, textOf_kept_pieces, render_pieces, Segment.text]
    | literal t closed => exact textOf_cons _ _
    | comment t closed => exact textOf_cons _ _

theorem laid_kept {d : Dialect} {segs : List Segment} (hl : Laid d segs) :
    Laid d ((partsOf segs).map Part.kept) := by
  induction segs with
  | nil => trivial
  | cons s segs ih =>
    rw [partsOf_cons, List.map_append]
    cases s with
    | code t =>
      obtain ⟨-, hplain, hrest⟩ := hl
      refine laid_kept_pieces ?_ (ih hrest)
      rwa [textOf_kept_partsOf, render_pieces]
    | literal t closed =>
      obtain ⟨hquote, hopen, hrest⟩ := hl
      refine ⟨hquote, ?_, ih hrest⟩
      intro hclosed
      rw [hopen hclosed]
      rfl
    | comment t closed =>
      obtain ⟨hc, hrest⟩ := hl
      rw [← textOf_kept_partsOf] at hc
      exact ⟨hc, ih hrest⟩

theorem whole_kept {d : Dialect} {m : Bool} {b : Text} {segs : List Segment} (hl : Laid d segs)
    (hw : Whole d m b segs) : Whole d m b ((partsOf segs).map Part.kept) := by
  induction segs generalizing m b with
  | nil => trivial
  | cons s segs ih =>
    rw [partsOf_cons, List.map_append]
    cases s with
    | code t =>
      obtain ⟨hne, -, hrest⟩ := hl
      refine whole_kept_pieces ?_ ?_
      · intro hnil
        have hrender := render_pieces t
        rw [hnil] at hrender
        exact hne hrender.symm
      · rw [render_pieces]
        exact ih hrest hw
    | literal t closed => exact ⟨hw.1, ih hl.2.2 hw.2⟩
    | comment t closed => exact ih hl.2 hw

/-! What may be put in -/

/-- An entry as an encoder makes it. -/
inductive Fits (d : Dialect) : Entry → Prop
  | text {v : Value} {body : Text} : v.text?.isSome = true → Fits d (v, wrapped body)
  | code {v : Value} {literal : Text} : v.text? = none → FitsCode d literal → Fits d (v, literal)

theorem fits_of_encode {escape : Escaper} {v : Value} {literal : Text}
    (h : encode escape v = .ok literal) (d : Dialect) : Fits d (v, literal) := by
  cases hv : v.text? with
  | none => exact .code hv (fitsCode_encode hv h d)
  | some t =>
    obtain ⟨body, -, rfl⟩ := encode_text hv h
    exact .text (by simp [hv])

/-- Every hole has an entry that fits. -/
def Supplied (d : Dialect) (entries : List Entry) (ps : List Part) : Prop :=
  ∀ token, .hole token ∈ ps → ∃ entry, entries[natValue token]? = some entry ∧ Fits d entry

theorem Supplied.tail {d : Dialect} {entries : List Entry} {p : Part} {ps : List Part}
    (h : Supplied d entries (p :: ps)) : Supplied d entries ps := by
  intro token ht
  exact h token (List.mem_cons_of_mem p ht)

theorem text_inserted (entry : Entry) : (Part.inserted entry).text = entry.2 := by
  unfold Part.inserted
  split <;> rfl

theorem Fits.head {d : Dialect} {entry : Entry} (h : Fits d entry) :
    ∃ c u, entry.2 = c :: u ∧ c ≠ '-' ∧ c ≠ '*' ∧ isBlank c = false := by
  cases h with
  | text hv => exact ⟨_, _, rfl, by decide, by decide, by decide⟩
  | code hv hfits => exact hfits.head

/-! The statement as a layout of the filled parts -/

/-- Texts that look the same from the place before them: a hole gives way to what fits. -/
def LooksLike (t u : Text) : Prop :=
  t.head? = u.head? ∨
    (t.head? = some '\x7b' ∧ ∃ c v, u = c :: v ∧ c ≠ '-' ∧ c ≠ '*' ∧ isBlank c = false)

theorem opener?_congr {d : Dialect} {c : Char} {t u : Text} (h : opener? d [] (c :: t) = none)
    (hlook : LooksLike t u)
    (hminus : ∀ t', t = '-' :: t' → ∃ u', u = '-' :: u' ∧ LooksLike t' u') :
    opener? d [] (c :: u) = none := by
  have hc := ne_quote_of_opener?_eq_none h
  rw [opener?.eq_def]
  split
  · simp_all
  · rename_i heq
    obtain ⟨rfl, rfl⟩ := List.cons.inj heq
    simpa [opener?] using h
  · rename_i rest heq
    obtain ⟨rfl, rfl⟩ := List.cons.inj heq
    obtain ⟨t', rfl⟩ : ∃ t', t = '-' :: t' := by
      rcases hlook with hsame | ⟨-, e, v, heq', hne, -⟩
      · exact List.head?_eq_some_iff.mp (by simpa using hsame)
      · exact absurd (List.cons.inj heq').1.symm hne
    obtain ⟨u', heq', hlook'⟩ := hminus t' rfl
    obtain rfl := (List.cons.inj heq').2
    have hcond : ¬ (!d.hashComments || t'.head?.all isBlank) = true := by
      intro hcond
      simp [opener?, hcond] at h
    rw [if_neg]
    rcases hlook' with hsame | ⟨-, e, v, rfl, -, -, hblank⟩
    · rwa [← hsame]
    · have hhash : d.hashComments = true := by
        cases hd : d.hashComments <;> simp_all
      simp [hhash, hblank]
  · rename_i rest heq
    obtain ⟨rfl, rfl⟩ := List.cons.inj heq
    rcases hlook with hsame | ⟨-, e, v, heq', -, hne, -⟩
    · obtain ⟨t', rfl⟩ := List.head?_eq_some_iff.mp (by simpa using hsame : t.head? = some '*')
      simp [opener?] at h
    · exact absurd (List.cons.inj heq').1.symm hne
  · rfl

/-- One part of a filled template looks like the part of the template. -/
theorem looksLike_cons {d : Dialect} {entries : List Entry} {ps : List Part}
    (hl : Laid d (ps.map Part.kept)) (hs : Supplied d entries ps) :
    LooksLike (textOf (ps.map Part.kept)) (textOf (ps.map (Part.filled entries))) := by
  cases ps with
  | nil => exact .inl rfl
  | cons p ps =>
    rw [List.map_cons, List.map_cons, textOf_cons, textOf_cons]
    cases p with
    | char c => exact .inl rfl
    | hole token =>
      obtain ⟨entry, hget, hfits⟩ := hs token (by simp)
      obtain ⟨c, u, hcu, hc⟩ := hfits.head
      refine .inr ⟨rfl, c, u ++ textOf (ps.map (Part.filled entries)), ?_, hc⟩
      simp [Part.filled, hget, text_inserted, hcu]
    | literal t closed =>
      obtain ⟨u, rfl⟩ := List.head?_eq_some_iff.mp hl.1
      exact .inl rfl
    | comment t closed =>
      cases t with
      | nil => exact absurd rfl hl.1.ne_nil
      | cons c u => exact .inl rfl

theorem looksLike_minus {d : Dialect} {entries : List Entry} {ps : List Part}
    (hl : Laid d (ps.map Part.kept)) (hs : Supplied d entries ps) {t : Text}
    (ht : textOf (ps.map Part.kept) = '-' :: t) :
    ∃ u, textOf (ps.map (Part.filled entries)) = '-' :: u ∧ LooksLike t u := by
  cases ps with
  | nil => simp [textOf] at ht
  | cons p ps =>
    rw [List.map_cons, textOf_cons] at ht
    rw [List.map_cons, textOf_cons]
    cases p with
    | char c =>
      obtain ⟨rfl, rfl⟩ := List.cons.inj ht
      exact ⟨_, rfl, looksLike_cons hl.2.2 hs.tail⟩
    | hole token => simp [Part.kept, Segment.text, Piece.text] at ht
    | literal u closed =>
      obtain ⟨v, rfl⟩ := List.head?_eq_some_iff.mp hl.1
      simp [Part.kept, Segment.text] at ht
    | comment u closed =>
      obtain ⟨hcomment, -⟩ := hl
      cases hcomment with
      | hash _ _ => simp [Part.kept, Segment.text] at ht
      | dashes _ _ =>
        obtain ⟨-, rfl⟩ := List.cons.inj ht
        exact ⟨_, rfl, .inl rfl⟩
      | block _ => simp [Part.kept, Segment.text] at ht

theorem Fits.laid {d : Dialect} {entry : Entry} (h : Fits d entry) {rest : List Segment}
    (hl : Laid d rest) : Laid d (Part.inserted entry :: rest) := by
  cases h with
  | text hv =>
    rw [Part.inserted, if_pos hv]
    exact ⟨rfl, by simp, hl⟩
  | code hv hfits =>
    rw [Part.inserted, if_neg (by simp [hv])]
    obtain ⟨c, u, hcu, -⟩ := hfits.head
    exact ⟨by simp [hcu], hfits.plain _, hl⟩

theorem laid_filled {d : Dialect} {entries : List Entry} {ps : List Part}
    (hl : Laid d (ps.map Part.kept)) (hs : Supplied d entries ps) :
    Laid d (ps.map (Part.filled entries)) := by
  induction ps with
  | nil => trivial
  | cons p ps ih =>
    rw [List.map_cons] at hl ⊢
    cases p with
    | char c =>
      obtain ⟨-, ⟨hplain, -⟩, hrest⟩ := hl
      refine ⟨by simp, ⟨?_, trivial⟩, ih hrest hs.tail⟩
      exact opener?_congr hplain (looksLike_cons hrest hs.tail)
        fun t ht => looksLike_minus hrest hs.tail ht
    | hole token =>
      obtain ⟨entry, hget, hfits⟩ := hs token (by simp)
      obtain ⟨-, -, hrest⟩ := hl
      simp only [Part.filled, hget]
      exact hfits.laid (ih hrest hs.tail)
    | literal t closed =>
      obtain ⟨hquote, hopen, hrest⟩ := hl
      refine ⟨hquote, ?_, ih hrest hs.tail⟩
      intro hclosed
      simpa using hopen hclosed
    | comment t closed =>
      obtain ⟨hcomment, hrest⟩ := hl
      refine ⟨hcomment.congr ?_, ih hrest hs.tail⟩
      intro hnil
      have hps : ps = [] := by simpa using hrest.eq_nil hnil
      rw [hps]
      rfl

/-! The text of a filled template -/

/-- Every hole asks by a numeral for one of so many values. -/
def InRange (count : Nat) (ps : List Part) : Prop :=
  ∀ token, .hole token ∈ ps → isNumeral token = true ∧ natValue token < count

theorem eq_natValue_of_readIndex {token : Text} {i : Nat} (h : readIndex token = .ok i) :
    i = natValue token := by
  unfold readIndex at h
  split at h
  · exact (Except.ok.inj h).symm
  · cases h

theorem filled_ofPiece {entries : List Entry} {p : Piece} {t : Text}
    (h : fillPiece (entries.map (·.2)) p = .ok t) :
    (Part.filled entries (.ofPiece p)).text = t ∧ InRange entries.length [.ofPiece p] := by
  cases p with
  | char c =>
    obtain rfl := Except.ok.inj h
    exact ⟨rfl, by simp [InRange, Part.ofPiece]⟩
  | hole token =>
    simp only [fillPiece] at h
    split at h
    · rename_i hnumeral
      obtain ⟨i, hi, hfill⟩ := Result.bind_eq_ok h
      obtain rfl := eq_natValue_of_readIndex hi
      rw [List.getElem?_map] at hfill
      cases hget : entries[natValue token]? with
      | none =>
        rw [hget] at hfill
        cases hfill
      | some entry =>
        rw [hget] at hfill
        have ht : entry.2 = t := Except.ok.inj hfill
        have hlt := (List.getElem?_eq_some_iff.mp hget).1
        refine ⟨by simp [Part.filled, Part.ofPiece, hget, text_inserted, ht], ?_⟩
        simpa [InRange, Part.ofPiece] using ⟨hnumeral, hlt⟩
    · cases h

theorem InRange.append {count : Nat} {ps qs : List Part} (hp : InRange count ps)
    (hq : InRange count qs) : InRange count (ps ++ qs) := by
  intro token ht
  rcases List.mem_append.mp ht with h | h
  · exact hp token h
  · exact hq token h

theorem textOf_append (segs rest : List Segment) :
    textOf (segs ++ rest) = textOf segs ++ textOf rest := List.flatMap_append

theorem textOf_filled_pieces {entries : List Entry} {ps : List Piece} {ts : List Text}
    (h : List.Forall₂ (fun p t => fillPiece (entries.map (·.2)) p = .ok t) ps ts) :
    textOf ((ps.map Part.ofPiece).map (Part.filled entries)) = ts.flatten ∧
      InRange entries.length (ps.map Part.ofPiece) := by
  induction h with
  | nil => exact ⟨rfl, by simp [InRange]⟩
  | cons hp _ ih =>
    obtain ⟨htext, hrange⟩ := filled_ofPiece hp
    refine ⟨?_, hrange.append ih.2⟩
    rw [List.map_cons, List.map_cons, textOf_cons, htext, ih.1, List.flatten_cons]

theorem textOf_filled_segment {entries : List Entry} {s : Segment} {t : Text}
    (h : fillSegment (entries.map (·.2)) s = .ok t) :
    textOf ((Part.ofSegment s).map (Part.filled entries)) = t ∧
      InRange entries.length (Part.ofSegment s) := by
  cases s with
  | code u =>
    simp only [fillSegment] at h
    obtain ⟨ts, hm, rfl⟩ := Result.map_eq_ok h
    exact textOf_filled_pieces (Result.forall₂_of_mapM hm)
  | literal u closed =>
    obtain rfl := Except.ok.inj h
    exact ⟨by simp [Part.ofSegment, Part.filled, textOf, Segment.text],
      by simp [InRange, Part.ofSegment]⟩
  | comment u closed =>
    obtain rfl := Except.ok.inj h
    exact ⟨by simp [Part.ofSegment, Part.filled, textOf, Segment.text],
      by simp [InRange, Part.ofSegment]⟩

theorem textOf_filled {entries : List Entry} {segs : List Segment} {ts : List Text}
    (h : segs.mapM (fillSegment (entries.map (·.2))) = .ok ts) :
    textOf ((partsOf segs).map (Part.filled entries)) = ts.flatten ∧
      InRange entries.length (partsOf segs) := by
  have hall := Result.forall₂_of_mapM h
  clear h
  induction hall with
  | nil => exact ⟨rfl, by simp [InRange, partsOf]⟩
  | cons hs _ ih =>
    obtain ⟨htext, hrange⟩ := textOf_filled_segment hs
    rw [partsOf_cons]
    refine ⟨?_, hrange.append ih.2⟩
    rw [List.map_append, textOf_append, htext, ih.1, List.flatten_cons]

/-! The literals that are put in -/

theorem countKind_append (kind : SegmentKind) (segs rest : List Segment) :
    countKind kind (segs ++ rest) = countKind kind segs + countKind kind rest :=
  List.countP_append

theorem kind_inserted {d : Dialect} {entry : Entry} (h : Fits d entry) :
    (Part.inserted entry).kind = if isText entry.2 then .literal else .code := by
  cases h with
  | text hv => simp [Part.inserted, hv, isText, wrapped, Segment.kind]
  | code hv hfits =>
    obtain ⟨c, u, hcu, -⟩ := hfits.head
    have hplain := hfits.plain []
    rw [hcu] at hplain
    have hc : c ≠ '\'' := ne_quote_of_opener?_eq_none hplain.1
    simp [Part.inserted, hv, isText, hcu, hc, Segment.kind]

theorem countKind_filled_pieces {d : Dialect} {entries : List Entry} {ps : List Piece}
    (hs : Supplied d entries (ps.map Part.ofPiece)) :
    countKind .literal ((ps.map Part.ofPiece).map (Part.filled entries))
        = ((ps.filterMap Piece.token?).map natValue).countP (isTextAt (entries.map (·.2))) ∧
      countKind .comment ((ps.map Part.ofPiece).map (Part.filled entries)) = 0 := by
  induction ps with
  | nil => exact ⟨rfl, rfl⟩
  | cons p ps ih =>
    obtain ⟨ihl, ihc⟩ := ih hs.tail
    rw [List.map_cons, List.map_cons, countKind, List.countP_cons, ← countKind, ihl, countKind,
      List.countP_cons, ← countKind, ihc]
    cases p with
    | char c => simp [Part.ofPiece, Part.filled, Segment.kind, Piece.token?, List.filterMap_cons]
    | hole token =>
      obtain ⟨entry, hget, hfits⟩ := hs token (by simp [Part.ofPiece])
      have htokens : ((Piece.hole token :: ps).filterMap Piece.token?).map natValue
          = natValue token :: (ps.filterMap Piece.token?).map natValue := by
        simp [Piece.token?]
      have hat : isTextAt (entries.map (·.2)) (natValue token) = isText entry.2 := by
        simp [isTextAt, hget]
      rw [htokens, List.countP_cons, hat]
      simp only [Part.ofPiece, Part.filled, hget, kind_inserted hfits]
      cases isText entry.2 <;> simp

theorem Supplied.append_iff {d : Dialect} {entries : List Entry} {ps qs : List Part} :
    Supplied d entries (ps ++ qs) ↔ Supplied d entries ps ∧ Supplied d entries qs := by
  simp only [Supplied, List.mem_append]
  constructor
  · intro h
    exact ⟨fun token ht => h token (.inl ht), fun token ht => h token (.inr ht)⟩
  · intro h token ht
    exact ht.elim (h.1 token) (h.2 token)

theorem usedIndices_cons (s : Segment) (segs : List Segment) :
    usedIndices (s :: segs) = usedIndices [s] ++ usedIndices segs := by
  simp only [usedIndices, tokensIn, List.filter_cons, List.filter_nil]
  split <;> simp

/-- The filled parts have the literals and comments of the template, and one literal more for
each text. -/
theorem countKind_filled {d : Dialect} {entries : List Entry} {segs : List Segment}
    (hs : Supplied d entries (partsOf segs)) :
    countKind .literal ((partsOf segs).map (Part.filled entries))
        = countKind .literal segs + (usedIndices segs).countP (isTextAt (entries.map (·.2))) ∧
      countKind .comment ((partsOf segs).map (Part.filled entries))
        = countKind .comment segs := by
  induction segs with
  | nil => exact ⟨rfl, rfl⟩
  | cons s segs ih =>
    rw [partsOf_cons, Supplied.append_iff] at hs
    obtain ⟨ihl, ihc⟩ := ih hs.2
    rw [partsOf_cons, List.map_append, countKind_append, countKind_append, ihl, ihc,
      usedIndices_cons, List.countP_append]
    cases s with
    | code t =>
      obtain ⟨hl, hc⟩ := countKind_filled_pieces hs.1
      have hused : usedIndices [.code t] = ((pieces t).filterMap Piece.token?).map natValue := by
        simp [usedIndices, tokensIn, tokens, Segment.kind, Segment.text]
      rw [Part.ofSegment, hl, hc, hused]
      simp only [countKind, List.countP_cons, Segment.kind]
      constructor
      · simp
        omega
      · simp
    | literal t closed =>
      simp [Part.ofSegment, Part.filled, countKind, Segment.kind, usedIndices, tokensIn]
      omega
    | comment t closed =>
      simp [Part.ofSegment, Part.filled, countKind, Segment.kind, usedIndices, tokensIn]
      omega

theorem supplied_of_inRange {d : Dialect} {entries : List Entry} {ps : List Part}
    (hfits : ∀ entry ∈ entries, Fits d entry) (hr : InRange entries.length ps) :
    Supplied d entries ps := by
  intro token ht
  obtain ⟨-, hlt⟩ := hr token ht
  exact ⟨entries[natValue token], List.getElem?_eq_getElem hlt, hfits _ (List.getElem_mem hlt)⟩

/-- What is left to check of a filled statement, once its holes are filled. -/
theorem structureFault?_eq_none {d : Dialect} {statement : Text} {literals comments : Nat}
    (h : structureFault? d statement (some literals) (some comments) = none) :
    countKind .literal (segments d statement) = literals := by
  simp only [structureFault?, Option.orElse_eq_orElse, Option.orElse_eq_or,
    Option.or_eq_none_iff] at h
  obtain ⟨-, -, hcount, -⟩ := h
  have heq : (countKind .literal (segments d statement) : Int) = literals := by
    simpa [countFault?] using hcount
  exact_mod_cast heq

/-- A template that was filled: the statement is the text of the filled parts, and a scan finds
as many literals in it as there are among them. -/
theorem eq_textOf_of_fill {d : Dialect} {template statement : Text} {entries : List Entry}
    (hfits : ∀ entry ∈ entries, Fits d entry)
    (h : fill d template (entries.map (·.2)) = .ok statement) :
    statement = textOf ((parts d template).map (Part.filled entries)) ∧
      InRange entries.length (parts d template) ∧
      countKind .literal (segments d statement)
        = countKind .literal ((parts d template).map (Part.filled entries)) := by
  simp only [fill] at h
  obtain ⟨-, -, hfilled⟩ := Result.bind_eq_ok h
  obtain ⟨ts, hm, hchecked⟩ := Result.bind_eq_ok hfilled
  obtain ⟨htext, hrange⟩ := textOf_filled hm
  have hs := supplied_of_inRange hfits hrange
  split at hchecked
  · cases hchecked
  · split at hchecked
    · cases hchecked
    · rename_i hnone
      obtain rfl : ts.flatten = statement := Except.ok.inj hchecked
      refine ⟨htext.symm, hrange, ?_⟩
      rw [structureFault?_eq_none hnone, parts, (countKind_filled hs).1]

end GuardedSql.Template
