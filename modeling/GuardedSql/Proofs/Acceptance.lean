import GuardedSql.Proofs.Holes
import GuardedSql.Proofs.Injection
import GuardedSql.Proofs.Scan

/-! No template is refused for its values. A template that is in order, and whose holes stand
apart from other holes, from quotes and from escape marks, takes all values that have a literal:
the statement is the template with every hole replaced, and none of the checks that a finished
text goes through finds anything, whatever the values hold. -/

namespace GuardedSql

namespace Sql

variable {d : Dialect}

/-! Layouts whose literals do not touch -/

/-- Of two segments that touch, one is no literal. -/
def Parted (s s' : Segment) : Prop := s.kind = .literal → s'.kind ≠ .literal

theorem head?_assemble_ne_literal {segs : List Segment} (hl : Laid d segs)
    (h : ∀ s ∈ segs.head?, s.kind ≠ .literal) (t : Text) (closed : Bool) (rest : List Segment) :
    assemble segs ≠ .literal t closed :: rest := by
  cases segs with
  | nil => simp [assemble]
  | cons s segs =>
    cases s with
    | literal u closed' => exact absurd rfl (h _ rfl)
    | comment u closed' => simp [assemble]
    | code u =>
      obtain ⟨c, u, rfl⟩ := List.exists_cons_of_ne_nil hl.1
      rw [assemble, List.foldr_cons]
      unfold consCode
      split <;> simp

/-- Where no two literals touch, there are none to join. -/
theorem joinLiterals_assemble {segs : List Segment} (hl : Laid d segs)
    (h : segs.IsChain Parted) : joinLiterals (assemble segs) = assemble segs := by
  induction segs with
  | nil => rfl
  | cons s segs ih =>
    obtain ⟨hnext, hrest⟩ := List.isChain_cons.mp h
    cases s with
    | code t => rw [assemble, joinLiterals_foldr_consCode, ih hl.2.2 hrest]
    | comment t closed => rw [assemble, joinLiterals, ih hl.2 hrest]
    | literal t closed =>
      rw [assemble, joinLiterals, ih hl.2.2 hrest]
      exact joinLiteral_of_head (head?_assemble_ne_literal hl.2.2 fun s hs => hnext s hs rfl)

/-! The characters of code -/

/-- The code of segments, run together. -/
def codeChars (segs : List Segment) : Text := segs.flatMap fun s => s.code?.getD []

theorem codeChars_consCode (c : Char) (segs : List Segment) :
    codeChars (consCode c segs) = c :: codeChars segs := by
  unfold consCode
  split <;> simp [codeChars, Segment.code?]

theorem codeChars_assemble (segs : List Segment) : codeChars (assemble segs) = codeChars segs := by
  fun_induction assemble segs with
  | case1 => rfl
  | case2 t rest ih =>
    have hfold : ∀ u : Text, codeChars (u.foldr consCode (assemble rest))
        = u ++ codeChars (assemble rest) := by
      intro u
      induction u with
      | nil => rfl
      | cons c u ihu => rw [List.foldr_cons, codeChars_consCode, ihu, List.cons_append]
    rw [hfold, ih]
    rfl
  | case3 t closed rest ih => exact ih
  | case4 t closed rest ih => exact ih

/-- All code is closed. -/
theorem forall_closed_iff (segs : List Segment) :
    (∀ s ∈ segs, s.closed = true) ↔ ∀ s ∈ outsideCode segs, s.closed = true := by
  constructor
  · intro h s hs
    exact h s (List.mem_of_mem_filter hs)
  · intro h s hs
    cases s with
    | code t => rfl
    | literal t closed => exact h _ (List.mem_filter.mpr ⟨hs, rfl⟩)
    | comment t closed => exact h _ (List.mem_filter.mpr ⟨hs, rfl⟩)

theorem closed_of_assemble {segs : List Segment} (h : ∀ s ∈ segs, s.closed = true) :
    ∀ s ∈ assemble segs, s.closed = true := by
  rw [forall_closed_iff, outsideCode_assemble, ← forall_closed_iff]
  exact h

end Sql

/-! Values that have a literal -/

namespace Literal

/-- The literal of a text is there exactly if the escaper accepts the text and does not lose it. -/
theorem exists_ofText_iff {escape : Escaper} {marked : Bool} {t : Text} :
    (∃ literal, ofText escape marked t = .ok literal) ↔
      ∃ body, escape marked (plainPunctuation t) = .ok body ∧
        (body = [] → plainPunctuation t = []) := by
  cases hbody : escape marked (plainPunctuation t) with
  | error f => simp [ofText, hbody, bind, Except.bind]
  | ok body =>
    cases hplain : plainPunctuation t with
    | nil =>
      rw [hplain] at hbody
      simp [ofText, hbody, hplain, bind, Except.bind, pure, Except.pure]
    | cons c plain =>
      rw [hplain] at hbody
      cases body with
      | nil => simp [ofText, hbody, hplain, bind, Except.bind, throw, throwThe, MonadExceptOf.throw]
      | cons d body => simp [ofText, hbody, hplain, bind, Except.bind, pure, Except.pure]

/-- Null, booleans, integers of 64 bits, finite floats, and the texts that the connection escapes
without losing them. -/
def Encodable (conn : Connection) : Value → Prop
  | .null | .bool _ => True
  | .int n => leastInteger ≤ n ∧ n ≤ greatestInteger
  | .float bits => (Decimal.Binary64.ofBits bits).isFinite = true
  | .text t => ∃ body, conn.escaper false (plainPunctuation t) = .ok body ∧
      (body = [] → plainPunctuation t = [])
  | .markup t => ∃ body, conn.escaper true (plainPunctuation t) = .ok body ∧
      (body = [] → plainPunctuation t = [])
  | _ => False

/-- These are the values that are encoded. -/
theorem encodable_iff {conn : Connection} {v : Value} :
    Encodable conn v ↔ ∃ literal, encode conn.escaper v = .ok literal := by
  cases v with
  | null => exact ⟨fun _ => ⟨_, rfl⟩, fun _ => trivial⟩
  | bool b => exact ⟨fun _ => ⟨_, rfl⟩, fun _ => trivial⟩
  | int n =>
    by_cases hn : leastInteger ≤ n ∧ n ≤ greatestInteger <;>
      simp [Encodable, encode, ofInt, hn, Except.mapError]
  | float bits =>
    by_cases hfinite : (Decimal.Binary64.ofBits bits).isFinite = true <;>
      simp [Encodable, encode, ofFloat, hfinite, Except.mapError]
  | text t => exact exists_ofText_iff.symm
  | markup t => exact exists_ofText_iff.symm
  | _ => simp [Encodable, encode]

/-- Where the client escapes as it is documented, over an encoding that keeps quotes and
backslashes apart, no text is lost. -/
theorem encodable_of_escaper {conn : Connection} {codec : Codec} {spell : Char → Bytes}
    (hcodec : conn.client.codec = .ok codec) (hspells : codec.Spells spell) {v : Value}
    {t body : Text} (hescapes : conn.Escapes v.isMarkup) (hv : v.text? = some t)
    (h : conn.escaper v.isMarkup (plainPunctuation t) = .ok body) : Encodable conn v := by
  have hkept : body = [] → plainPunctuation t = [] := by
    intro hbody
    obtain ⟨u, hu, rfl⟩ := hescapes.of_escaper h
    obtain rfl := hu.eq_of_spells hcodec hspells
    by_contra hne
    exact conn.mode.bodyOf_ne_nil hne hbody
  cases v with
  | text s =>
    obtain rfl := Option.some.inj hv
    exact ⟨body, h, hkept⟩
  | markup s =>
    obtain rfl := Option.some.inj hv
    exact ⟨body, h, hkept⟩
  | _ => cases hv

end Literal

namespace Template

open Sql Literal
open Text (natValue)

/-! What a structure check passes -/

theorem tokens_eq_nil {t : Text} (h : '\x7b' ∉ t) : tokens t = [] := by
  induction t with
  | nil => simp [tokens, pieces]
  | cons c t ih =>
    rw [List.mem_cons, not_or] at h
    rw [tokens, pieces_char (Ne.symm h.1), List.filterMap_cons_none rfl]
    exact ih h.2

theorem structureFault?_eq_none_of {d : Dialect} {statement : Text} {literals comments : Nat}
    (hclosed : ∀ s ∈ segments d statement, s.closed = true)
    (hcode : ∀ c ∈ codeChars (segments d statement), c ≠ '"' ∧ c ≠ '\x60' ∧ c ≠ '\x7b')
    (hliterals : countKind .literal (segments d statement) = literals)
    (hcomments : countKind .comment (segments d statement) = comments) :
    structureFault? d statement (some literals) (some comments) = none := by
  have hchars : ∀ s ∈ segments d statement, ∀ c ∈ s.code?.getD [],
      c ≠ '"' ∧ c ≠ '\x60' ∧ c ≠ '\x7b' := by
    intro s hs c hc
    exact hcode c (List.mem_flatMap.mpr ⟨s, hs, hc⟩)
  have hsegments : ∀ s ∈ segments d statement, unclosedFault? s = none ∧ strayFault? s = none := by
    intro s hs
    refine ⟨by simp [unclosedFault?, hclosed s hs], ?_⟩
    cases s with
    | code t =>
      have ht := hchars _ hs
      have hquote : '"' ∉ t := fun hc => (ht _ hc).1 rfl
      have hbacktick : '\x60' ∉ t := fun hc => (ht _ hc).2.1 rfl
      simp [strayFault?, Segment.code?, hquote, hbacktick]
    | literal t closed => rfl
    | comment t closed => rfl
  have htokens : tokensIn .code (segments d statement) = [] := by
    refine List.flatMap_eq_nil_iff.mpr ?_
    intro s hs
    obtain ⟨hs, hkind⟩ := List.mem_filter.mp hs
    refine tokens_eq_nil ?_
    intro hbrace
    cases s with
    | code t => exact (hchars _ hs _ hbrace).2.2 rfl
    | literal t closed => cases hkind
    | comment t closed => cases hkind
  simpa [structureFault?, htokens, countFault?, hliterals, hcomments] using hsegments

/-! Parts of a template -/

theorem ofPiece_ne_literal (p : Piece) (t : Text) (closed : Bool) :
    Part.ofPiece p ≠ .literal t closed := by
  cases p <;> simp [Part.ofPiece]

theorem ofPiece_ne_comment (p : Piece) (t : Text) (closed : Bool) :
    Part.ofPiece p ≠ .comment t closed := by
  cases p <;> simp [Part.ofPiece]

theorem literal_mem_partsOf {segs : List Segment} {t : Text} {closed : Bool} :
    .literal t closed ∈ partsOf segs ↔ .literal t closed ∈ segs := by
  induction segs with
  | nil => simp [partsOf]
  | cons s segs ih =>
    rw [partsOf_cons, List.mem_append, List.mem_cons, ih]
    cases s <;> simp [Part.ofSegment, ofPiece_ne_literal]

theorem comment_mem_partsOf {segs : List Segment} {t : Text} {closed : Bool} :
    .comment t closed ∈ partsOf segs ↔ .comment t closed ∈ segs := by
  induction segs with
  | nil => simp [partsOf]
  | cons s segs ih =>
    rw [partsOf_cons, List.mem_append, List.mem_cons, ih]
    cases s <;> simp [Part.ofSegment, ofPiece_ne_comment]

theorem hole_mem_map_ofPiece {ps : List Piece} {token : Text} :
    .hole token ∈ ps.map Part.ofPiece ↔ token ∈ ps.filterMap Piece.token? := by
  rw [List.mem_map, List.mem_filterMap]
  refine exists_congr fun p => and_congr_right fun _ => ?_
  cases p <;> simp [Part.ofPiece, Piece.token?]

theorem hole_mem_partsOf {segs : List Segment} {token : Text} :
    .hole token ∈ partsOf segs ↔ token ∈ tokensIn .code segs := by
  induction segs with
  | nil => simp [partsOf, tokensIn]
  | cons s segs ih =>
    rw [partsOf_cons, tokensIn_code_cons, List.mem_append, List.mem_append, ih]
    cases s with
    | code t =>
      rw [Part.ofSegment, hole_mem_map_ofPiece]
      rfl
    | literal t closed => simp [Part.ofSegment, Segment.code?]
    | comment t closed => simp [Part.ofSegment, Segment.code?]

/-! Holes that stand apart -/

/-- A quote, or a character that may be an escape mark. -/
def isTouchy (c : Char) : Bool := c == '\'' || c == 'e' || c == 'E'

def Part.isHole : Part → Bool
  | .hole _ => true
  | _ => false

/-- A hole that touches no other hole, no quote and no `e`. -/
def Site.isApart (s : Site) : Bool :=
  !s.before.head?.any Part.isHole && !s.after.head?.any Part.isHole &&
    !(textBefore s.before).head?.any isTouchy && !(textAfter s.after).head?.any isTouchy

def Part.isLiteral : Part → Bool
  | .literal .. => true
  | _ => false

/-- Parts that a quote may stand at the ends of once the holes are filled. -/
def Part.mayQuote (p : Part) : Bool := p.isHole || p.isLiteral

theorem sitesAfter_cons_subset (before : List Part) (p : Part) (rest : List Part) :
    sitesAfter (p :: before) rest ⊆ sitesAfter before (p :: rest) := by
  cases p with
  | hole token => exact List.subset_cons_self _ _
  | _ => exact List.Subset.refl _

theorem mem_of_mem_before {before ps : List Part} {s : Site} (hs : s ∈ sitesAfter before ps) :
    ∀ p ∈ s.before, p ∈ before ∨ p ∈ ps := by
  induction ps generalizing before with
  | nil => cases hs
  | cons q ps ih =>
    have hrest : s ∈ sitesAfter (q :: before) ps → ∀ p ∈ s.before, p ∈ before ∨ p ∈ q :: ps := by
      intro hs p hp
      rcases ih hs p hp with h | h
      · rcases List.mem_cons.mp h with rfl | h
        · exact .inr (List.mem_cons_self ..)
        · exact .inl h
      · exact .inr (List.mem_cons_of_mem q h)
    cases q with
    | hole token =>
      rcases List.mem_cons.mp hs with rfl | hs
      · exact fun p hp => .inl hp
      · exact hrest hs
    | _ => exact hrest hs

section Apart

variable {d : Dialect} {before ps : List Part}

theorem Laid.tail {s : Segment} {segs : List Segment} (h : Laid d (s :: segs)) : Laid d segs := by
  cases s with
  | code t => exact h.2.2
  | literal t closed => exact h.2.2
  | comment t closed => exact h.2

theorem followsEscapeMark_of_not_touchy {t : Text} (h : t.head?.any isTouchy = false) :
    followsEscapeMark t = false := by
  cases t with
  | nil => rfl
  | cons c t =>
    simp only [List.head?_cons, Option.any_some, isTouchy, Bool.or_eq_false_iff] at h
    simp [followsEscapeMark, h]

theorem startsWithMark_of_not_touchy {t : Text} (h : t.head?.any isTouchy = false) :
    startsWithMark t = false := by
  unfold startsWithMark
  split
  · simp only [List.head?_cons, Option.any_some, isTouchy, Bool.or_eq_false_iff] at h
    simp [h]
  · rfl

theorem textBefore_literal_touchy {t : Text} (ht : t.getLast? = some '\'') (closed : Bool)
    (before : List Part) :
    (textBefore (.literal t closed :: before)).head?.any isTouchy = true := by
  have hhead : (textBefore (.literal t closed :: before)).head? = some '\'' := by
    simp [textBefore, Part.kept, Segment.text, List.head?_append, ht]
  rw [hhead]
  rfl

/-- Where every literal ends with its quote, a hole that stands apart has no literal before it. -/
theorem isClear_of_isApart {s : Site} (h : s.isApart = true)
    (hends : ∀ t closed, .literal t closed ∈ s.before → t.getLast? = some '\'') :
    s.isClear = true := by
  simp only [Site.isApart, Bool.and_eq_true, Bool.not_eq_true'] at h
  obtain ⟨⟨-, hbefore⟩, hafter⟩ := h
  have hmarked : isMarked s.before = false := by
    rcases s with ⟨_ | ⟨p, before⟩, after⟩
    · rfl
    · cases p with
      | literal t closed =>
        have ht := textBefore_literal_touchy (hends t closed (List.mem_cons_self ..)) closed before
        rw [hbefore] at ht
        cases ht
      | _ => exact followsEscapeMark_of_not_touchy hbefore
  simp [Site.isClear, hmarked, startsWithMark_of_not_touchy hafter]

theorem isLiteral_ofPiece (p : Piece) : (Part.ofPiece p).isLiteral = false := by
  cases p <;> rfl

/-- Only a literal has a literal for its first part. -/
theorem isLiteral_head?_partsOf {s : Segment} {segs : List Segment} (hl : Laid d (s :: segs))
    (hs : s.kind ≠ .literal) : ∀ q ∈ (partsOf (s :: segs)).head?, q.isLiteral = false := by
  intro q hq
  cases s with
  | literal t closed => exact absurd rfl hs
  | comment t closed =>
    obtain rfl := Option.some.inj hq
    rfl
  | code t =>
    have hrender := render_pieces t
    rw [partsOf_cons, Part.ofSegment] at hq
    cases hpieces : pieces t with
    | nil =>
      rw [hpieces] at hrender
      exact absurd hrender.symm hl.1
    | cons p ps =>
      rw [hpieces] at hq
      obtain rfl := Option.some.inj hq
      exact isLiteral_ofPiece p

theorem isChain_partsOf {segs : List Segment} (hl : Laid d segs) (h : Apart segs) :
    (partsOf segs).IsChain fun p q => p.isLiteral = true → q.isLiteral = false := by
  induction segs with
  | nil => exact .nil
  | cons s segs ih =>
    rw [partsOf_cons]
    refine List.isChain_append.mpr ⟨?_, ih (Laid.tail hl) h.tail, ?_⟩
    · cases s with
      | code t =>
        refine (List.isChain_map _).mpr (List.pairwise_of_forall ?_).isChain
        intro p q _
        exact isLiteral_ofPiece q
      | _ => exact .singleton _
    · intro p hp q hq hliteral
      cases segs with
      | nil => cases hq
      | cons s' segs =>
        -- two literals would be segments that touch
        refine isLiteral_head?_partsOf (Laid.tail hl) ?_ q hq
        intro hkind'
        have hkind : s.kind = .literal := by
          cases s with
          | literal t closed => rfl
          | comment t closed =>
            obtain rfl := Option.some.inj hp
            cases hliteral
          | code t =>
            obtain ⟨piece, -, rfl⟩ := List.mem_map.mp (List.mem_of_mem_getLast? hp)
            rw [isLiteral_ofPiece] at hliteral
            cases hliteral
        have happart := (List.isChain_cons.mp h).1 s' rfl (hkind.trans hkind'.symm)
        rw [hkind] at happart
        cases happart

/-- Parts that quotes stand at the ends of touch nowhere, if the holes stand apart. -/
theorem isChain_mayQuote (before : List Part) (hl : Laid d (ps.map Part.kept))
    (hends : ∀ t closed, .literal t closed ∈ ps → t.getLast? = some '\'')
    (hliterals : ps.IsChain fun p q => p.isLiteral = true → q.isLiteral = false)
    (hsites : ∀ s ∈ sitesAfter before ps, s.isApart = true) :
    ps.IsChain fun p q => p.mayQuote = true → q.mayQuote = false := by
  induction ps generalizing before with
  | nil => exact .nil
  | cons p ps ih =>
    obtain ⟨hnext, hrest⟩ := List.isChain_cons.mp hliterals
    rw [List.map_cons] at hl
    refine List.isChain_cons.mpr ⟨?_, ih (p :: before) (Laid.tail hl)
      (fun t closed ht => hends t closed (List.mem_cons_of_mem p ht)) hrest
      fun s hs => hsites s (sitesAfter_cons_subset before p ps hs)⟩
    -- one of two parts that touch is a hole, whose site tells of the other, or both are literals
    intro q hq hp
    obtain ⟨rest, rfl⟩ := List.head?_eq_some_iff.mp hq
    have hliteral := hnext q hq
    cases p with
    | char c => cases hp
    | comment t closed => cases hp
    | hole token =>
      have hsite := hsites _ (List.mem_cons_self ..)
      simp only [Site.isApart, Bool.and_eq_true, Bool.not_eq_true'] at hsite
      cases q with
      | hole token' => simp [Part.isHole] at hsite
      | literal t closed =>
        obtain ⟨u, hu⟩ := List.head?_eq_some_iff.mp (Laid.tail hl).1
        simp [textAfter_cons, Part.kept, Segment.text, hu, isTouchy] at hsite
      | _ => rfl
    | literal t closed =>
      cases q with
      | hole token =>
        have hsite := hsites _ (sitesAfter_cons_subset before _ _ (List.mem_cons_self ..))
        simp only [Site.isApart, Bool.and_eq_true, Bool.not_eq_true'] at hsite
        have ht := textBefore_literal_touchy (hends t closed (List.mem_cons_self ..)) closed before
        rw [hsite.1.2] at ht
        cases ht
      | literal u closed' => exact absurd (hliteral rfl) (by simp [Part.isLiteral])
      | _ => rfl

end Apart

/-! Templates in order -/

/-- A template that takes so many values, whatever they are. -/
structure Acceptable (d : Dialect) (t : Text) (count : Nat) : Prop where
  closed : ∀ s ∈ segments d t, s.closed = true
  /-- No quotes of names stand in code, and no braces but those of holes. -/
  code : ∀ c, .char c ∈ parts d t → c ≠ '"' ∧ c ≠ '\x60' ∧ isBrace c = false
  holes : ∀ token, .hole token ∈ parts d t → Fillable count token
  /-- Every value is asked for. -/
  used : ∀ i < count, ∃ token, .hole token ∈ parts d t ∧ natValue token = i
  outside : ∀ kind, kind ≠ .code → ∀ token ∈ tokensIn kind (segments d t), token.isNumeral = false
  apart : ∀ s ∈ sites d t, s.isApart = true

/-- A part as it is written in the statement. -/
def Part.written (literals : List Text) : Part → Text
  | .char c => [c]
  | .hole token => literals[natValue token]?.getD (Piece.hole token).text
  | .literal t _ | .comment t _ => t

theorem text_filled (entries : List Entry) (p : Part) :
    (p.filled entries).text = p.written (entries.map (·.2)) := by
  cases p with
  | hole token =>
    rw [Part.filled, Part.written, List.getElem?_map]
    cases entries[natValue token]? with
    | none => rfl
    | some entry => exact text_inserted entry
  | _ => rfl

theorem textOf_map_filled (entries : List Entry) (ps : List Part) :
    textOf (ps.map (Part.filled entries)) = ps.flatMap (Part.written (entries.map (·.2))) := by
  rw [textOf, List.flatMap_map]
  exact congrArg (ps.flatMap ·) (funext (text_filled entries))

section Acceptable

variable {d : Dialect} {t : Text} {entries : List Entry}

theorem getLast?_of_closed (h : ∀ s ∈ segments d t, s.closed = true) :
    ∀ u closed, .literal u closed ∈ parts d t → u.getLast? = some '\'' := by
  intro u closed hu
  have hmem := literal_mem_partsOf.mp hu
  obtain rfl : closed = true := h _ hmem
  obtain ⟨front, rest, heq⟩ := List.append_of_mem hmem
  have hscan : IsScan d [] t (segments d t) := isScan_segmentsAfter d [] t
  obtain ⟨⟨items, -, rfl⟩, -⟩ := hscan.segment front _ rest heq
  simp [List.getLast?_cons]

theorem mayQuote_of_kind {p : Part} (h : (p.filled entries).kind = .literal) :
    p.mayQuote = true := by
  cases p with
  | char c => cases h
  | comment u closed => cases h
  | _ => rfl

/-- No two literals touch in the filled template. -/
theorem Acceptable.isChain_filled (h : Acceptable d t entries.length) :
    ((parts d t).map (Part.filled entries)).IsChain Parted := by
  have hscan : IsScan d [] t (segments d t) := isScan_segmentsAfter d [] t
  have hchain := isChain_mayQuote [] (laid_parts d t) (getLast?_of_closed h.closed)
    (isChain_partsOf (laid_segmentsAfter d [] t) hscan.apart) h.apart
  refine (List.isChain_map _).mpr (hchain.imp ?_)
  intro p q hpq hp hq
  have hq' := hpq (mayQuote_of_kind hp)
  rw [mayQuote_of_kind hq] at hq'
  cases hq'

theorem Acceptable.isClear (h : Acceptable d t entries.length) :
    ∀ s ∈ sites d t, s.isClear = true := by
  intro s hs
  refine isClear_of_isApart (h.apart s hs) ?_
  intro u closed hu
  rcases mem_of_mem_before hs _ hu with hu | hu
  · cases hu
  · exact getLast?_of_closed h.closed u closed hu

theorem Acceptable.closed_filled (h : Acceptable d t entries.length) :
    ∀ s ∈ (parts d t).map (Part.filled entries), s.closed = true := by
  intro s hs
  obtain ⟨p, hp, rfl⟩ := List.mem_map.mp hs
  cases p with
  | char c => rfl
  | literal u closed => exact h.closed _ (literal_mem_partsOf.mp hp)
  | comment u closed => exact h.closed _ (comment_mem_partsOf.mp hp)
  | hole token =>
    rw [Part.filled]
    cases entries[natValue token]? with
    | none => rfl
    | some entry =>
      dsimp only [Part.inserted]
      split <;> rfl

theorem ne_of_isFigure {c : Char} (h : isFigure c = true) :
    c ≠ '"' ∧ c ≠ '\x60' ∧ c ≠ '\x7b' := by
  refine ⟨?_, ?_, ?_⟩ <;> rintro rfl <;> revert h <;> decide

/-- What stands in the code of the filled template is of the template, or writes a number or a
keyword. -/
theorem Acceptable.codeChars_filled (h : Acceptable d t entries.length)
    (hfigures : ∀ entry ∈ entries, entry.1.text? = none → AllFigures entry.2) :
    ∀ c ∈ codeChars ((parts d t).map (Part.filled entries)),
      c ≠ '"' ∧ c ≠ '\x60' ∧ c ≠ '\x7b' := by
  intro c hc
  obtain ⟨s, hs, hc⟩ := List.mem_flatMap.mp hc
  obtain ⟨p, hp, rfl⟩ := List.mem_map.mp hs
  cases p with
  | char e =>
    obtain rfl := List.mem_singleton.mp hc
    obtain ⟨hquote, hbacktick, hbrace⟩ := h.code c hp
    refine ⟨hquote, hbacktick, ?_⟩
    rintro rfl
    cases hbrace
  | literal u closed => cases hc
  | comment u closed => cases hc
  | hole token =>
    obtain ⟨entry, hget⟩ : ∃ entry, entries[natValue token]? = some entry :=
      ⟨_, List.getElem?_eq_getElem (h.holes token hp).inRange⟩
    simp only [Part.filled, hget, Part.inserted] at hc
    split at hc
    · cases hc
    · rename_i htext
      refine ne_of_isFigure (hfigures entry (List.mem_of_getElem? hget) ?_ c hc)
      simpa using htext

theorem Acceptable.inRange {count : Nat} (h : Acceptable d t count) :
    InRange count (parts d t) := by
  intro token htoken
  exact ⟨(h.holes token htoken).numeral, (h.holes token htoken).inRange⟩

/-- The scan of the statement is the filled template, as no two literals touch. -/
theorem Acceptable.segments_filled (h : Acceptable d t entries.length)
    (hfits : ∀ entry ∈ entries, Fits d entry) (hcloses : ∀ entry ∈ entries, Closes d entry) :
    segments d (textOf ((parts d t).map (Part.filled entries))) = filledSegments d t entries := by
  have hs := supplied_of_inRange hfits h.inRange
  have hw := whole_filled_parts hs hcloses (.inr h.isClear)
  rw [segments_textOf_filled hs hw]
  exact joinLiterals_assemble (laid_filled (laid_parts d t) hs) h.isChain_filled

/-- A template that is in order is filled, and nothing is wrong with the statement. -/
theorem Acceptable.fill_eq_ok (h : Acceptable d t entries.length)
    (hfits : ∀ entry ∈ entries, Fits d entry) (hcloses : ∀ entry ∈ entries, Closes d entry)
    (hfigures : ∀ entry ∈ entries, entry.1.text? = none → AllFigures entry.2) :
    fill d t (entries.map (·.2)) = .ok (textOf ((parts d t).map (Part.filled entries))) := by
  have hs := supplied_of_inRange hfits h.inRange
  obtain ⟨ts, hts⟩ : ∃ ts, (segments d t).mapM (fillSegment (entries.map (·.2))) = .ok ts := by
    refine exists_fillSegments_eq_ok_iff.mpr ?_
    intro token htoken
    rw [List.length_map]
    exact h.holes token (hole_mem_partsOf.mpr htoken)
  have htext : textOf ((parts d t).map (Part.filled entries)) = ts.flatten := (textOf_filled hts).1
  have hused : (List.range (entries.map (·.2)).length).find?
      (!(usedIndices (segments d t)).contains ·) = none := by
    refine List.find?_eq_none.mpr ?_
    intro i hi
    obtain ⟨token, htoken, rfl⟩ := h.used i (by simpa using hi)
    have hmem : natValue token ∈ usedIndices (segments d t) :=
      List.mem_map_of_mem (hole_mem_partsOf.mp htoken)
    simpa using hmem
  have hscan := h.segments_filled hfits hcloses
  obtain ⟨hliterals, hcomments⟩ := countKind_filled hs
  have hstructure : structureFault? d ts.flatten
      (some (countKind .literal (segments d t)
        + (usedIndices (segments d t)).countP (isTextAt (entries.map (·.2))) : Nat))
      (some (countKind .comment (segments d t) : Nat)) = none := by
    rw [← htext]
    refine structureFault?_eq_none_of ?_ ?_ ?_ ?_
    · rw [hscan]
      exact closed_of_assemble h.closed_filled
    · rw [hscan, filledSegments, codeChars_assemble]
      exact h.codeChars_filled hfigures
    · rw [hscan, filledSegments, countKind_assemble (by decide)]
      exact hliterals
    · rw [hscan, filledSegments, countKind_assemble (by decide)]
      exact hcomments
  rw [htext]
  simp only [fill, checkHoles_eq_ok_iff.mpr h.outside, Except.mapError, bind, Except.bind, hts,
    hused, hstructure]
  rfl

end Acceptable

/-- A template that is in order is accepted with all values that have a literal, and every hole
gives way to the literal of its value. Nothing else changes, whatever the values hold. -/
theorem substitute_of_acceptable (conn : Connection) {template replacements : Value} {t : Text}
    {values : List Value} (ht : template.text? = some t)
    (hvalues : replacementValues replacements = .ok values)
    (hescapes : conn.EscapesAll values) (hencodable : ∀ v ∈ values, Encodable conn v)
    (h : Acceptable conn.mode.dialect t values.length) :
    ∃ literals,
      List.Forall₂ (fun v literal => encode conn.escaper v = .ok literal) values literals ∧
      t = (parts conn.mode.dialect t).flatMap (fun p => p.kept.text) ∧
      substitute conn.mode.dialect conn.escaper template replacements
        = .ok ((parts conn.mode.dialect t).flatMap (Part.written literals)) := by
  obtain ⟨literals, hliterals⟩ : ∃ literals, values.mapM (encode conn.escaper) = .ok literals :=
    Result.exists_mapM_eq_ok_iff.mpr fun v hv => encodable_iff.mp (hencodable v hv)
  have hlength := length_zip_of_mapM hliterals
  have hfigures : ∀ entry ∈ values.zip literals, entry.1.text? = none → AllFigures entry.2 :=
    fun entry he hv => allFigures_encode hv (encode_of_mem_zip hliterals entry he)
  have hfill := (hlength ▸ h).fill_eq_ok (fits_of_mem_zip hliterals _)
    (closes_of_mem_zip hescapes hliterals) hfigures
  rw [textOf_map_filled, map_snd_zip_of_mapM hliterals] at hfill
  refine ⟨literals, Result.forall₂_of_mapM hliterals, ?_, ?_⟩
  · have hkept := textOf_kept_partsOf (segments conn.mode.dialect t)
    rw [textOf_segments, textOf, List.flatMap_map] at hkept
    exact hkept.symm
  · simp only [substitute, ht, hvalues, Except.mapError, bind, Except.bind, hliterals]
    exact hfill

/-- A text that holds what a hole, a name, a comment and its own end look like. -/
theorem substitute_hostile :
    substitute (Mode.postgres true).dialect (⟨.postgres true, {}, none⟩ : Connection).escaper
        (.text "SELECT {1}, {0} -- c".toList) (.list [.text "'{1}\"\x60--/*".toList, .int (-5)])
      = .ok "SELECT (-5), '''{1}\"\x60--/*' -- c".toList := by
  have hparts : parts (Mode.postgres true).dialect "SELECT {1}, {0} -- c".toList
      = "SELECT ".toList.map Part.char ++ [.hole ['1'], .char ',', .char ' ', .hole ['0'],
          .char ' ', .comment "-- c".toList true] := by
    cbv
  have hclosed : (segments (Mode.postgres true).dialect "SELECT {1}, {0} -- c".toList).all
      (·.closed) = true := by
    cbv
  have hapart : (sites (Mode.postgres true).dialect "SELECT {1}, {0} -- c".toList).all Site.isApart
      = true := by
    cbv
  have hliteral : tokensIn .literal
      (segments (Mode.postgres true).dialect "SELECT {1}, {0} -- c".toList) = [] := by
    cbv
  have hcomment : tokensIn .comment
      (segments (Mode.postgres true).dialect "SELECT {1}, {0} -- c".toList) = [] := by
    cbv
  have hacceptable : Acceptable (Mode.postgres true).dialect "SELECT {1}, {0} -- c".toList 2 :=
    { closed := List.all_eq_true.mp hclosed
      code := by
        have hall : ("SELECT ,  ".toList.all fun c => c != '"' && c != '\x60' && !isBrace c)
            = true := by
          cbv
        intro c hc
        rw [hparts] at hc
        have hc' := List.all_eq_true.mp hall c (by simpa using hc)
        simpa [and_assoc] using hc'
      holes := by
        intro token htoken
        rw [hparts] at htoken
        have htokens : token = ['1'] ∨ token = ['0'] := by simpa using htoken
        rcases htokens with rfl | rfl <;> exact ⟨by decide, by decide, by decide⟩
      used := by
        intro i hi
        rw [hparts]
        obtain rfl | rfl : i = 0 ∨ i = 1 := by omega
        · exact ⟨['0'], by simp, rfl⟩
        · exact ⟨['1'], by simp, rfl⟩
      outside := by
        intro kind hkind
        cases kind with
        | code => exact absurd rfl hkind
        | literal =>
          rw [hliteral]
          rintro token ⟨⟩
        | comment =>
          rw [hcomment]
          rintro token ⟨⟩
      apart := List.all_eq_true.mp hapart }
  have hvalues : replacementValues (.list [.text "'{1}\"\x60--/*".toList, .int (-5)])
      = .ok [.text "'{1}\"\x60--/*".toList, .int (-5)] := rfl
  have hbody : (⟨.postgres true, {}, none⟩ : Connection).escaper false
      (plainPunctuation "'{1}\"\x60--/*".toList) = .ok "''{1}\"\x60--/*".toList := by
    cbv
  have htext : encode (⟨.postgres true, {}, none⟩ : Connection).escaper
      (.text "'{1}\"\x60--/*".toList) = .ok "'''{1}\"\x60--/*'".toList := by
    cbv
  have hint : encode (⟨.postgres true, {}, none⟩ : Connection).escaper (.int (-5))
      = .ok "(-5)".toList := rfl
  have hescapes := Connection.escapesAll_documented Codec.spells_utf8 (.postgres true) none
    [Value.text "'{1}\"\x60--/*".toList, .int (-5)]
  have hencodable : ∀ v ∈ [Value.text "'{1}\"\x60--/*".toList, .int (-5)],
      Encodable ⟨.postgres true, {}, none⟩ v := by
    intro v hv
    simp only [List.mem_cons, List.not_mem_nil, or_false] at hv
    rcases hv with rfl | rfl
    · exact encodable_of_escaper rfl Codec.spells_utf8 (hescapes _ (by simp) rfl) rfl hbody
    · exact ⟨by decide, by decide⟩
  have htemplate : (Value.text "SELECT {1}, {0} -- c".toList).text?
      = some "SELECT {1}, {0} -- c".toList := rfl
  obtain ⟨literals, hencoded, -, hok⟩ := substitute_of_acceptable ⟨.postgres true, {}, none⟩
    htemplate hvalues hescapes hencodable hacceptable
  cases hencoded with
  | cons hfirst hrest =>
    cases hrest with
    | cons hsecond hnil =>
      cases hnil
      obtain rfl := Except.ok.inj (htext.symm.trans hfirst)
      obtain rfl := Except.ok.inj (hint.symm.trans hsecond)
      rw [hparts] at hok
      exact hok

end Template

end GuardedSql
