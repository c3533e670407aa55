import GuardedSql.Proofs.Reading
import Mathlib

/-! No value changes the structure of a statement. A scan of the finished statement finds the
template's literals and comments, one literal for each text put in, and code for all else. In the
reading that all literals of a store share this holds of every template. Where literals differ,
because a lone `e` before the quote turns backslash escapes on, it holds of templates whose holes
keep clear of such marks, and of others exactly if every literal still ends where it should. -/

namespace GuardedSql.Template

open Sql Literal

/-- What a substitution that succeeds has come through. -/
theorem substitute_eq_ok {d : Dialect} {escape : Escaper} {template replacements : Value}
    {t statement : Text} (ht : template.text? = some t)
    (h : substitute d escape template replacements = .ok statement) :
    ∃ values literals, replacementValues replacements = .ok values ∧
      values.mapM (encode escape) = .ok literals ∧ fill d t literals = .ok statement := by
  simp only [substitute, ht] at h
  obtain ⟨values, hv, hencoded⟩ := Result.bind_eq_ok h
  obtain ⟨literals, hl, hfill⟩ := Result.bind_eq_ok hencoded
  exact ⟨values, literals, Result.mapError_eq_ok hv, hl, hfill⟩

theorem map_snd_zip_of_mapM {escape : Escaper} {values : List Value} {literals : List Text}
    (h : values.mapM (encode escape) = .ok literals) :
    (values.zip literals).map (·.2) = literals := by
  have hlen := (Result.forall₂_of_mapM h).length_eq
  exact List.map_snd_zip (by omega)

theorem length_zip_of_mapM {escape : Escaper} {values : List Value} {literals : List Text}
    (h : values.mapM (encode escape) = .ok literals) :
    (values.zip literals).length = values.length := by
  rw [List.length_zip, (Result.forall₂_of_mapM h).length_eq, Nat.min_self]

theorem encode_of_mem_zip {escape : Escaper} {values : List Value} {literals : List Text}
    (h : values.mapM (encode escape) = .ok literals) :
    ∀ entry ∈ values.zip literals, encode escape entry.1 = .ok entry.2 := by
  intro entry he
  obtain ⟨-, hsteps⟩ := List.forall₂_iff_zip.mp (Result.forall₂_of_mapM h)
  exact hsteps he

theorem fits_of_mem_zip {escape : Escaper} {values : List Value} {literals : List Text}
    (h : values.mapM (encode escape) = .ok literals) (d : Dialect) :
    ∀ entry ∈ values.zip literals, Fits d entry := by
  intro entry he
  exact fits_of_encode (encode_of_mem_zip h entry he) d

/-- A store's own escaping closes every text in the reading of its own plain literals. -/
theorem closes_of_mem_zip {conn : Connection} {values : List Value} {literals : List Text}
    (hescapes : conn.EscapesAll values) (h : values.mapM (encode conn.escaper) = .ok literals) :
    ∀ entry ∈ values.zip literals, Closes conn.mode.dialect entry := by
  intro entry he hv body hbody
  obtain ⟨t, ht⟩ := Option.isSome_iff_exists.mp hv
  obtain ⟨u, -, hliteral⟩ := eq_wrapped_bodyOf (hescapes entry.1 (List.of_mem_zip he).1 hv) ht
    (encode_of_mem_zip h entry he)
  obtain rfl : body = conn.mode.bodyOf u := by
    rw [hbody] at hliteral
    simpa [wrapped] using hliteral
  exact conn.mode.closesBody_bodyOf u

/-- The scan of a text whose holes are filled, before anything is checked. -/
theorem segments_textOf_filled {d : Dialect} {t : Text} {entries : List Entry}
    (hs : Supplied d entries (parts d t))
    (hw : Whole d false [] ((parts d t).map (Part.filled entries))) :
    segments d (textOf ((parts d t).map (Part.filled entries)))
      = joinLiterals (filledSegments d t entries) := by
  have hscan := resumed_textOf (laid_filled (laid_parts d t) hs) hw
  have hstart : (false : Bool) = followsEscapeMark [] := rfl
  rwa [hstart, resumed_followsEscapeMark] at hscan

/-- The literals of an accepted statement are those of the filled template exactly if they all
end where they should. Then so is all the rest. -/
theorem segments_of_fill {d : Dialect} {t statement : Text} {entries : List Entry}
    (hfits : ∀ entry ∈ entries, Fits d entry)
    (h : fill d t (entries.map (·.2)) = .ok statement) :
    (Whole d false [] ((parts d t).map (Part.filled entries)) →
        segments d statement = filledSegments d t entries) ∧
      (outsideCode (segments d statement) = outsideCode (filledSegments d t entries) →
        Whole d false [] ((parts d t).map (Part.filled entries))) := by
  obtain ⟨rfl, hrange, hcount⟩ := eq_textOf_of_fill hfits h
  have hs := supplied_of_inRange hfits hrange
  have hlaid := laid_filled (laid_parts d t) hs
  constructor
  · intro hw
    -- literals that ran together would leave fewer of them
    rw [segments_textOf_filled hs hw] at hcount ⊢
    refine (countKind_joinLiterals _).2 ?_
    rw [hcount, filledSegments, countKind_assemble (by decide)]
  · intro hsame
    rw [filledSegments, outsideCode_assemble] at hsame
    have hscan : segments d (textOf ((parts d t).map (Part.filled entries)))
        = assemble ((parts d t).map (Part.filled entries)) := segmentsAfter_eq_assemble hlaid hsame
    rw [← whole_assemble hlaid, ← hscan]
    exact whole_segmentsAfter d [] _

/-- The scan of an accepted statement, where its literals end as they should. -/
theorem segments_of_substitute {conn : Connection} {template replacements : Value}
    {t statement : Text}
    (hescapes : ∀ values, replacementValues replacements = .ok values → conn.EscapesAll values)
    (ht : template.text? = some t)
    (hsafe : conn.mode.dialect.backslashEscapes = true ∨
      ∀ s ∈ sites conn.mode.dialect t, s.isClear = true)
    (h : substitute conn.mode.dialect conn.escaper template replacements = .ok statement) :
    ∃ values literals, replacementValues replacements = .ok values ∧
      values.mapM (encode conn.escaper) = .ok literals ∧
      InRange values.length (parts conn.mode.dialect t) ∧
      segments conn.mode.dialect statement
        = filledSegments conn.mode.dialect t (values.zip literals) := by
  obtain ⟨values, literals, hv, hl, hfill⟩ := substitute_eq_ok ht h
  rw [← map_snd_zip_of_mapM hl] at hfill
  have hfits := fits_of_mem_zip hl conn.mode.dialect
  obtain ⟨-, hrange, -⟩ := eq_textOf_of_fill hfits hfill
  have hw := whole_filled_parts (supplied_of_inRange hfits hrange)
    (closes_of_mem_zip (hescapes values hv) hl) hsafe
  rw [length_zip_of_mapM hl] at hrange
  exact ⟨values, literals, hv, hl, hrange, (segments_of_fill hfits hfill).1 hw⟩

/-- A template whose holes keep clear of marks keeps its structure, whatever the values are. -/
theorem segments_substitute_of_clear (conn : Connection) {template replacements : Value}
    {t statement : Text}
    (hescapes : ∀ values, replacementValues replacements = .ok values → conn.EscapesAll values)
    (ht : template.text? = some t)
    (hclear : ∀ s ∈ sites conn.mode.dialect t, s.isClear = true)
    (h : substitute conn.mode.dialect conn.escaper template replacements = .ok statement) :
    ∃ values literals, replacementValues replacements = .ok values ∧
      values.mapM (encode conn.escaper) = .ok literals ∧
      InRange values.length (parts conn.mode.dialect t) ∧
      segments conn.mode.dialect statement
        = filledSegments conn.mode.dialect t (values.zip literals) :=
  segments_of_substitute hescapes ht (.inr hclear) h

theorem segments_substitute_before_comment :
    substitute (Mode.postgres true).dialect (⟨.postgres true, {}, none⟩ : Connection).escaper
        (.text "SELECT {0} -- a".toList) (.list [.text "' -- ".toList])
        = .ok "SELECT ''' -- ' -- a".toList ∧
      ∃ values literals, replacementValues (.list [.text "' -- ".toList]) = .ok values ∧
        values.mapM (encode (⟨.postgres true, {}, none⟩ : Connection).escaper) = .ok literals ∧
        InRange values.length (parts (Mode.postgres true).dialect "SELECT {0} -- a".toList) ∧
        segments (Mode.postgres true).dialect "SELECT ''' -- ' -- a".toList
          = filledSegments (Mode.postgres true).dialect "SELECT {0} -- a".toList
              (values.zip literals) := by
  have hclear : (sites (Mode.postgres true).dialect "SELECT {0} -- a".toList).all Site.isClear
      = true := by
    cbv
  have hok : substitute (Mode.postgres true).dialect
      (⟨.postgres true, {}, none⟩ : Connection).escaper (.text "SELECT {0} -- a".toList)
      (.list [.text "' -- ".toList]) = .ok "SELECT ''' -- ' -- a".toList := by
    cbv
  exact ⟨hok,
    segments_substitute_of_clear ⟨.postgres true, {}, none⟩ (fun values _ =>
      Connection.escapesAll_documented Codec.spells_utf8 _ none values) rfl
      (List.all_eq_true.mp hclear) hok⟩

/-- Where a backslash takes the next character with it in every literal, there are no marks to
keep clear of: every template keeps its structure. -/
theorem segments_substitute_of_backslashes (conn : Connection) {template replacements : Value}
    {t statement : Text}
    (hescapes : ∀ values, replacementValues replacements = .ok values → conn.EscapesAll values)
    (hmode : conn.mode.backslashEscapes = true)
    (ht : template.text? = some t)
    (h : substitute conn.mode.dialect conn.escaper template replacements = .ok statement) :
    ∃ values literals, replacementValues replacements = .ok values ∧
      values.mapM (encode conn.escaper) = .ok literals ∧
      InRange values.length (parts conn.mode.dialect t) ∧
      segments conn.mode.dialect statement
        = filledSegments conn.mode.dialect t (values.zip literals) :=
  segments_of_substitute hescapes ht (.inl hmode) h

theorem segments_substitute_behind_mark :
    substitute (Mode.mysql true).dialect (⟨.mysql true, {}, none⟩ : Connection).escaper
        (.text "SELECT E{0}".toList) (.list [.text "\\' -- ".toList])
        = .ok "SELECT E'\\\\\\' -- '".toList ∧
      ∃ values literals, replacementValues (.list [.text "\\' -- ".toList]) = .ok values ∧
        values.mapM (encode (⟨.mysql true, {}, none⟩ : Connection).escaper) = .ok literals ∧
        InRange values.length (parts (Mode.mysql true).dialect "SELECT E{0}".toList) ∧
        segments (Mode.mysql true).dialect "SELECT E'\\\\\\' -- '".toList
          = filledSegments (Mode.mysql true).dialect "SELECT E{0}".toList
              (values.zip literals) := by
  have hok : substitute (Mode.mysql true).dialect (⟨.mysql true, {}, none⟩ : Connection).escaper
      (.text "SELECT E{0}".toList) (.list [.text "\\' -- ".toList])
        = .ok "SELECT E'\\\\\\' -- '".toList := by
    cbv
  exact ⟨hok, segments_substitute_of_backslashes ⟨.mysql true, {}, none⟩ (fun values _ =>
    Connection.escapesAll_documented Codec.spells_utf8 _ none values) rfl rfl hok⟩

/-- What may go wrong behind a mark where quotes are only doubled. The literals and comments of an
accepted statement are the right ones exactly if every literal, read at its place, ends with its
own quote. For the literal of a text that its store escapes, that is so without a mark; with one it
is so exactly if the backslashes of the text, as it is read back, spare its quotes and its end. -/
theorem outsideCode_substitute_iff_whole (conn : Connection) {template replacements : Value}
    {t statement : Text} (hmode : conn.mode.backslashEscapes = false)
    (ht : template.text? = some t)
    (h : substitute conn.mode.dialect conn.escaper template replacements = .ok statement) :
    ∃ values literals, replacementValues replacements = .ok values ∧
      values.mapM (encode conn.escaper) = .ok literals ∧
      (outsideCode (segments conn.mode.dialect statement)
          = outsideCode (filledSegments conn.mode.dialect t (values.zip literals)) ↔
        Whole conn.mode.dialect false []
          ((parts conn.mode.dialect t).map (Part.filled (values.zip literals)))) ∧
      (Whole conn.mode.dialect false []
          ((parts conn.mode.dialect t).map (Part.filled (values.zip literals))) →
        segments conn.mode.dialect statement
          = filledSegments conn.mode.dialect t (values.zip literals)) ∧
      ∀ entry ∈ values.zip literals, ∀ s, entry.1.text? = some s →
        conn.Escapes entry.1.isMarkup →
        ∃ u, conn.ReadsBack (plainPunctuation s) u ∧ entry.2 = wrapped (doubled isQuote u) ∧
          literalCut false entry.2.tail = ⟨entry.2.tail, [], true⟩ ∧
          (literalCut true entry.2.tail = ⟨entry.2.tail, [], true⟩ ↔ sparesQuotes u = true) := by
  obtain ⟨values, literals, hv, hl, hfill⟩ := substitute_eq_ok ht h
  rw [← map_snd_zip_of_mapM hl] at hfill
  obtain ⟨hto, hof⟩ := segments_of_fill (fits_of_mem_zip hl conn.mode.dialect) hfill
  refine ⟨values, literals, hv, hl, ⟨hof, ?_⟩, hto, ?_⟩
  · intro hw
    rw [hto hw]
  · intro entry he s hs hescapes
    obtain ⟨u, hu, hliteral⟩ := eq_wrapped_bodyOf hescapes hs (encode_of_mem_zip hl entry he)
    rw [Mode.bodyOf_eq_doubled hmode] at hliteral
    refine ⟨u, hu, hliteral, ?_⟩
    rw [hliteral]
    exact ⟨closesBody_doubled_quotes u, closesBody_true_doubled_quotes_iff u⟩

theorem outsideCode_substitute_iff_whole_behind_mark :
    substitute Mode.sqlite.dialect (⟨.sqlite, {}, none⟩ : Connection).escaper
        (.text "SELECT E{0}".toList) (.list [.text "\\n'".toList])
        = .ok "SELECT E'\\n'''".toList ∧
      ∃ values literals, replacementValues (.list [.text "\\n'".toList]) = .ok values ∧
        values.mapM (encode (⟨.sqlite, {}, none⟩ : Connection).escaper) = .ok literals ∧
        (outsideCode (segments Mode.sqlite.dialect "SELECT E'\\n'''".toList)
            = outsideCode (filledSegments Mode.sqlite.dialect "SELECT E{0}".toList
                (values.zip literals)) ↔
          Whole Mode.sqlite.dialect false []
            ((parts Mode.sqlite.dialect "SELECT E{0}".toList).map
              (Part.filled (values.zip literals)))) ∧
        (Whole Mode.sqlite.dialect false []
            ((parts Mode.sqlite.dialect "SELECT E{0}".toList).map
              (Part.filled (values.zip literals))) →
          segments Mode.sqlite.dialect "SELECT E'\\n'''".toList
            = filledSegments Mode.sqlite.dialect "SELECT E{0}".toList (values.zip literals)) ∧
        ∀ entry ∈ values.zip literals, ∀ s, entry.1.text? = some s →
          Connection.Escapes ⟨.sqlite, {}, none⟩ entry.1.isMarkup →
          ∃ u, Connection.ReadsBack ⟨.sqlite, {}, none⟩ (plainPunctuation s) u ∧
            entry.2 = wrapped (doubled isQuote u) ∧
            literalCut false entry.2.tail = ⟨entry.2.tail, [], true⟩ ∧
            (literalCut true entry.2.tail = ⟨entry.2.tail, [], true⟩ ↔
              sparesQuotes u = true) := by
  have hok : substitute Mode.sqlite.dialect (⟨.sqlite, {}, none⟩ : Connection).escaper
      (.text "SELECT E{0}".toList) (.list [.text "\\n'".toList])
        = .ok "SELECT E'\\n'''".toList := by
    cbv
  exact ⟨hok, outsideCode_substitute_iff_whole ⟨.sqlite, {}, none⟩ rfl rfl hok⟩

/-- A text that ends its literal early behind a mark and makes up for it: the statement has as many
literals and comments as it should, but the rest of the text is code and a comment. -/
theorem substitute_behind_mark_not_whole :
    substitute (Mode.postgres true).dialect (⟨.postgres true, {}, none⟩ : Connection).escaper
        (.text "SELECT E{0} -- c".toList) (.list [.text "\\' OR 1=1 -- ".toList])
        = .ok "SELECT E'\\'' OR 1=1 -- ' -- c".toList ∧
      encode (⟨.postgres true, {}, none⟩ : Connection).escaper (.text "\\' OR 1=1 -- ".toList)
        = .ok "'\\'' OR 1=1 -- '".toList ∧
      segments (Mode.postgres true).dialect "SELECT E'\\'' OR 1=1 -- ' -- c".toList
        = [.code "SELECT E".toList, .literal "'\\''".toList true, .code " OR 1=1 ".toList,
            .comment "-- ' -- c".toList true] ∧
      outsideCode (filledSegments (Mode.postgres true).dialect "SELECT E{0} -- c".toList
          [(.text "\\' OR 1=1 -- ".toList, "'\\'' OR 1=1 -- '".toList)])
        = [.literal "'\\'' OR 1=1 -- '".toList true, .comment "-- c".toList true] ∧
      outsideCode (segments (Mode.postgres true).dialect
          "SELECT E'\\'' OR 1=1 -- ' -- c".toList)
        ≠ outsideCode (filledSegments (Mode.postgres true).dialect "SELECT E{0} -- c".toList
            [(.text "\\' OR 1=1 -- ".toList, "'\\'' OR 1=1 -- '".toList)]) := by
  have hok : substitute (Mode.postgres true).dialect
      (⟨.postgres true, {}, none⟩ : Connection).escaper (.text "SELECT E{0} -- c".toList)
      (.list [.text "\\' OR 1=1 -- ".toList])
        = .ok "SELECT E'\\'' OR 1=1 -- ' -- c".toList := by
    cbv
  have hliteral : encode (⟨.postgres true, {}, none⟩ : Connection).escaper
      (.text "\\' OR 1=1 -- ".toList) = .ok "'\\'' OR 1=1 -- '".toList := by
    cbv
  have hscan : segments (Mode.postgres true).dialect
      "SELECT E'\\'' OR 1=1 -- ' -- c".toList
        = [.code "SELECT E".toList, .literal "'\\''".toList true, .code " OR 1=1 ".toList,
            .comment "-- ' -- c".toList true] := by
    cbv
  have hmeant : outsideCode (filledSegments (Mode.postgres true).dialect
      "SELECT E{0} -- c".toList [(.text "\\' OR 1=1 -- ".toList, "'\\'' OR 1=1 -- '".toList)])
        = [.literal "'\\'' OR 1=1 -- '".toList true, .comment "-- c".toList true] := by
    cbv
  refine ⟨hok, hliteral, hscan, hmeant, ?_⟩
  rw [hscan, hmeant]
  decide

end GuardedSql.Template
