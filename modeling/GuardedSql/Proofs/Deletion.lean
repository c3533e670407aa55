import GuardedSql.Proofs.Verdict

/-! Where a statement that a guard accepts may delete. While rows are retired by a flag, the word
is nowhere in its code. Where rows may be deleted, a LIMIT is asked for only of a statement that
leads with DELETE, and the search for it takes what Unicode folds to its letters; the statements
that get round the rule are told exactly. -/

namespace GuardedSql

open Sql

namespace Text

/-! Words spelled out -/

/-- A part of a text with no word character on either side. -/
def Stands (hit t : Text) : Prop :=
  ∃ before after, t = before ++ hit ++ after ∧
    (∀ c ∈ before.getLast?, isWordChar c = false) ∧ ∀ c ∈ after.head?, isWordChar c = false

/-- A text spells a word in ASCII letters, as a whole. -/
def SpellsWord (word t : Text) : Prop := ∃ hit, Stands hit t ∧ hit.map Char.toUpper = word

/-- A character that Unicode folds to an ASCII letter and that is none itself. -/
def isFolded (c : Char) : Bool :=
  c == '\u0130' || c == '\u0131' || c == '\u212a' || c == '\u017f'

/-- A text holds what a search takes for a word, with a folded character in it. -/
def DisguisesWord (word t : Text) : Prop :=
  ∃ hit, Stands hit t ∧ List.Forall₂ (fun letter c => sameLetter letter c = true) word hit ∧
    ∃ c ∈ hit, isFolded c = true

theorem holdsWord_iff_stands (word t : Text) : HoldsWord word t ↔
    ∃ hit, Stands hit t ∧ List.Forall₂ (fun letter c => sameLetter letter c = true) word hit := by
  constructor
  · intro h
    obtain ⟨before, hit, after, heq, hhit, hedges⟩ := h
    exact ⟨hit, ⟨before, after, heq, hedges⟩, hhit⟩
  · intro h
    obtain ⟨hit, ⟨before, after, heq, hedges⟩, hhit⟩ := h
    exact ⟨before, hit, after, heq, hhit, hedges⟩

theorem toUpper_eq_or_isFolded {letter c : Char} (h : sameLetter letter c = true) :
    c.toUpper = letter ∨ isFolded c = true := by
  simp only [sameLetter, Bool.or_eq_true, Bool.and_eq_true, beq_iff_eq] at h
  rcases h with ((h | ⟨-, rfl | rfl⟩) | ⟨-, rfl⟩) | ⟨-, rfl⟩
  · exact .inl h
  all_goals exact .inr (by decide)

theorem map_toUpper_eq_or_isFolded {word hit : Text}
    (h : List.Forall₂ (fun letter c => sameLetter letter c = true) word hit) :
    hit.map Char.toUpper = word ∨ ∃ c ∈ hit, isFolded c = true := by
  induction h with
  | nil => exact .inl rfl
  | cons hc _ ih =>
    rcases toUpper_eq_or_isFolded hc with hupper | hfolded
    · rcases ih with hword | ⟨c, hc, hfolded⟩
      · exact .inl (by rw [List.map_cons, hupper, hword])
      · exact .inr ⟨c, List.mem_cons_of_mem _ hc, hfolded⟩
    · exact .inr ⟨_, List.mem_cons_self, hfolded⟩

/-- What a search finds is spelled out, or has a folded character in it. -/
theorem HoldsWord.spells_or_disguises {word t : Text} (h : HoldsWord word t) :
    SpellsWord word t ∨ DisguisesWord word t := by
  obtain ⟨hit, hstands, hhit⟩ := (holdsWord_iff_stands word t).mp h
  rcases map_toUpper_eq_or_isFolded hhit with hword | hfolded
  · exact .inl ⟨hit, hstands, hword⟩
  · exact .inr ⟨hit, hstands, hhit, hfolded⟩

/-- A search misses no word that is spelled out. -/
theorem SpellsWord.holds {word t : Text} (h : SpellsWord word t) : HoldsWord word t := by
  obtain ⟨hit, hstands, rfl⟩ := h
  refine (holdsWord_iff_stands _ t).mpr ⟨hit, hstands, ?_⟩
  rw [List.forall₂_map_left_iff]
  refine List.forall₂_same.mpr fun c _ => ?_
  simp [sameLetter]

theorem spellsWord_of_atEdge {word t : Text} (before hit after : Text)
    (ht : t = before ++ hit ++ after) (hbefore : atEdge before.getLast? = true)
    (hafter : atEdge after.head? = true) (hword : hit.map Char.toUpper = word) :
    SpellsWord word t :=
  ⟨hit, ⟨before, after, ht, (atEdge_iff _).mp hbefore, (atEdge_iff _).mp hafter⟩, hword⟩

theorem DisguisesWord.exists_folded {word t : Text} (h : DisguisesWord word t) :
    ∃ c ∈ t, isFolded c = true := by
  obtain ⟨hit, ⟨before, after, rfl, -⟩, -, c, hc, hfolded⟩ := h
  exact ⟨c, by simp [hc], hfolded⟩

theorem SpellsWord.exists_letter {word t : Text} (h : SpellsWord word t) {letter : Char}
    (hletter : letter ∈ word) : ∃ c ∈ t, c.toUpper = letter := by
  obtain ⟨hit, ⟨before, after, rfl, -⟩, rfl⟩ := h
  obtain ⟨c, hc, hupper⟩ := List.mem_map.mp hletter
  exact ⟨c, by simp [hc], hupper⟩

end Text

namespace Guard

open Text (SpellsWord DisguisesWord HoldsWord spellsWord_of_atEdge)

/-- Some segment of code spells a word. -/
def Spells (segs : List Segment) (word : String) : Prop :=
  ∃ t, .code t ∈ segs ∧ SpellsWord word.toList t

/-- Some segment of code holds a word in disguise. -/
def Disguises (segs : List Segment) (word : String) : Prop :=
  ∃ t, .code t ∈ segs ∧ DisguisesWord word.toList t

/-- A statement with a DELETE and no LIMIT, and how it gets round the rule: it leads with another
command, or it has a LIMIT in disguise. -/
inductive Evades (segs : List Segment) : CommandKind → Prop
  | within {kind : CommandKind} : kind ≠ .delete → Spells segs "DELETE" →
      ¬ Spells segs "LIMIT" → Evades segs kind
  | disguised : Spells segs "DELETE" → Disguises segs "LIMIT" →
      ¬ Spells segs "LIMIT" → Evades segs .delete

theorem Evades.unlimited {segs : List Segment} {kind : CommandKind} (h : Evades segs kind) :
    Spells segs "DELETE" ∧ ¬ Spells segs "LIMIT" := by
  cases h with
  | within _ hdelete hlimit => exact ⟨hdelete, hlimit⟩
  | disguised hdelete _ hlimit => exact ⟨hdelete, hlimit⟩

/-- While rows are retired, no code that is permitted spells the word. -/
theorem Permits.not_spells_delete {g : Guard} {segs : List Segment} {kind : CommandKind}
    (h : g.Permits segs kind) (hg : g.softDelete = true) : ¬ Spells segs "DELETE" := by
  intro hdelete
  obtain ⟨t, ht, hspells⟩ := hdelete
  refine h.harmless t ht _ ?_ hspells.holds
  rw [forbiddenWords, if_pos hg]
  exact List.mem_append_right _ List.mem_cons_self

/-- A statement that leads with DELETE has what the search takes for a LIMIT. -/
theorem Permits.limit {g : Guard} {segs : List Segment} (h : g.Permits segs .delete) :
    Spells segs "LIMIT" ∨ Disguises segs "LIMIT" := by
  obtain ⟨run, -, -, hlimit⟩ := h.command
  obtain ⟨-, t, ht, hholds⟩ := hlimit rfl
  rcases hholds.spells_or_disguises with hspells | hdisguises
  · exact .inl ⟨t, ht, hspells⟩
  · exact .inr ⟨t, ht, hdisguises⟩

theorem Permits.spells_limit_iff {g : Guard} {segs : List Segment} {kind : CommandKind}
    (h : g.Permits segs kind) :
    (Spells segs "DELETE" → Spells segs "LIMIT") ↔ ¬ Evades segs kind := by
  constructor
  · intro hkeeps hevades
    obtain ⟨hdelete, hlimit⟩ := hevades.unlimited
    exact hlimit (hkeeps hdelete)
  · intro hevades hdelete
    by_contra hlimit
    by_cases hkind : kind = .delete
    · subst hkind
      exact hevades (.disguised hdelete (h.limit.resolve_left hlimit) hlimit)
    · exact hevades (.within hkind hdelete hlimit)

/-- The policy on deletion, of every accepted statement. While rows are retired its code has no
DELETE. Otherwise it has a LIMIT if it leads with DELETE, though it may be one in disguise, and a
DELETE comes with a LIMIT but for the statements that get round the rule. -/
theorem deletion_of_accepted {g : Guard} {statement : Text} {kind : CommandKind}
    (h : g.classify (.text statement) = .ok kind) :
    (g.softDelete = true → ¬ Spells (segments g.dialect statement) "DELETE") ∧
      (g.softDelete = false →
        (kind = .delete → Spells (segments g.dialect statement) "LIMIT" ∨
          Disguises (segments g.dialect statement) "LIMIT") ∧
        ((Spells (segments g.dialect statement) "DELETE" →
            Spells (segments g.dialect statement) "LIMIT") ↔
          ¬ Evades (segments g.dialect statement) kind)) := by
  have hpermits := (g.judge_eq_ok_iff_permits statement kind).mp h
  refine ⟨hpermits.not_spells_delete, fun _ => ⟨?_, hpermits.spells_limit_iff⟩⟩
  intro hkind
  subst hkind
  exact hpermits.limit

theorem deletion_of_accepted_delete :
    (Guard.mk false {}).classify (.text "delete FROM t LIMIT 1".toList) = .ok .delete ∧
      Spells (segments {} "delete FROM t LIMIT 1".toList) "DELETE" ∧
      Spells (segments {} "delete FROM t LIMIT 1".toList) "LIMIT" := by
  have hsegments : segments {} "delete FROM t LIMIT 1".toList
      = [.code "delete FROM t LIMIT 1".toList] := by
    cbv
  have haccepted : (Guard.mk false {}).classify (.text "delete FROM t LIMIT 1".toList)
      = .ok .delete := by
    cbv
  have hdelete : Spells (segments {} "delete FROM t LIMIT 1".toList) "DELETE" := by
    rw [hsegments]
    exact ⟨_, List.mem_cons_self, spellsWord_of_atEdge [] "delete".toList
      " FROM t LIMIT 1".toList (by cbv) (by cbv) (by cbv) (by cbv)⟩
  refine ⟨haccepted, hdelete, ((deletion_of_accepted haccepted).2 rfl).2.mpr ?_ hdelete⟩
  intro hevades
  cases hevades with
  | within hkind _ _ => exact hkind rfl
  | disguised _ hlimit _ =>
    rw [hsegments] at hlimit
    obtain ⟨t, ht, hdisguises⟩ := hlimit
    obtain rfl := Segment.code.inj (List.mem_singleton.mp ht)
    obtain ⟨c, hc, hfolded⟩ := hdisguises.exists_folded
    have hplain : "delete FROM t LIMIT 1".toList.all (!Text.isFolded ·) = true := by
      cbv
    have hc := List.all_eq_true.mp hplain c hc
    rw [hfolded] at hc
    cases hc

/-- Two statements that delete without a LIMIT and are accepted: an alias with dotless letters
passes for one, and behind another command none is asked for. -/
theorem unlimited_deletes_accepted :
    ((Guard.mk false {}).classify (.text "DELETE FROM t AS l\u0131m\u0131t".toList) = .ok .delete ∧
        Spells (segments {} "DELETE FROM t AS l\u0131m\u0131t".toList) "DELETE" ∧
        ¬ Spells (segments {} "DELETE FROM t AS l\u0131m\u0131t".toList) "LIMIT") ∧
      (Guard.mk false {}).classify
          (.text "INSERT INTO a WITH d AS (DELETE FROM t) SELECT 1".toList)
        = .ok .insert ∧
      Spells (segments {} "INSERT INTO a WITH d AS (DELETE FROM t) SELECT 1".toList) "DELETE" ∧
      ¬ Spells (segments {} "INSERT INTO a WITH d AS (DELETE FROM t) SELECT 1".toList)
        "LIMIT" := by
  have halias : segments {} "DELETE FROM t AS l\u0131m\u0131t".toList
      = [.code "DELETE FROM t AS l\u0131m\u0131t".toList] := by
    cbv
  have hwithin : segments {} "INSERT INTO a WITH d AS (DELETE FROM t) SELECT 1".toList
      = [.code "INSERT INTO a WITH d AS (DELETE FROM t) SELECT 1".toList] := by
    cbv
  rw [halias, hwithin]
  refine ⟨⟨?_, ?_, ?_⟩, by cbv, ?_, ?_⟩
  · -- the table of letters is too deep to be evaluated otherwise
    decide +kernel
  · exact ⟨_, List.mem_cons_self, spellsWord_of_atEdge [] "DELETE".toList
      " FROM t AS l\u0131m\u0131t".toList (by cbv) (by cbv) (by cbv) (by cbv)⟩
  · intro hlimit
    obtain ⟨t, ht, hspells⟩ := hlimit
    obtain rfl := Segment.code.inj (List.mem_singleton.mp ht)
    obtain ⟨c, hc, hupper⟩ := hspells.exists_letter (show 'I' ∈ "LIMIT".toList by decide)
    have hnone : "DELETE FROM t AS l\u0131m\u0131t".toList.all (·.toUpper != 'I') = true := by
      cbv
    have hc := List.all_eq_true.mp hnone c hc
    rw [hupper] at hc
    cases hc
  · exact ⟨_, List.mem_cons_self, spellsWord_of_atEdge "INSERT INTO a WITH d AS (".toList
      "DELETE".toList " FROM t) SELECT 1".toList (by cbv) (by cbv) (by cbv) (by cbv)⟩
  · intro hlimit
    obtain ⟨t, ht, hspells⟩ := hlimit
    obtain rfl := Segment.code.inj (List.mem_singleton.mp ht)
    have hword : ∀ word ∈ ["LIMIT".toList], Text.IsKeyword word := by decide
    have hfound := (Text.isSome_findWord_iff hword _).mpr ⟨_, List.mem_cons_self, hspells.holds⟩
    revert hfound
    decide +kernel

end Guard

end GuardedSql
