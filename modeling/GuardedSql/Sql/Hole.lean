import GuardedSql.Sql.Segment

/-! Holes in a text: braces around anything that has no brace in it. A hole whose token is a
numeral asks for the value of that index. -/

namespace GuardedSql.Sql

/-- A character of a text, or a hole with its token. -/
inductive Piece where
  | char (c : Char)
  | hole (token : Text)
  deriving DecidableEq, Repr

def Piece.text : Piece → Text
  | .char c => [c]
  | .hole token => '\x7b' :: token ++ ['\x7d']

def isBrace (c : Char) : Bool := c == '\x7b' || c == '\x7d'

/-- The token of the hole whose opening brace has been read, with what follows its closing
brace. A second opening brace before any closing one is met leaves no hole here. -/
def holeToken? : Text → Option (Text × Text)
  | [] => none
  | c :: t =>
    if c == '\x7d' then some ([], t)
    else if c == '\x7b' then none
    else (holeToken? t).map fun parts => (c :: parts.1, parts.2)

theorem holeToken?_eq {t token rest : Text} (h : holeToken? t = some (token, rest)) :
    t = token ++ '\x7d' :: rest ∧ ∀ c ∈ token, isBrace c = false := by
  induction t generalizing token with
  | nil => simp [holeToken?] at h
  | cons c t ih =>
    simp only [holeToken?] at h
    split at h
    · rename_i hc
      obtain ⟨rfl, rfl⟩ := Prod.mk.inj (Option.some.inj h)
      simp only [beq_iff_eq] at hc
      simp [hc]
    · rename_i hclose
      split at h
      · simp at h
      · rename_i hopen
        obtain ⟨⟨a, b⟩, hab, hpair⟩ := Option.map_eq_some_iff.mp h
        obtain ⟨rfl, rfl⟩ := Prod.mk.inj hpair
        obtain ⟨ht, hall⟩ := ih hab
        refine ⟨by simp [ht], ?_⟩
        intro x hx
        cases List.mem_cons.mp hx with
        | inl e =>
          subst e
          simp_all [isBrace]
        | inr m => exact hall x m

def pieces : Text → List Piece
  | [] => []
  | c :: t =>
    match _h : (if c == '\x7b' then holeToken? t else none) with
    | some (token, rest) => .hole token :: pieces rest
    | none => .char c :: pieces t
termination_by t => t.length
decreasing_by
  · split at _h
    · obtain ⟨ht, _⟩ := holeToken?_eq _h
      subst ht
      simp only [List.length_cons, List.length_append]
      omega
    · simp at _h
  · simp

def render (pieces : List Piece) : Text := pieces.flatMap Piece.text

theorem render_pieces (t : Text) : render (pieces t) = t := by
  fun_induction pieces t with
  | case1 => rfl
  | case2 c t token rest h ih =>
    split at h
    · rename_i hc
      simp only [beq_iff_eq] at hc
      obtain ⟨ht, _⟩ := holeToken?_eq h
      simp only [render, List.flatMap_cons] at ih ⊢
      simp [ih, Piece.text, ht, hc]
    · simp at h
  | case3 c t h ih =>
    simp only [render, List.flatMap_cons] at ih ⊢
    simp [ih, Piece.text]

def Piece.token? : Piece → Option Text
  | .char _ => none
  | .hole token => some token

/-- The tokens of the holes of a text, in order. -/
def tokens (t : Text) : List Text := (pieces t).filterMap Piece.token?

/-- The tokens of the holes that lie within segments of a kind, in order. -/
def tokensIn (kind : SegmentKind) (segments : List Segment) : List Text :=
  (segments.filter (·.kind == kind)).flatMap fun s => tokens s.text

end GuardedSql.Sql
