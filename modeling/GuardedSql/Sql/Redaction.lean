import GuardedSql.Sql.Segment

/-! Texts fit for a log. Of a statement every literal is hidden. Of a store's message the quoted
parts are hidden, and the values in `Key (column)=(value)`. -/

namespace GuardedSql.Sql

def hiddenLiteral : Text := ['\'', '?', '\'']

def redact (segments : List Segment) : Text :=
  segments.flatMap fun
    | .literal .. => hiddenLiteral
    | s => s.text

/-- What follows a part in single quotes whose opening quote has been read. The part ends at the
first quote that is not doubled; in a text that has none it ends within the last doubled one. -/
def afterQuoted : Text → Option Text
  | [] => none
  | '\'' :: '\'' :: rest =>
    match afterQuoted rest with
    | some tail => some tail
    | none => some ('\'' :: rest)
  | '\'' :: rest => some rest
  | _ :: rest => afterQuoted rest

/-- What follows the next occurrence of a character. -/
def afterChar (stop : Char) : Text → Option Text
  | [] => none
  | c :: rest => if c == stop then some rest else afterChar stop rest

theorem length_afterQuoted {t tail : Text} (h : afterQuoted t = some tail) :
    tail.length < t.length := by
  fun_induction afterQuoted t with
  | case1 => simp at h
  | case2 rest tail' h' ih =>
    simp only [Option.some.injEq] at h
    subst h
    have := ih h'
    simp only [List.length_cons]
    omega
  | case3 rest h' ih =>
    simp only [Option.some.injEq] at h
    subst h
    simp
  | case4 rest h' =>
    simp only [Option.some.injEq] at h
    subst h
    simp
  | case5 c rest h' h'' ih =>
    have := ih h
    simp only [List.length_cons]
    omega

theorem length_afterChar {stop : Char} {t tail : Text} (h : afterChar stop t = some tail) :
    tail.length < t.length := by
  induction t with
  | nil => simp [afterChar] at h
  | cons c t ih =>
    simp only [afterChar] at h
    split at h
    · simp only [Option.some.injEq] at h
      subst h
      simp
    · have := ih h
      simp only [List.length_cons]
      omega

/-- What follows a quoted part that opens with the given character, if one does. -/
def afterOpening (c : Char) (t : Text) : Option Text :=
  if c == '\'' then afterQuoted t else if c == '"' then afterChar '"' t else none

theorem length_afterOpening {c : Char} {t tail : Text} (h : afterOpening c t = some tail) :
    tail.length < t.length := by
  unfold afterOpening at h
  split at h
  · exact length_afterQuoted h
  · split at h
    · exact length_afterChar h
    · simp at h

def hideQuoted : Text → Text
  | [] => []
  | c :: t =>
    match _h : afterOpening c t with
    | some tail => c :: '?' :: c :: hideQuoted tail
    | none => c :: hideQuoted t
termination_by t => t.length
decreasing_by
  · have := length_afterOpening _h
    simp only [List.length_cons]
    omega
  · simp

/-- A bracketed value ends at the first closing bracket; one that never ends is left alone. -/
def hideKeyValues : Text → Text
  | [] => []
  | ')' :: '=' :: '(' :: t =>
    match _h : afterChar ')' t with
    | some tail => ')' :: '=' :: '(' :: '?' :: ')' :: hideKeyValues tail
    | none => ')' :: hideKeyValues ('=' :: '(' :: t)
  | c :: t => c :: hideKeyValues t
termination_by t => t.length
decreasing_by
  · have := length_afterChar _h
    simp only [List.length_cons]
    omega
  · simp
  · simp

def redactMessage (message : Text) : Text := hideKeyValues (hideQuoted message)

end GuardedSql.Sql
