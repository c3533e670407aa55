import GuardedSql.Text.Blank

/-! Text made safe for a page: the five characters that markup gives a meaning to are written
as character references. -/

namespace GuardedSql.Text

def reference (c : Char) : Text :=
  match c with
  | '&' => "&amp;".toList
  | '<' => "&lt;".toList
  | '>' => "&gt;".toList
  | '\'' => "&#39;".toList
  | '"' => "&#34;".toList
  | c => [c]

def markupSafe (t : Text) : Text := t.flatMap reference

end GuardedSql.Text
