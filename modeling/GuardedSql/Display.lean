import GuardedSql.Fault
import GuardedSql.Text.Markup

/-! Stored text made ready to be shown. Decoding undoes the quotes and the escaping of a literal
as far as that can be done; its result is for show and never goes back into a statement. -/

namespace GuardedSql.Display

/-- A text without one pair of quotes around it. -/
def unwrap (t : Text) : Text :=
  match t with
  | '\'' :: rest => if rest.getLast? == some '\'' then rest.dropLast else t
  | _ => t

def undouble : Text → Text
  | [] => []
  | '\'' :: '\'' :: rest => '\'' :: undouble rest
  | c :: rest => c :: undouble rest

/-- The character that a backslash and this one stand for. -/
def unescapedChar (c : Char) : Char :=
  match c with
  | '0' => '\x00'
  | 'b' => '\x08'
  | 'n' => '\n'
  | 'r' => '\r'
  | 't' => '\t'
  | 'Z' => '\x1a'
  | c => c

def unbackslash : Text → Text
  | [] => []
  | '\\' :: c :: rest => unescapedChar c :: unbackslash rest
  | c :: rest => c :: unbackslash rest

def decode (backslashEscapes : Bool) (encoded : Text) : Text :=
  let t := undouble (unwrap encoded)
  if backslashEscapes then unbackslash t else t

/-- A value as text for a page; null shows as nothing. -/
def ofValue : Value → Except Failure Text
  | .null => .ok []
  | .markup t => .ok t
  | v => if v.isWritable then .ok (Text.markupSafe v.shown) else .error .overlongInteger

end GuardedSql.Display
