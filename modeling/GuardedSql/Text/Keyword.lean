import GuardedSql.Text.Word

/-! Search for keywords as whole words, whatever the case of their letters. Keywords are given
in ASCII capitals. Besides its two ASCII forms a letter is also met by the characters that
Unicode folds to it: dotted and dotless i, the Kelvin sign and the long s. -/

namespace GuardedSql.Text

def sameLetter (letter c : Char) : Bool :=
  c.toUpper == letter
    || (letter == 'I' && (c == '\u0130' || c == '\u0131'))
    || (letter == 'K' && c == '\u212a')
    || (letter == 'S' && c == '\u017f')

/-- The capital of a letter of a keyword; the dotted i and the Kelvin sign are capitals. -/
def capital (c : Char) : Char :=
  if c == '\u0131' then 'I' else if c == '\u017f' then 'S' else c.toUpper

/-- Whether the word stands at the start of the text and ends where no word character follows. -/
def startsWithWord : Text → Text → Bool
  | [], t => atEdge t.head?
  | letter :: word, c :: t => sameLetter letter c && startsWithWord word t
  | _ :: _, [] => false

/-- The first of the words that stands at the start of the text, as the text spells it. -/
def wordAt (words : List Text) (t : Text) : Option Text :=
  (words.find? (startsWithWord · t)).map fun w => t.take w.length

/-- The first of the words to stand in the text as a whole word, as the text spells it;
`before` is the character in front of the text. -/
def findWord (words : List Text) (before : Option Char) : Text → Option Text
  | [] => none
  | c :: t =>
    if atEdge before then
      match wordAt words (c :: t) with
      | some hit => some hit
      | none => findWord words (some c) t
    else findWord words (some c) t

def hasWord (word t : Text) : Bool := (findWord [word] none t).isSome

end GuardedSql.Text
