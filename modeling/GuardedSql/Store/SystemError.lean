import GuardedSql.Text.Uncodable
import GuardedSql.Value.Printer

/-! Errors of the system under a driver: the class that the number of an error stands for, and
the texts of errors that read a meaning into their arguments. An error of the operating system
has a number, a message and files; malformed code has a place; text that cannot be coded has a
span. All others tell their arguments. -/

namespace GuardedSql

/-- Arguments told as they are: the only one, or all of them as a tuple. -/
def argumentsText : List Value → Text
  | [] => []
  | [arg] => arg.shown
  | args => (Value.tuple args).quoted

namespace SystemError

/-! Operations that the operating system fails -/

/-- The class of all failed operations. -/
def generalClass : String := "OSError"

/-- Other names of the general class. -/
def generalAliases : List String := ["EnvironmentError", "IOError"]

/-- The classes of failed operations, each with the numbers that stand for it. -/
def operationClasses : List (String × List Int) :=
  [(generalClass, []), ("BlockingIOError", [11, 114, 115]), ("ChildProcessError", [10]),
    ("ConnectionError", []), ("BrokenPipeError", [32, 108]), ("ConnectionAbortedError", [103]),
    ("ConnectionRefusedError", [111]), ("ConnectionResetError", [104]),
    ("FileExistsError", [17]), ("FileNotFoundError", [2]), ("InterruptedError", [4]),
    ("IsADirectoryError", [21]), ("NotADirectoryError", [20]), ("PermissionError", [1, 13]),
    ("ProcessLookupError", [3]), ("TimeoutError", [110])]

/-- Whether the operating system failed an operation: no file, no network, no right. -/
def isOperation (className : String) : Bool := operationClasses.any (·.1 == className)

def classOfNumber? (n : Int) : Option String :=
  (operationClasses.find? (·.2.contains n)).map (·.1)

/-- The number, the message and the further arguments of a failed operation. There is no number
without a message, and there are at most three further arguments. -/
def operation? : List Value → Option (Value × Value × List Value)
  | number :: message :: further =>
    if further.length ≤ 3 then some (number, message, further) else none
  | _ => none

/-- The class of an error raised under a name. The general class gives way to the class that the
number stands for. -/
def classOf (name : String) (args : List Value) : String :=
  if name == generalClass || generalAliases.contains name then
    let number := (operation? args).bind fun o => o.1.integer?
    (number.bind classOfNumber?).getD generalClass
  else name

/-- The files that further arguments name: the first and the third, but none without the first.
What an operation that would block has done so far, as a number, is no file. -/
def files (className : String) : List Value → List Value
  | [] | .null :: _ => []
  | first :: rest =>
    if className == "BlockingIOError" && first.integer?.isSome then []
    else
      match rest with
      | [] | [_] | [_, .null] => [first]
      | _ :: second :: _ => [first, second]

def filesText : List Value → Text
  | [] => []
  | named => ':' :: ' ' :: " -> ".toList.intercalate (named.map Value.quoted)

def operationText (className : String) (args : List Value) : Text :=
  match operation? args with
  | some (number, message, further) =>
    "[Errno ".toList ++ number.shown ++ ']' :: ' ' :: message.shown
      ++ filesText (files className further)
  | none => argumentsText args

/-! Malformed code -/

def malformedClasses : List String := ["SyntaxError", "IndentationError", "TabError"]

/-- The last part of a path. -/
def fileName (path : Text) : Text := (path.reverse.takeWhile (· != '/')).reverse

/-- The line of a place, if it is a number; one of more than 64 bits is told as -1. -/
def lineText? : Value → Option Text
  | .int n =>
    let told := if -Nat.pow 2 63 ≤ n && n < Nat.pow 2 63 then n else -1
    some ("line ".toList ++ Value.intText told)
  | _ => none

/-- A place: the file and the line, as far as they are known. -/
def placeText : List Value → Text
  | file :: line :: _ =>
    match (file.text?.map fileName).toList ++ (lineText? line).toList with
    | [] => []
    | parts => ' ' :: '(' :: Value.commaSeparated parts ++ [')']
  | _ => []

/-- The message of malformed code, and its place if there is one argument more. -/
def malformedText : List Value → Text
  | [] => Value.null.shown
  | [message, place] => message.shown ++ placeText place.items
  | message :: _ => message.shown

/-! Text that cannot be coded -/

/-- The only item of a span. -/
def onlyItem? {α : Type} (items : List α) (first stop : Int) : Option α :=
  if 0 ≤ first && stop == first + 1 then items[first.toNat]? else none

/-- The telling of a span of items, from a first to before an end. -/
def spanText? {α : Type} (verb unit : String) (form : α → Text) (items : Option (List α))
    (first stop reason : Value) : Option Text := do
  let all ← items
  let m ← first.integer?
  let n ← stop.integer?
  return Text.uncodable verb unit ((onlyItem? all m n).map form) m (n - 1) reason.shown

/-- The text of an error of coding, if its arguments are those of one. -/
def codingText? (className : String) (args : List Value) : Option Text :=
  match className, args with
  | "UnicodeEncodeError", [coder, object, first, stop, reason] =>
    (spanText? "encode" "character" Text.uncodableChar object.text? first stop reason).map
      (Text.coderReport coder.shown)
  | "UnicodeDecodeError", [coder, object, first, stop, reason] =>
    (spanText? "decode" "byte" Text.uncodableByte object.bytes? first stop reason).map
      (Text.coderReport coder.shown)
  | "UnicodeTranslateError", [object, first, stop, reason] =>
    spanText? "translate" "character" Text.uncodableChar object.text? first stop reason
  | _, _ => none

/-- A missing key is shown in its quoted form. -/
def missingKeyText : List Value → Text
  | [key] => key.quoted
  | args => argumentsText args

/-- The text of an error of the system. -/
def text (className : String) (args : List Value) : Text :=
  if isOperation className then operationText className args
  else if malformedClasses.contains className then malformedText args
  else if className == "KeyError" then missingKeyText args
  else (codingText? className args).getD (argumentsText args)

end SystemError

end GuardedSql
