import GuardedSql.Config.IntegerText
import GuardedSql.Config.Problem
import GuardedSql.Store.Product
import GuardedSql.Value.Basic

/-! The reading of single fields. An integer may also be given as a boolean, as a number without
fraction, as a text or as the bytes of one, and a text as bytes; nothing else is made into
either. -/

namespace GuardedSql.Config

/-- Floats are read as integers of 64 bits only. -/
def floatLimit : Nat := Nat.pow 2 63

def readWritten (t : Text) : Except ProblemKind Int :=
  if isOverlong t then .error .overlongInteger
  else
    match parseInteger t with
    | some n => .ok n
    | none => .error .unreadableInteger

/-- The integer that a number is. Infinities and what is no number are none. -/
def readNumber : Option Decimal.Number → Except ProblemKind Int
  | none | some (.infinite _) => .error .notFinite
  | some x =>
    match x.toInt? with
    | some n => .ok n
    | none => .error .fractional

def readInteger : Value → Except ProblemKind Int
  | .int n => .ok n
  | .bool b => .ok (if b then 1 else 0)
  | .float bits => do
    let n ← readNumber (Decimal.Binary64.ofBits bits).number?
    if n.natAbs < floatLimit then return n else throw .overlongInteger
  | .decimal number => readNumber number.number?
  | .text t | .markup t => readWritten t
  | .bytes content false =>
    match Utf8.decode? content with
    | some t => readWritten t
    | none => .error .unreadableInteger
  | _ => .error .notInteger

/-- A field that null leaves unset. -/
def optional {α : Type} (read : Value → Except ProblemKind α) :
    Value → Except ProblemKind (Option α)
  | .null => .ok none
  | v => (read v).map some

def readText : Value → Except ProblemKind Text
  | .text t | .markup t => .ok t
  | .bytes content _ =>
    match Utf8.decode? content with
    | some t => .ok t
    | none => .error .notUnicode
  | _ => .error .notText

def readProduct (v : Value) : Except ProblemKind Product :=
  match v.text?.bind fun t => Product.ofName? (String.ofList t) with
  | some p => .ok p
  | none => .error .notProduct

def trueWords : List Text := ["1", "on", "t", "true", "y", "yes"].map String.toList

def falseWords : List Text := ["0", "off", "f", "false", "n", "no"].map String.toList

/-- A truth value as a word, in any case and without blanks around it. -/
def parseBool (t : Text) : Except ProblemKind Bool :=
  let word := t.map Char.toLower
  if trueWords.contains word then .ok true
  else if falseWords.contains word then .ok false
  else .error .unreadableBool

/-- A text within bounds of length, in code points. -/
def bounded (least most : Nat) (t : Text) : Except ProblemKind Text :=
  if t.length < least then .error (.tooShort least)
  else if most < t.length then .error (.tooLong most)
  else .ok t

def within (least most n : Int) : Except ProblemKind Int :=
  if n < least then .error (.tooSmall least)
  else if most < n then .error (.tooLarge most)
  else .ok n

def optionally {α : Type} (check : α → Except ProblemKind α) :
    Option α → Except ProblemKind (Option α)
  | none => .ok none
  | some a => (check a).map some

/-- The problem that a field has, under its name. -/
def problem? {α : Type} (name : String) : Except ProblemKind α → Option Problem
  | .ok _ => none
  | .error kind => some ⟨some name, kind⟩

end GuardedSql.Config
