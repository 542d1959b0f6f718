import RevisionScript.Duration.Dyadic
import RevisionScript.Json.Value
import RevisionScript.Text.Basic

namespace RevisionScript

inductive Place
  | field (name : String)
  | item (index : Nat)
  deriving DecidableEq, Repr

def Place.toJson : Place → Json
  | field name => .string name
  | item index => .int index

inductive MismatchKind
  | missing
  | boolType
  | boolParsing
  | intType
  | intParsing
  | intSize
  | intFromReal
  | notFinite
  | stringType
  | notAmong
  | listType
  | recordType
  deriving DecidableEq, Repr

def MismatchKind.name : MismatchKind → String
  | missing => "missing"
  | boolType => "bool_type"
  | boolParsing => "bool_parsing"
  | intType => "int_type"
  | intParsing => "int_parsing"
  | intSize => "int_parsing_size"
  | intFromReal => "int_from_float"
  | notFinite => "finite_number"
  | stringType => "string_type"
  | notAmong => "literal_error"
  | listType => "list_type"
  | recordType => "model_type"

structure Mismatch where
  place : List Place
  kind : MismatchKind
  deriving DecidableEq, Repr

def Mismatch.within (p : Place) (m : Mismatch) : Mismatch := { m with place := p :: m.place }

def isWord (n : Int) : Bool := -0x8000000000000000 ≤ n && n < 0x8000000000000000

inductive Reading (α : Type)
  | ok (value : α)
  | missed (mismatches : List Mismatch)
  deriving DecidableEq, Repr

namespace Reading

variable {α β : Type}

def map (f : α → β) : Reading α → Reading β
  | ok a => ok (f a)
  | missed ms => missed ms

def seq : Reading (α → β) → Reading α → Reading β
  | ok f, a => a.map f
  | missed ms, ok _ => missed ms
  | missed ms, missed ms' => missed (ms ++ ms')

instance : Applicative Reading where
  pure := ok
  map := map
  seq f a := seq f (a ())

def of : Except MismatchKind α → Reading α
  | .ok a => ok a
  | .error k => missed [⟨[], k⟩]

def within (p : Place) : Reading α → Reading α
  | ok a => ok a
  | missed ms => missed (ms.map (·.within p))

def all : List (Reading α) → Reading (List α)
  | [] => ok []
  | a :: as => List.cons <$> a <*> all as

def toExcept : Reading α → Except (List Mismatch) α
  | ok a => .ok a
  | missed ms => .error ms

end Reading

namespace RecordField

def trueWords : List String := ["1", "true", "t", "yes", "y", "on"]

def falseWords : List String := ["0", "false", "f", "no", "n", "off"]

def boolOfInt (n : Int) : Except MismatchKind Bool :=
  if n = 0 then .ok false else if n = 1 then .ok true else .error .boolParsing

/-- The integer that a double is. The least one of 64 bits does not count as an integer of that
size. -/
def intOfReal (literal : String) : Except MismatchKind Int :=
  match (Json.realValue? literal).map Dyadic.ofFloat? with
  | some (.ok d) =>
    if d.quotient.1 % d.quotient.2 ≠ 0 then .error .intFromReal
    else if isWord d.truncate && d.truncate ≠ -0x8000000000000000 then .ok d.truncate
    else .error .intSize
  | _ => .error .notFinite

def readBool : Json → Except MismatchKind Bool
  | .bool b => .ok b
  | .int n => if isWord n then boolOfInt n else .error .boolType
  | .real literal => match intOfReal literal with
    | .ok n => boolOfInt n
    | .error _ => .error .boolType
  | .string s =>
    let word := String.ofList (s.toList.map Char.toLower)
    if trueWords.contains word then .ok true
    else if falseWords.contains word then .ok false
    else .error .boolParsing
  | _ => .error .boolType

def dropPointZeros (s : List Char) : List Char :=
  match s.reverse with
  | '0' :: cs => match cs.dropWhile (· == '0') with
    | '.' :: whole => whole.reverse
    | _ => s
  | _ => s

def dropZeros : List Char → List Char
  | '0' :: c :: cs => if c.isDigit then dropZeros (c :: cs) else '0' :: c :: cs
  | cs => cs

/-- A number without its underscores, unless one stands at the end or two stand together. -/
def joinDigits (s : List Char) : List Char :=
  let pieces := List.splitOn '_' s
  if pieces.tail.any List.isEmpty then s else pieces.flatten

def maxDigits : Nat := 4300

def natOfText (s : List Char) : Except MismatchKind Nat :=
  let digits := joinDigits (dropPointZeros s)
  if !digits.all Char.isDigit || !NumberLiteral.plainDigits digits then .error .intParsing
  else if maxDigits < digits.length then .error .intSize
  else .ok (NumberLiteral.digitsValue digits)

def unsignedOfText (s : List Char) : Except MismatchKind Int :=
  if s.head?.any Char.isDigit then (natOfText (dropZeros s)).map Int.ofNat else .error .intParsing

def intOfText (s : List Char) : Except MismatchKind Int :=
  match trim s with
  | '-' :: cs => (natOfText cs).map fun n ↦ -(n : Int)
  | '+' :: cs => unsignedOfText cs
  | cs => unsignedOfText cs

def readInt : Json → Except MismatchKind Int
  | .int n => .ok n
  | .bool b => .ok (if b then 1 else 0)
  | .real literal => intOfReal literal
  | .string s => intOfText s.toList
  | _ => .error .intType

def readString : Json → Except MismatchKind String
  | .string s => .ok s
  | _ => .error .stringType

def orNull {α : Type} (read : Json → Except MismatchKind α) :
    Json → Except MismatchKind (Option α)
  | .null => .ok none
  | v => some <$> read v

def among {α : Type} (values : List α) (name : α → String) : Json → Except MismatchKind α
  | .string s => match values.find? (name · == s) with
    | some a => .ok a
    | none => .error .notAmong
  | _ => .error .notAmong

def readList {α : Type} (read : Json → Reading α) : Json → Reading (List α)
  | .list items =>
    Reading.all (items.mapIdx fun i v ↦ (read v).within (.item i))
  | _ => .missed [⟨[], .listType⟩]

variable {α : Type}

def required (name : String) (read : Json → Reading α) (record : Json) : Reading α :=
  match record.field? name with
  | some v => (read v).within (.field name)
  | none => .missed [⟨[.field name], .missing⟩]

def optional (name : String) (default : α) (read : Json → Reading α) (record : Json) :
    Reading α :=
  match record.field? name with
  | some v => (read v).within (.field name)
  | none => .ok default

end RecordField

end RevisionScript
