namespace RevisionScript

/-- A JSON value. Objects keep the order of their fields, and a number that is not written as an
integer keeps its literal, so that reading and writing lose nothing. Words stand for the doubles
that are no numbers. -/
inductive Json
  | null
  | bool (value : Bool)
  | int (value : Int)
  | real (literal : String)
  | string (value : String)
  | list (items : List Json)
  | object (fields : List (String × Json))
  deriving Inhabited

def notFiniteWords : List (String × Float) :=
  [("Infinity", 1 / 0), ("-Infinity", -1 / 0), ("NaN", 0 / 0)]

structure NumberLiteral where
  negative : Bool
  whole : List Char
  fraction : Option (List Char)
  exponent : Option (Bool × List Char)

namespace NumberLiteral

def digitsValue (digits : List Char) : Nat :=
  digits.foldl (fun n d ↦ 10 * n + (d.toNat - 48)) 0

def takeSign : List Char → Bool × List Char
  | '-' :: cs => (true, cs)
  | cs => (false, cs)

def plainDigits : List Char → Bool
  | [] => false
  | '0' :: _ :: _ => false
  | _ => true

def readExponent : List Char → Option (Option (Bool × List Char))
  | [] => some none
  | e :: cs =>
    if e = 'e' ∨ e = 'E' then
      let (negative, digits) := match cs with
        | '+' :: ds => (false, ds)
        | '-' :: ds => (true, ds)
        | ds => (false, ds)
      if digits ≠ [] ∧ digits.all Char.isDigit then some (some (negative, digits)) else none
    else none

def ofChars? (literal : List Char) : Option NumberLiteral :=
  let (negative, rest) := takeSign literal
  let whole := rest.takeWhile Char.isDigit
  if !plainDigits whole then none
  else match rest.dropWhile Char.isDigit with
    | '.' :: cs =>
      let fraction := cs.takeWhile Char.isDigit
      if fraction = [] then none
      else (readExponent (cs.dropWhile Char.isDigit)).map (⟨negative, whole, some fraction, ·⟩)
    | cs => (readExponent cs).map (⟨negative, whole, none, ·⟩)

def isInteger (n : NumberLiteral) : Bool := n.fraction.isNone && n.exponent.isNone

def toInt (n : NumberLiteral) : Int :=
  let m : Int := digitsValue n.whole
  if n.negative then -m else m

def toFloat (n : NumberLiteral) : Float :=
  let fraction := n.fraction.getD []
  let digits := digitsValue (n.whole ++ fraction)
  let exponent : Int := match n.exponent with
    | none => 0
    | some (negative, ds) => if negative then -(digitsValue ds : Int) else digitsValue ds
  let scale : Int := exponent - fraction.length
  let magnitude := Float.ofScientific digits (scale < 0) scale.natAbs
  if n.negative then -magnitude else magnitude

end NumberLiteral

namespace Json

def ofInt? (n : Option Int) : Json := n.elim .null .int

def ofString? (s : Option String) : Json := s.elim .null .string

def strings (ss : List String) : Json := .list (ss.map .string)

def field? (key : String) : Json → Option Json
  | .object fields => fields.lookup key
  | _ => none

def string? : Json → Option String
  | .string s => some s
  | _ => none

def bool? : Json → Option Bool
  | .bool b => some b
  | _ => none

def int? : Json → Option Int
  | .int n => some n
  | _ => none

def list? : Json → Option (List Json)
  | .list items => some items
  | _ => none

def realValue? (literal : String) : Option Float :=
  match NumberLiteral.ofChars? literal.toList with
  | some n => some n.toFloat
  | none => notFiniteWords.lookup literal

def float? : Json → Option Float
  | .int n => some (Float.ofInt n)
  | .real literal => realValue? literal
  | _ => none

def isTruthy : Json → Bool
  | .null => false
  | .bool b => b
  | .int n => n ≠ 0
  | .real literal => (NumberLiteral.ofChars? literal.toList).all fun n ↦
      NumberLiteral.digitsValue (n.whole ++ n.fraction.getD []) ≠ 0
  | .string s => s ≠ ""
  | .list items => !items.isEmpty
  | .object fields => !fields.isEmpty

/-- A number below zero, or one that compares with nothing. -/
def isNegative : Json → Bool
  | .int n => n < 0
  | .real literal => !((realValue? literal).any (0 ≤ ·))
  | _ => false

end Json

end RevisionScript
