import RevisionScript.Json.Value
import RevisionScript.Text.Basic

namespace RevisionScript.Json

def unitEscape (n : Nat) : List Char := '\\' :: 'u' :: hexDigits 4 n

/-- Everything outside the printable ASCII range is escaped, beyond the basic plane as two
units. -/
def escapeChar (c : Char) : List Char :=
  let n := c.toNat
  if c = '\x22' then ['\\', '\x22']
  else if c = '\\' then ['\\', '\\']
  else if c = '\n' then ['\\', 'n']
  else if c = '\r' then ['\\', 'r']
  else if c = '\t' then ['\\', 't']
  else if n = 8 then ['\\', 'b']
  else if n = 12 then ['\\', 'f']
  else if 0x20 ≤ n ∧ n < 0x7f then [c]
  else if n < 0x10000 then unitEscape n
  else unitEscape (0xd800 + (n - 0x10000) / 1024) ++ unitEscape (0xdc00 + (n - 0x10000) % 1024)

def quote (s : String) : List Char := '\x22' :: s.toList.flatMap escapeChar ++ ['\x22']

/-- What stands before each item at a nesting depth, and what follows a field's colon. -/
structure Layout where
  lineBreak : Nat → List Char
  afterColon : List Char

namespace Layout

def indented : Layout := ⟨fun depth ↦ '\n' :: List.replicate (2 * depth) ' ', [' ']⟩

def oneLine : Layout := ⟨fun _ ↦ [], []⟩

end Layout

mutual

/-- Empty lists and objects have no inner line breaks. Every value is written: the limits of a
runtime that refuses integers of more than 4300 digits and very deep nesting are left out. -/
def write (l : Layout) (depth : Nat) : Json → List Char
  | .null => "null".toList
  | .bool true => "true".toList
  | .bool false => "false".toList
  | .int n => (toString n).toList
  | .real literal => literal.toList
  | .string s => quote s
  | .list [] => ['[', ']']
  | .list (v :: vs) =>
    '[' :: (l.lineBreak (depth + 1) ++ write l (depth + 1) v ++ writeItems l (depth + 1) vs ++
      l.lineBreak depth ++ [']'])
  | .object [] => ['\x7b', '\x7d']
  | .object ((k, v) :: fs) =>
    '\x7b' :: (l.lineBreak (depth + 1) ++ quote k ++ ':' :: l.afterColon ++ write l (depth + 1) v ++
      writeFields l (depth + 1) fs ++ l.lineBreak depth ++ ['\x7d'])

def writeItems (l : Layout) (depth : Nat) : List Json → List Char
  | [] => []
  | v :: vs => ',' :: (l.lineBreak depth ++ write l depth v ++ writeItems l depth vs)

def writeFields (l : Layout) (depth : Nat) : List (String × Json) → List Char
  | [] => []
  | (k, v) :: fs =>
    ',' :: (l.lineBreak depth ++ quote k ++ ':' :: l.afterColon ++ write l depth v ++
      writeFields l depth fs)

end

def pretty (v : Json) : String := String.ofList (write .indented 0 v)

def compact (v : Json) : String := String.ofList (write .oneLine 0 v)

end RevisionScript.Json
