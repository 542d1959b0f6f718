namespace RevisionScript

/-- A path without its empty parts and single dots; parts that lead upwards stay. The root of a
relative path is empty. -/
structure Path where
  root : String := ""
  parts : List String := []
  deriving DecidableEq, Repr

namespace Path

/-- Two slashes at the start are a root of their own, any other number of them is one. -/
def rootOf : List Char → String
  | '/' :: '/' :: '/' :: _ => "/"
  | '/' :: '/' :: _ => "//"
  | '/' :: _ => "/"
  | _ => ""

def ofString (text : String) : Path where
  root := rootOf text.toList
  parts := ((List.splitOn '/' text.toList).map String.ofList).filter fun p ↦ p ≠ "" ∧ p ≠ "."

def text (p : Path) : String :=
  if p.root = "" ∧ p.parts = [] then "." else p.root ++ "/".intercalate p.parts

def maxNameBytes : Nat := 255

def maxBytes : Nat := 4095

def child (p : Path) (name : String) : Path := { p with parts := p.parts ++ [name] }

end Path

/-- What stands at a path. A directory lists the names in it in no particular order. -/
inductive Entry
  | file (bytes : List UInt8)
  | directory (names : List String)
  deriving DecidableEq, Repr

inductive Absence
  | missing
  | nameTooLong
  deriving DecidableEq, Repr

abbrev Files := Path → Except Absence Entry

inductive Tree
  | file (bytes : List UInt8)
  | directory (children : List (String × Tree))

namespace Tree

def entry : Tree → Entry
  | file bytes => .file bytes
  | directory children => .directory (children.map (·.1))

/-- Follows the parts of a path; `above` holds the directories around the present one, nearest
first. Outside the tree there are only directories without known children. No directory can be
asked for an overlong name. -/
def follow (above : List Tree) : Tree → List String → Except Absence Tree
  | t, [] => .ok t
  | file _, _ :: _ => .error .missing
  | directory children, part :: parts =>
    if part = ".." then
      match above with
      | [] => follow [] (directory []) parts
      | parent :: above => follow above parent parts
    else if Path.maxNameBytes < part.utf8ByteSize then .error .nameTooLong
    else match children.lookup part with
      | some t => follow (directory children :: above) t parts
      | none => .error .missing

/-- Nothing has a name with a null in it. -/
def files (t : Tree) : Files := fun p ↦
  if p.text.toList.contains '\x00' then .error .missing
  else if Path.maxBytes < p.text.utf8ByteSize then .error .nameTooLong
  else (follow [] (if p.root = "" then t else directory []) p.parts).map entry

def setChild (name : String) (t : Tree) : List (String × Tree) → List (String × Tree)
  | [] => [(name, t)]
  | c :: cs => if c.1 = name then (name, t) :: cs else c :: setChild name t cs

def alter (change : Option Tree → Tree) : List String → Option Tree → Tree
  | [], t => change t
  | part :: parts, t =>
    let children := match t with
      | some (directory cs) => cs
      | _ => []
    directory (setChild part (alter change parts (children.lookup part)) children)

def putFile (p : Path) (bytes : List UInt8) (t : Tree) : Tree :=
  alter (fun _ ↦ file bytes) p.parts (some t)

def putDirectory (p : Path) (t : Tree) : Tree :=
  alter (fun old ↦ match old with
    | some (directory cs) => directory cs
    | _ => directory []) p.parts (some t)

end Tree

end RevisionScript
