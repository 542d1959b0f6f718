import RevisionScript.Text.Basic
import RevisionScript.Text.Case

namespace RevisionScript

def dropReturn (line : List Char) : List Char :=
  if line.getLast? = some '\r' then line.dropLast else line

/-- The lines of a script, each without one carriage return at its end; an empty last line is
left out. -/
def scriptLines (text : List Char) : List (List Char) :=
  let lines := (List.splitOn '\n' text).map dropReturn
  if lines.getLast? = some [] then lines.dropLast else lines

def isCommentLine (line : List Char) : Bool := ['-', '-'].isPrefixOf (trim line)

def dropComments (text : List Char) : List Char :=
  ((scriptLines text).filter (!isCommentLine ·)).flatMap (· ++ ['\n'])

/-- The script without its whole-line comments. A comment after code stays. -/
def withoutComments (text : String) : String := String.ofList (dropComments text.toList)

inductive Quoting
  | unquoted
  | inString
  | inIdentifier
  deriving DecidableEq, Repr

namespace Quoting

def after : Quoting → Char → Quoting
  | unquoted, '\x27' => inString
  | unquoted, '\x22' => inIdentifier
  | inString, '\x27' => unquoted
  | inIdentifier, '\x22' => unquoted
  | q, _ => q

def endsFragment (q : Quoting) (c : Char) : Bool := q == unquoted && c == ';'

def name : Quoting → String
  | unquoted => "unquoted"
  | inString => "in_string"
  | inIdentifier => "in_delimited_identifier"

end Quoting

/-- A script read up to some character: the fragments closed so far and the open one. -/
structure Scan where
  quoting : Quoting := .unquoted
  closed : List String := []
  current : String := ""
  deriving DecidableEq, Repr

namespace Scan

def accept (s : Scan) (c : Char) : Scan :=
  if s.quoting.endsFragment c then
    { s with closed := s.closed ++ [s.current], current := "" }
  else
    { s with quoting := s.quoting.after c, current := s.current.push c }

def feed (s : Scan) (text : String) : Scan := text.toList.foldl accept s

def fragments (s : Scan) : List String := s.closed ++ [s.current]

end Scan

def fragments (text : String) : List String := (({} : Scan).feed text).fragments

inductive ReservedCommand
  | begin
  | savepoint
  | rollback
  | commit
  deriving DecidableEq, Repr

namespace ReservedCommand

def all : List ReservedCommand := [begin, savepoint, rollback, commit]

def word : ReservedCommand → String
  | begin => "begin"
  | savepoint => "savepoint"
  | rollback => "rollback"
  | commit => "commit"

def inspectedLength : Nat := 10

/-- The command that a statement opens with, case ignored. The word need not end where the
command does: `commitment` opens with `commit`. -/
def opening? (statement : String) : Option ReservedCommand :=
  let head := lowerText (statement.toList.take inspectedLength)
  all.find? fun command ↦ command.word.toList.isPrefixOf head

def first? (statements : List String) : Option ReservedCommand :=
  statements.findSome? opening?

end ReservedCommand

structure Revision where
  statements : List String
  deriving DecidableEq, Repr

namespace Revision

def size (r : Revision) : Nat := r.statements.length

def isEmpty (r : Revision) : Bool := r.statements.isEmpty

def statementsOf (fragments : List String) : List String :=
  (fragments.map fun f ↦ String.ofList (trim f.toList)).filter (· ≠ "")

/-- A script is refused as a whole when one of its statements opens with a reserved command. -/
def parse (text : String) : Except ReservedCommand Revision :=
  let statements := statementsOf (fragments (withoutComments text))
  match ReservedCommand.first? statements with
  | some command => .error command
  | none => .ok ⟨statements⟩

end Revision

end RevisionScript
