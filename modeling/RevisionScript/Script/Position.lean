import RevisionScript.Run.Session
import RevisionScript.Script.Revision

namespace RevisionScript.Revision

def contains (r : Revision) (statement : String) : Bool := r.statements.contains statement

/-- The statement at a position; a negative one counts from the end. -/
def get? (r : Revision) (position : Int) : Option String :=
  let p := if position < 0 then position + r.size else position
  if p < 0 then none else r.statements[p.toNat]?

def statementAt (r : Revision) (position : Int) : Except Failure String :=
  if !isWord position then .error .positionTooLarge
  else match r.get? position with
    | some statement => .ok statement
    | none => .error .noSuchStatement

variable {W : Type}

def listFrom (total : Nat) : Nat → List String → Act W Unit
  | _, [] => pure ()
  | index, sql :: rest => do
    Act.say s!"[cyan]Statement {index}/{total}[/cyan]"
    Act.write (Console.source sql)
    listFrom total (index + 1) rest

def list (r : Revision) : Act W Unit :=
  if r.isEmpty then Act.say "[yellow]No statements found[/yellow]"
  else listFrom r.size 1 r.statements

end RevisionScript.Revision
