import RevisionScript.Run.Database

namespace RevisionScript

structure Outcome where
  advance : Float := 0
  reply : Except Failure Json

/-- A world that follows a script: each execution takes the next outcome. -/
structure Rehearsal where
  clock : Instant := 0
  outcomes : List Outcome := []
  inTransaction : Bool := false
  connectFailure : Option Failure := none
  beginFailure : Option Failure := none
  commitFailure : Option Failure := none
  rollbackFailure : Option Failure := none

namespace Rehearsal

def next (afterLast : Json) (r : Rehearsal) : Except Failure Json × Rehearsal :=
  match r.outcomes with
  | [] => (.ok afterLast, r)
  | o :: os => (o.reply, { r with clock := r.clock + o.advance, outcomes := os })

def executor : Executor Rehearsal where
  execute _ r := r.next .null
  now := clock

def answer (failure : Option Failure) (changed r : Rehearsal) : Except Failure Unit × Rehearsal :=
  match failure with
  | none => (.ok (), changed)
  | some e => (.error e, r)

/-- Beginning a transaction takes no outcome. -/
def execute (sql : String) (r : Rehearsal) : Except Failure Json × Rehearsal :=
  if sql = "BEGIN" then
    let (reply, r) := answer r.beginFailure { r with inTransaction := true } r
    (reply.map fun _ ↦ .int (-1), r)
  else r.next (.int (-1))

def database : Database Rehearsal where
  connect _ r := answer r.connectFailure r r
  execute := execute
  commit r := answer r.commitFailure { r with inTransaction := false } r
  rollback r := answer r.rollbackFailure { r with inTransaction := false } r
  close r := (.ok (), r)
  inTransaction r := r.inTransaction
  now := clock

end Rehearsal

end RevisionScript
