import RevisionScript.Console.Layout
import RevisionScript.Failure

namespace RevisionScript

/-- A reading of the clock, in seconds. -/
abbrev Instant := Float

/-- Whole milliseconds between two readings, rounded toward zero. -/
def millisecondsBetween (started ended : Instant) : Except Failure Int :=
  match Dyadic.ofFloat? ((ended - started) * 1000) with
  | .ok d => .ok d.truncate
  | .error reason => .error (.notFinite reason)

/-- No double comes near to so many seconds. -/
def exceedsSeconds (milliseconds : Int) : Bool :=
  1000 * (Nat.pow 2 1024 - Nat.pow 2 970) ≤ milliseconds.natAbs

/-- Milliseconds as seconds with two decimals, by way of the nearest double. -/
def secondsText (milliseconds : Int) : String :=
  let seconds := Float.ofScientific milliseconds.natAbs true 3
  { Dyadic.ofFloat seconds with negative := milliseconds < 0 }.hundredths

inductive Call
  | connect (path : String)
  | execute (sql : String)
  | commit
  | rollback
  | close
  deriving DecidableEq, Repr

structure Session (W : Type) where
  world : W
  calls : List Call := []
  output : String := ""

/-- An action may fail; what it has done until then stays done. -/
abbrev Act (W α : Type) := EStateM Failure (Session W) α

namespace Act

variable {W α β : Type}

theorem bind_apply (act : Act W α) (next : α → Act W β) (s : Session W) :
    (act >>= next) s = match act s with
      | .ok a s => next a s
      | .error e s => .error e s := by
  cases h : act s <;> simp [bind, EStateM.bind, h]

def ofExcept (reply : Except Failure α) : Act W α := fun s ↦
  match reply with
  | .ok a => .ok a s
  | .error e => .error e s

/-- A call counts as made before it succeeds or fails. -/
def call (c : Call) (step : W → Except Failure α × W) : Act W α := fun s ↦
  ofExcept (step s.world).1 { s with world := (step s.world).2, calls := s.calls ++ [c] }

def observe (f : W → α) : Act W α := fun s ↦ .ok (f s.world) s

def attempt (act : Act W α) : Act W (Except Failure α) := fun s ↦
  match act s with
  | .ok a s => .ok (.ok a) s
  | .error e s => .ok (.error e) s

def ending (act : Act W α) (last : Act W Unit) : Act W α := fun s ↦
  match act s with
  | .ok a s => match last s with
    | .ok _ s => .ok a s
    | .error e s => .error e s
  | .error e s => match last s with
    | .ok _ s => .error e s
    | .error e s => .error e s

def write (text : String) : Act W Unit := fun s ↦
  .ok () { s with output := s.output ++ text }

/-- Writes a message in markup; nothing of it when the markup is faulty. -/
def say (markup : String) : Act W Unit :=
  match Console.message markup with
  | .ok text => write text
  | .error e => ofExcept (.error (.markup e))

end Act

end RevisionScript
