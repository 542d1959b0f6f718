import RevisionScript.CommandLine.Program

namespace RevisionScript.CommandLine

/-- Without a database driver every connection fails; the clock stands still. -/
def disconnected (now : Instant) : Database Unit :=
  let failure := Failure.driver "unavailable" "no database driver is available"
  { connect := fun _ w ↦ (.error failure, w)
    execute := fun _ w ↦ (.error failure, w)
    commit := fun w ↦ (.error failure, w)
    rollback := fun w ↦ (.error failure, w)
    close := fun w ↦ (.ok (), w)
    inTransaction := fun _ ↦ false
    now := fun _ ↦ now }

def isOverlong (path : Path) : Bool :=
  Path.maxBytes < path.text.utf8ByteSize || path.parts.any (Path.maxNameBytes < ·.utf8ByteSize)

def entryAt (path : Path) : IO (Except Absence Entry) := do
  if isOverlong path then return .error .nameTooLong
  let place := (← IO.currentDir) / path.text
  if ← place.isDir then
    return .ok (.directory ((← place.readDir).toList.map (·.fileName)))
  else if ← place.pathExists then
    return .ok (.file (← IO.FS.readBinFile path.text).toList)
  else return .error .missing

def survey (path : Path) : IO (List (Path × Except Absence Entry)) := do
  let entry ← entryAt path
  let children := match entry with
    | .ok (.directory names) => names.map path.child
    | _ => []
  let entries ← children.mapM fun child ↦ return (child, ← entryAt child)
  return (path, entry) :: entries

end RevisionScript.CommandLine

open RevisionScript CommandLine in
def main (words : List String) : IO UInt32 := do
  let now := Float.ofNat (← IO.monoNanosNow) / 1000000000
  let token := String.ofList (Nat.toDigits 16 (0x100000000 + (← IO.rand 0 0xffffffff)) |>.drop 1)
  let entries := (← words.mapM fun word ↦ survey (.ofString word)).flatten
  let ending := program (disconnected now) (fun p ↦ (entries.lookup p).getD (.error .missing))
    token words ()
  IO.print ending.output
  IO.eprint ending.errorOutput
  if let some failure := ending.failure then IO.eprintln failure.message
  return ending.exitCode.toUInt32
