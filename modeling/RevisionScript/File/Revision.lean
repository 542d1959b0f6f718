import RevisionScript.Failure
import RevisionScript.File.Tree
import RevisionScript.Script.Revision
import RevisionScript.Text.Basic

namespace RevisionScript

def isRevisionName (name : String) : Bool :=
  let cs := name.toList
  4 < cs.length && cs.drop (cs.length - 4) == ['.', 's', 'q', 'l']

namespace Files

variable (files : Files)

def readText (path : Path) (encoding : String) : Except Failure String := do
  match files path with
  | .error .missing => .error (.revision (.file (.notFound path.text)))
  | .error .nameTooLong => .error (.overlongPath path.text)
  | .ok (.directory _) => .error (.revision (.file (.notFile path.text)))
  | .ok (.file bytes) =>
    let e ← (Encoding.ofName encoding).mapError .encodingName
    match e.decode bytes with
    | .ok cs => .ok (String.ofList (unifyLineEnds cs))
    | .error .noByteOrderMark => .error .noByteOrderMark
    | .error (.undecodable u) => .error (.revision (.file (.undecodable path.text encoding u)))

def load (path : Path) (encoding : String) : Except Failure Revision := do
  let text ← readText files path encoding
  (Revision.parse text).mapError .reserved

def isFile (path : Path) : Except Failure Bool :=
  match files path with
  | .error .nameTooLong => .error (.overlongPath path.text)
  | .ok (.file _) => .ok true
  | _ => .ok false

def isRevisionIn (directory : Path) (name : String) : Except Failure Bool := do
  let file ← isFile files (directory.child name)
  return file && isRevisionName name

def revisionsIn (directory : Path) : Except Failure (List Path) :=
  match files directory with
  | .error .nameTooLong => .error (.overlongPath directory.text)
  | .ok (.directory names) => do
    let found ← names.filterM (isRevisionIn files directory)
    return (found.mergeSort fun a b ↦ decide (a ≤ b)).map directory.child
  | _ => .error (.revision (.file (.directoryNotFound directory.text)))

def expand (path : Path) : Except Failure (List Path) :=
  match files path with
  | .error .nameTooLong => .error (.overlongPath path.text)
  | .ok (.directory _) => revisionsIn files path
  | _ => .ok [path]

def collect (paths : List Path) : Except Failure (List Path) := do
  let found ← paths.mapM (expand files)
  return found.flatten

end Files

end RevisionScript
