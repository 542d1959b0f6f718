import RevisionScript.Console.Markup
import RevisionScript.Duration.Dyadic
import RevisionScript.Encoding.Name
import RevisionScript.Run.RecordField
import RevisionScript.Script.Revision
import RevisionScript.Text.Quoted

namespace RevisionScript

inductive FileFault
  | notFound (path : String)
  | notFile (path : String)
  | undecodable (path encoding : String) (detail : Undecodable)
  | directoryNotFound (path : String)
  deriving DecidableEq, Repr

namespace FileFault

def message : FileFault → String
  | notFound path => s!"Revision file not found: {path}"
  | notFile path => s!"Revision path is not a file: {path}"
  | undecodable path encoding detail => s!"Could not decode {path} as {encoding}: {detail.message}"
  | directoryNotFound path => s!"Revision directory not found: {path}"

def code : FileFault → String
  | notFound _ => "revision_not_found"
  | notFile _ => "revision_not_file"
  | undecodable _ _ _ => "revision_decode_error"
  | directoryNotFound _ => "revision_dir_not_found"

end FileFault

inductive DatabaseFault
  | unavailable (path detail : String)
  | transactionOpen
  deriving DecidableEq, Repr

namespace DatabaseFault

def message : DatabaseFault → String
  | unavailable path detail => s!"Could not open SQLite database {path}: {detail}"
  | transactionOpen => "A transaction is already open on this connection"

def code : DatabaseFault → String
  | unavailable _ _ => "backend_unavailable"
  | transactionOpen => "transaction_already_open"

end DatabaseFault

inductive RevisionFailureKind
  | general
  | parse
  | file
  | execution
  deriving DecidableEq, Repr

/-- A failure in the terms of this library. A backend may also report one with a message of its own
and perhaps a code. -/
inductive RevisionFailure
  | reserved (keyword : String)
  | file (fault : FileFault)
  | database (fault : DatabaseFault)
  | reported (kind : RevisionFailureKind) (message : String) (code : Option String)
  deriving DecidableEq, Repr

namespace RevisionFailure

def keywordText (keyword : String) : String := String.ofList (upper keyword.toList)

def kind : RevisionFailure → RevisionFailureKind
  | reserved _ => .parse
  | file _ => .file
  | database _ => .execution
  | reported kind _ _ => kind

def message : RevisionFailure → String
  | reserved keyword => s!"{keywordText keyword} command is not supported in a revision"
  | file fault => fault.message
  | database fault => fault.message
  | reported _ message _ => message

def code : RevisionFailure → Option String
  | reserved _ => some "reserved_command"
  | file fault => some fault.code
  | database fault => some fault.code
  | reported _ _ code => code

end RevisionFailure

/-- Everything that can stop an operation. Failures of the database driver and those of any other
collaborator carry the name of their kind. -/
inductive Failure
  | revision (failure : RevisionFailure)
  | driver (name message : String)
  | foreign (name message : String)
  | encodingName (error : EncodingNameError)
  | noByteOrderMark
  | markup (failure : MarkupFailure)
  | mismatch (mismatches : List Mismatch)
  | missingField (name : String)
  | noSuchStatement
  | positionTooLarge
  | nullInPath
  | overlongPath (path : String)
  | notFinite (reason : NotFinite)
  | tooManySeconds
  deriving DecidableEq, Repr

namespace Failure

def mismatchMessage (mismatches : List Mismatch) : String :=
  "; ".intercalate (mismatches.map (·.kind.name))

def message : Failure → String
  | revision failure => failure.message
  | driver _ message => message
  | foreign _ message => message
  | encodingName error => error.message
  | noByteOrderMark => "UTF-16 stream does not start with BOM"
  | markup failure => failure.message
  | mismatch mismatches => mismatchMessage mismatches
  | missingField name => s!"'{name}'"
  | noSuchStatement => "tuple index out of range"
  | positionTooLarge => "cannot fit 'int' into an index-sized integer"
  | nullInPath => "embedded null byte"
  | overlongPath path => s!"[Errno 36] File name too long: {quoted path}"
  | notFinite reason => reason.message
  | tooManySeconds => "integer division result too large for a float"

def endsRun : Failure → Bool
  | revision failure => failure.kind = .execution
  | _ => false

def reserved (command : ReservedCommand) : Failure := .revision (.reserved command.word)

end Failure

end RevisionScript
