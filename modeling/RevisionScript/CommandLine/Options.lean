import RevisionScript.Text.Quoted
import RevisionScript.Text.Similarity

namespace RevisionScript.CommandLine

inductive UsageError
  | noSuchOption (name : String) (similar : List String)
  | needsValue (name : String)
  | takesNoValue (name : String)
  | missingArgument (name : String)
  | missingOption (names : List String)
  | unexpected (words : List String)
  | noSuchCommand (name : String) (similar : List String)
  | isDirectory (names : List String) (value : String)
  | nothingGiven
  deriving DecidableEq, Repr

namespace UsageError

def alternatives (names : List String) : String := " / ".intercalate (names.map quoted)

def hint : List String → String
  | [] => ""
  | [name] => s!" Did you mean {quoted name}?"
  | names =>
    let sorted := names.mergeSort fun a b ↦ decide (a ≤ b)
    let listed := ", ".intercalate (sorted.map quoted)
    s!" (Did you mean one of: {listed}?)"

def message : UsageError → String
  | noSuchOption name similar => s!"No such option {quoted name}.{hint similar}"
  | needsValue name => s!"Option {quoted name} requires an argument."
  | takesNoValue name => s!"Option {quoted name} does not take a value."
  | missingArgument name => s!"Missing argument {quoted name}."
  | missingOption names => s!"Missing option {alternatives names}."
  | unexpected words =>
    let noun := if words.length = 1 then "argument" else "arguments"
    let listed := " ".intercalate words
    s!"Got unexpected extra {noun} ({listed})"
  | noSuchCommand name similar => s!"No such command {quoted name}.{hint similar}"
  | isDirectory names value =>
    s!"Invalid value for {alternatives names}: File {quoted value} is a directory."
  | nothingGiven => "Missing command."

/-- Errors in the value of an option are reported without the usage of the command. -/
def isBare : UsageError → Bool
  | needsValue _ | takesNoValue _ => true
  | _ => false

end UsageError

structure OptionRule where
  names : List String
  takesValue : Bool := false
  deriving DecidableEq, Repr

namespace OptionRule

def key (r : OptionRule) : String := r.names.headD ""

end OptionRule

def isLongName (name : String) : Bool := ['-', '-'].isPrefixOf name.toList

def ruleFor? (rules : List OptionRule) (name : String) : Option OptionRule :=
  rules.find? (·.names.contains name)

structure Given where
  key : String
  value : Option String := none
  deriving DecidableEq, Repr

structure WordOptions where
  given : List Given := []
  pending : Option (OptionRule × String) := none

def readLong (rules : List OptionRule) (name : String) (value : Option String) :
    Except UsageError WordOptions :=
  match ruleFor? rules name with
  | none =>
    .error (.noSuchOption name
      (Similarity.closest name ((rules.flatMap (·.names)).filter isLongName)))
  | some r =>
    match r.takesValue, value with
    | true, some v => .ok { given := [⟨r.key, some v⟩] }
    | true, none => .ok { pending := some (r, name) }
    | false, some _ => .error (.takesNoValue name)
    | false, none => .ok { given := [⟨r.key, none⟩] }

/-- Letters after a single dash; an option with a value takes the rest of them. -/
def readShort (rules : List OptionRule) : List Char → Except UsageError WordOptions
  | [] => .ok {}
  | c :: cs =>
    let name := String.ofList ['-', c]
    match ruleFor? rules name with
    | none => .error (.noSuchOption name [])
    | some r =>
      if r.takesValue then
        if cs = [] then .ok { pending := some (r, name) }
        else .ok { given := [⟨r.key, some (String.ofList cs)⟩] }
      else (readShort rules cs).map fun w ↦ { w with given := ⟨r.key, none⟩ :: w.given }

def readWord (rules : List OptionRule) (word : List Char) : Except UsageError WordOptions :=
  match word with
  | '-' :: '-' :: _ =>
    let name := String.ofList (word.takeWhile (· ≠ '='))
    match word.dropWhile (· ≠ '=') with
    | [] => readLong rules name none
    | _ :: value => readLong rules name (some (String.ofList value))
  | word => readShort rules word.tail

structure Words where
  given : List Given := []
  plain : List String := []
  deriving DecidableEq, Repr

namespace Words

def withGiven (given : List Given) (w : Words) : Words := { w with given := given ++ w.given }

def isOption : List Char → Bool
  | '-' :: _ :: _ => true
  | _ => false

/-- Two dashes end the options. When options must come first, so does the first other word. -/
def read (rules : List OptionRule) (optionsFirst : Bool) : List String → Except UsageError Words
  | [] => .ok {}
  | word :: rest =>
    if word = "--" then .ok { plain := rest }
    else if isOption word.toList then
      match readWord rules word.toList with
      | .error e => .error e
      | .ok ⟨given, none⟩ => (read rules optionsFirst rest).map (withGiven given)
      | .ok ⟨given, some (r, name)⟩ =>
        match rest with
        | [] => .error (.needsValue name)
        | value :: rest =>
          (read rules optionsFirst rest).map (withGiven (given ++ [⟨r.key, some value⟩]))
    else if optionsFirst then .ok { plain := word :: rest }
    else (read rules optionsFirst rest).map fun w ↦ { w with plain := word :: w.plain }

def has (w : Words) (key : String) : Bool := w.given.any (·.key == key)

def value? (w : Words) (key : String) : Option String :=
  (w.given.reverse.find? (·.key == key)).bind (·.value)

end Words

end RevisionScript.CommandLine
