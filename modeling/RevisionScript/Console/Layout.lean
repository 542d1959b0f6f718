import RevisionScript.Console.Markup
import RevisionScript.Console.Width

namespace RevisionScript.Console

/-- Bell, backspace, vertical tab, form feed and carriage return are not shown. -/
def isDropped (c : Char) : Bool :=
  let n := c.toNat
  n == 7 || n == 8 || n == 11 || n == 12 || n == 13

/-- Joins the parts of a line that tabs have separated, the first part at a column. A tab shows as
a blank and as many more as lead to a multiple of the tab size. -/
def fillTabs (size : Nat) (width : List Char → Nat) (column : Nat) : List (List Char) → List Char
  | [] => []
  | [part] => part
  | part :: parts =>
    let reached := column + width (part ++ [' '])
    let gap := (size - reached % size) % size
    part ++ ' ' :: (List.replicate gap ' ' ++ fillTabs size width (reached + gap) parts)

def expandTabs (size : Nat) (width : List Char → Nat) (line : List Char) : List Char :=
  fillTabs size width 0 (List.splitOn '\t' line)

def trimLineEnd (line : List Char) : List Char := dropEndWhile (· == ' ') line

def mapLines (f : List Char → List Char) (text : List Char) : List Char :=
  List.intercalate ['\n'] ((List.splitOn '\n' text).map f)

def trimLines (text : List Char) : List Char := mapLines trimLineEnd text

def layMessage (text : List Char) : List Char :=
  trimLines (mapLines (expandTabs 8 columns) (text.filter (!isDropped ·))) ++ ['\n']

def message (markup : String) : Except MarkupFailure String := do
  let text ← Markup.render markup.toList
  return String.ofList (layMessage text)

def dropSignature : List Char → List Char
  | '\ufeff' :: cs => cs
  | cs => cs

/-- A listing of source text, which is shown as it is and never read as markup. Tabs stop at every
fourth character. -/
def sourceLines (text : List Char) : List Char :=
  let ended := if text.getLast? = some '\n' then text else text ++ ['\n']
  let expanded := mapLines (expandTabs 4 List.length) (unifyLineEnds ended)
  let shown := (dropSignature expanded).filter (!isDropped ·)
  trimLines (if text.getLast? = some '\n' then shown else shown.dropLast) ++ ['\n']

def source (text : String) : String := String.ofList (sourceLines text.toList)

def isSequenceParameter (c : Char) : Bool := c.isDigit || c == ';' || c == '?'

def afterSequence : List Char → Option (List Char)
  | [] => none
  | c :: cs =>
    if isSequenceParameter c then afterSequence cs
    else if c.isAlpha then some cs
    else none

theorem afterSequence_length {s rest : List Char} (h : afterSequence s = some rest) :
    rest.length < s.length := by
  fun_induction afterSequence s with
  | case1 => simp at h
  | case2 c cs _ ih => exact Nat.lt_succ_of_lt (ih h)
  | case3 c cs => simp_all
  | case4 => simp at h

/-- A text without its control sequences; an escape that begins none stays. -/
def withoutSequences : List Char → List Char
  | [] => []
  | '\x1b' :: '[' :: cs =>
    match _ : afterSequence cs with
    | some rest => withoutSequences rest
    | none => '\x1b' :: '[' :: withoutSequences cs
  | c :: cs => c :: withoutSequences cs
termination_by s => s.length
decreasing_by
  · have := afterSequence_length (by assumption)
    simp only [List.length_cons]; omega
  all_goals simp only [List.length_cons]; omega

end RevisionScript.Console
