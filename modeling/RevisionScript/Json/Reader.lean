import RevisionScript.Json.Value
import RevisionScript.Text.Basic

namespace RevisionScript.Json

inductive Token
  | openList
  | closeList
  | openObject
  | closeObject
  | comma
  | colon
  | scalar (value : Json)

/-- Where the lexer stands: between tokens, within a bare word or number, or within a string.
What is collected of a token is held in reverse. -/
inductive LexState
  | between
  | bare (taken : List Char)
  | text (taken : List Char)
  | escape (taken : List Char)
  | unit (taken : List Char) (high : Option Nat) (missing value : Nat)
  | pairBackslash (taken : List Char) (high : Nat)
  | pairLetter (taken : List Char) (high : Nat)

def isSpace (c : Char) : Bool := c == ' ' || c == '\n' || c == '\r' || c == '\t'

def isBareChar (c : Char) : Bool := c.isAlphanum || c == '-' || c == '+' || c == '.'

def bareValue? (chars : List Char) : Option Json :=
  if chars = "null".toList then some .null
  else if chars = "true".toList then some (.bool true)
  else if chars = "false".toList then some (.bool false)
  else if (notFiniteWords.lookup (String.ofList chars)).isSome then
    some (.real (String.ofList chars))
  else (NumberLiteral.ofChars? chars).map fun n ↦
    if n.isInteger then .int n.toInt else .real (String.ofList chars)

def simpleEscape? : Char → Option Char
  | '\x22' => some '\x22'
  | '\\' => some '\\'
  | '/' => some '/'
  | 'b' => some '\x08'
  | 'f' => some '\x0c'
  | 'n' => some '\n'
  | 'r' => some '\r'
  | 't' => some '\t'
  | _ => none

/-- The state after a whole UTF-16 unit; a surrogate must be one of a pair. -/
def afterUnit (taken : List Char) (high : Option Nat) (n : Nat) : Option LexState :=
  match high with
  | none =>
    if 0xd800 ≤ n ∧ n < 0xdc00 then some (.pairBackslash taken n)
    else if 0xdc00 ≤ n ∧ n < 0xe000 then none
    else some (.text (Char.ofNat n :: taken))
  | some h =>
    if 0xdc00 ≤ n ∧ n < 0xe000 then
      some (.text (Char.ofNat (0x10000 + (h - 0xd800) * 1024 + (n - 0xdc00)) :: taken))
    else none

def startToken (c : Char) : Option (List Token × LexState) :=
  if isSpace c then some ([], .between)
  else if c = '[' then some ([.openList], .between)
  else if c = ']' then some ([.closeList], .between)
  else if c = '\x7b' then some ([.openObject], .between)
  else if c = '\x7d' then some ([.closeObject], .between)
  else if c = ',' then some ([.comma], .between)
  else if c = ':' then some ([.colon], .between)
  else if c = '\x22' then some ([], .text [])
  else if isBareChar c then some ([], .bare [c])
  else none

def lexStep (state : LexState) (c : Char) : Option (List Token × LexState) :=
  match state with
  | .between => startToken c
  | .bare taken =>
    if isBareChar c then some ([], .bare (c :: taken))
    else do
      let v ← bareValue? taken.reverse
      let (tokens, next) ← startToken c
      some (.scalar v :: tokens, next)
  | .text taken =>
    if c = '\x22' then some ([.scalar (.string (String.ofList taken.reverse))], .between)
    else if c = '\\' then some ([], .escape taken)
    else if c.toNat < 0x20 then none
    else some ([], .text (c :: taken))
  | .escape taken =>
    if c = 'u' then some ([], .unit taken none 4 0)
    else (simpleEscape? c).map fun x ↦ ([], .text (x :: taken))
  | .unit taken high missing value => do
    let d ← hexValue? c
    let n := 16 * value + d
    if missing ≤ 1 then (afterUnit taken high n).map ([], ·)
    else some ([], .unit taken high (missing - 1) n)
  | .pairBackslash taken high => if c = '\\' then some ([], .pairLetter taken high) else none
  | .pairLetter taken high => if c = 'u' then some ([], .unit taken (some high) 4 0) else none

def lexEnd : LexState → Option (List Token)
  | .between => some []
  | .bare taken => (bareValue? taken.reverse).map ([.scalar ·])
  | _ => none

def lex (state : LexState) : List Char → Option (List Token)
  | [] => lexEnd state
  | c :: cs => do
    let (tokens, next) ← lexStep state c
    let rest ← lex next cs
    some (tokens ++ rest)

/-- A list or object around the place where the reader stands; items are held in reverse, and an
object names the field whose value comes next. -/
inductive Frame
  | list (items : List Json)
  | object (fields : List (String × Json)) (key : String)

inductive Position
  | value
  | firstItem
  | afterItem (items : List Json)
  | firstKey
  | key (fields : List (String × Json))
  | colon (fields : List (String × Json)) (key : String)
  | afterField (fields : List (String × Json))
  | done (value : Json)

structure ReadState where
  position : Position
  frames : List Frame

namespace ReadState

def complete (v : Json) : List Frame → ReadState
  | [] => ⟨.done v, []⟩
  | .list items :: fs => ⟨.afterItem (v :: items), fs⟩
  | .object fields key :: fs => ⟨.afterField ((key, v) :: fields), fs⟩

def beginValue (frames : List Frame) : Token → Option ReadState
  | .scalar v => some (complete v frames)
  | .openList => some ⟨.firstItem, frames⟩
  | .openObject => some ⟨.firstKey, frames⟩
  | _ => none

def advance (s : ReadState) (t : Token) : Option ReadState :=
  match s.position, t with
  | .value, t => beginValue s.frames t
  | .firstItem, .closeList => some (complete (.list []) s.frames)
  | .firstItem, t => beginValue (.list [] :: s.frames) t
  | .afterItem items, .comma => some ⟨.value, .list items :: s.frames⟩
  | .afterItem items, .closeList => some (complete (.list items.reverse) s.frames)
  | .firstKey, .closeObject => some (complete (.object []) s.frames)
  | .firstKey, .scalar (.string k) => some ⟨.colon [] k, s.frames⟩
  | .key fields, .scalar (.string k) => some ⟨.colon fields k, s.frames⟩
  | .colon fields k, .colon => some ⟨.value, .object fields k :: s.frames⟩
  | .afterField fields, .comma => some ⟨.key fields, s.frames⟩
  | .afterField fields, .closeObject => some (complete (.object fields.reverse) s.frames)
  | _, _ => none

end ReadState

def read (text : String) : Option Json := do
  let tokens ← lex .between text.toList
  let s ← tokens.foldlM ReadState.advance ⟨.value, []⟩
  match s.position with
  | .done v => some v
  | _ => none

end RevisionScript.Json
