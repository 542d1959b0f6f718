import RevisionScript.Text.Case

namespace RevisionScript

inductive MarkupFailure
  | unmatched (tag : String) (position : Nat)
  | nothingOpen (position : Nat)
  deriving DecidableEq, Repr

def MarkupFailure.message : MarkupFailure → String
  | unmatched tag position =>
    s!"closing tag '[{tag}]' at position {position} doesn't match any open tag"
  | nothingOpen position => s!"closing tag '[/]' at position {position} has nothing to close"

namespace Markup

inductive Token
  | char (c : Char)
  | tag (slashes : Nat) (body : List Char)
  deriving DecidableEq, Repr

def opensTag (c : Char) : Bool := ('a' ≤ c && c ≤ 'z') || c == '#' || c == '/' || c == '@'

/-- The characters up to the first closing bracket and what follows it, if no other bracket opens
before. -/
def bodyEnd : List Token → Option (List Char × List Token)
  | .char c :: ts =>
    if c = ']' then some ([], ts)
    else if c = '[' then none
    else (bodyEnd ts).map fun (body, rest) ↦ (c :: body, rest)
  | _ => none

def addChar (c : Char) (ts : List Token) : List Token :=
  if c = '[' then
    match bodyEnd ts with
    | some (first :: body, rest) =>
      if opensTag first then .tag 0 (first :: body) :: rest else .char c :: ts
    | _ => .char c :: ts
  else match c, ts with
    | '\\', .tag slashes body :: rest => .tag (slashes + 1) body :: rest
    | c, ts => .char c :: ts

def tokens (markup : List Char) : List Token := markup.foldr addChar []

def Token.text : Token → List Char
  | char c => [c]
  | tag slashes body => List.replicate slashes '\\' ++ '[' :: body ++ [']']

theorem bodyEnd_text {ts rest : List Token} {body : List Char}
    (h : bodyEnd ts = some (body, rest)) :
    ts.flatMap Token.text = body ++ ']' :: rest.flatMap Token.text := by
  fun_induction bodyEnd ts generalizing body with
  | case1 ts => simp_all [Token.text]
  | case2 => simp at h
  | case3 c ts hc hb ih =>
    obtain ⟨⟨b, r⟩, hr, he⟩ := Option.map_eq_some_iff.1 h
    obtain ⟨rfl, rfl⟩ := Prod.mk.inj he
    simp [Token.text, ih hr]
  | case4 => simp at h

theorem addChar_text (c : Char) (ts : List Token) :
    (addChar c ts).flatMap Token.text = c :: ts.flatMap Token.text := by
  fun_cases addChar c ts with
  | case1 first body rest _ h => simp [Token.text, bodyEnd_text h]
  | case2 first body rest _ h => simp [Token.text]
  | case3 => simp_all [Token.text]
  | case4 slashes body rest => simp [Token.text, List.replicate_succ]
  | case5 => simp_all [Token.text]

theorem tokens_text (markup : List Char) : (tokens markup).flatMap Token.text = markup := by
  induction markup with
  | nil => rfl
  | cons c cs ih => rw [tokens, List.foldr_cons, addChar_text, ← tokens, ih]

/-- Around names the separators U+001C to U+001F count as blanks, too. -/
def isNameBlank (c : Char) : Bool := isBlank c || (0x1c ≤ c.toNat && c.toNat ≤ 0x1f)

def trimName (name : List Char) : List Char :=
  dropEndWhile isNameBlank (name.dropWhile isNameBlank)

/-- Names are compared trimmed and in lower case; what follows an equals sign is no part of one.
That a style goes by several names is left out: a console lets `[/bold]` close `[b]`. -/
def tagName (body : List Char) : List Char := lowerText (trimName (body.takeWhile (· ≠ '=')))

def afterTag (opened : List (List Char)) (position : Nat) (body : List Char) :
    Except MarkupFailure (List (List Char)) :=
  match body with
  | '/' :: closed =>
    let name := tagName closed
    if name = [] then
      match opened with
      | [] => .error (.nothingOpen position)
      | _ :: opened => .ok opened
    else if name ∈ opened then .ok (opened.erase name)
    else .error (.unmatched (String.ofList body) position)
  | body => .ok (tagName body :: opened)

/-- The text that tokens show, the first of them at `position`. Of backslashes before a tag each
pair shows one, and an odd number makes the tag plain text. -/
def renderFrom (position : Nat) (opened : List (List Char)) :
    List Token → Except MarkupFailure (List Char)
  | [] => .ok []
  | .char '\\' :: .char '[' :: ts => ('[' :: ·) <$> renderFrom (position + 2) opened ts
  | .char c :: ts => (c :: ·) <$> renderFrom (position + 1) opened ts
  | .tag slashes body :: ts => do
    let shown := List.replicate (slashes / 2) '\\'
    let next := position + slashes + body.length + 2
    if slashes % 2 = 1 then
      (shown ++ '[' :: body ++ ']' :: ·) <$> renderFrom next opened ts
    else do
      let opened ← afterTag opened (position + slashes) body
      (shown ++ ·) <$> renderFrom next opened ts

def render (markup : List Char) : Except MarkupFailure (List Char) :=
  renderFrom 0 [] (tokens markup)

def escapeToken : Token → List Char
  | .char c => [c]
  | .tag slashes body => List.replicate (2 * slashes + 1) '\\' ++ '[' :: body ++ [']']

/-- A single backslash at the end is doubled, so that it cannot touch what comes next. -/
def closeSlash (s : List Char) : List Char :=
  match s.reverse with
  | '\\' :: '\\' :: _ => s
  | '\\' :: _ => s ++ ['\\']
  | _ => s

def escape (s : List Char) : List Char := closeSlash ((tokens s).flatMap escapeToken)

def escaped (text : String) : String := String.ofList (escape text.toList)

end Markup

end RevisionScript
