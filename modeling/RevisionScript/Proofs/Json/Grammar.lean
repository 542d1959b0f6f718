import RevisionScript.Json.Reader

namespace RevisionScript.Json

def Blank (s : List Char) : Prop := ∀ c ∈ s, isSpace c = true

def Digits (s : List Char) : Prop := s ≠ [] ∧ ∀ c ∈ s, c.isDigit = true

inductive SpellsUnit : List Char → Nat → Prop
  | intro {w x y z : Char} {a b c d : Nat} (ha : hexValue? w = some a) (hb : hexValue? x = some b)
      (hc : hexValue? y = some c) (hd : hexValue? z = some d) :
      SpellsUnit ['\\', 'u', w, x, y, z] (16 * (16 * (16 * a + b) + c) + d)

inductive SpellsChar : List Char → Char → Prop
  | plain {c : Char} (hquote : c ≠ '\x22') (hslash : c ≠ '\\') (hc : 0x20 ≤ c.toNat) :
      SpellsChar [c] c
  | short {letter c : Char} (h : simpleEscape? letter = some c) : SpellsChar ['\\', letter] c
  | unit {s : List Char} {c : Char} (h : SpellsUnit s c.toNat) : SpellsChar s c
  | pair {s t : List Char} {c : Char} (hc : 0x10000 ≤ c.toNat)
      (hhigh : SpellsUnit s (0xd800 + (c.toNat - 0x10000) / 1024))
      (hlow : SpellsUnit t (0xdc00 + (c.toNat - 0x10000) % 1024)) : SpellsChar (s ++ t) c

inductive SpellsChars : List Char → List Char → Prop
  | nil : SpellsChars [] []
  | cons {s t cs : List Char} {c : Char} (h : SpellsChar s c) (hs : SpellsChars t cs) :
      SpellsChars (s ++ t) (c :: cs)

inductive SpellsString : List Char → String → Prop
  | intro {s : List Char} {text : String} (h : SpellsChars s text.toList) :
      SpellsString ('\x22' :: (s ++ ['\x22'])) text

inductive SpellsFraction : List Char → Option (List Char) → Prop
  | none : SpellsFraction [] none
  | some {ds : List Char} (h : Digits ds) : SpellsFraction ('.' :: ds) (some ds)

inductive SpellsExponent : List Char → Option (Bool × List Char) → Prop
  | none : SpellsExponent [] none
  | some {letter : Char} {sign ds : List Char} {negative : Bool}
      (hletter : letter = 'e' ∨ letter = 'E')
      (hsign : (sign, negative) ∈ [([], false), (['+'], false), (['-'], true)]) (h : Digits ds) :
      SpellsExponent (letter :: (sign ++ ds)) (some (negative, ds))

inductive SpellsNumber : List Char → NumberLiteral → Prop
  | intro {sign whole s t : List Char} {negative : Bool} {fraction : Option (List Char)}
      {exponent : Option (Bool × List Char)}
      (hsign : (sign, negative) ∈ [([], false), (['-'], true)])
      (hwhole : Digits whole) (hzero : whole.head? = some '0' → whole = ['0'])
      (hfraction : SpellsFraction s fraction) (hexponent : SpellsExponent t exponent) :
      SpellsNumber (sign ++ (whole ++ (s ++ t))) ⟨negative, whole, fraction, exponent⟩

inductive SpellsName : List Char → String → Prop
  | intro {s t u : List Char} {name : String} (hs : Blank s) (ht : SpellsString t name)
      (hu : Blank u) :
      SpellsName (s ++ (t ++ (u ++ [':']))) name

mutual

/-- The grammar of JSON texts and the values that they stand for. -/
inductive Spells : List Char → Json → Prop
  | null : Spells "null".toList .null
  | true : Spells "true".toList (.bool true)
  | false : Spells "false".toList (.bool false)
  | number {s : List Char} {n : NumberLiteral} (h : SpellsNumber s n) :
      Spells s (if n.isInteger then .int n.toInt else .real (String.ofList s))
  | string {s : List Char} {text : String} (h : SpellsString s text) : Spells s (.string text)
  | emptyList {s : List Char} (h : Blank s) : Spells ('[' :: (s ++ [']'])) (.list [])
  | list {s : List Char} {vs : List Json} (h : SpellsItems s vs) :
      Spells ('[' :: (s ++ [']'])) (.list vs)
  | emptyObject {s : List Char} (h : Blank s) : Spells ('\x7b' :: (s ++ ['\x7d'])) (.object [])
  | object {s : List Char} {fs : List (String × Json)} (h : SpellsFields s fs) :
      Spells ('\x7b' :: (s ++ ['\x7d'])) (.object fs)

inductive SpellsPadded : List Char → Json → Prop
  | intro {s t u : List Char} {v : Json} (hs : Blank s) (ht : Spells t v) (hu : Blank u) :
      SpellsPadded (s ++ (t ++ u)) v

inductive SpellsItems : List Char → List Json → Prop
  | last {s : List Char} {v : Json} (h : SpellsPadded s v) : SpellsItems s [v]
  | more {s t : List Char} {v : Json} {vs : List Json} (h : SpellsPadded s v)
      (hs : SpellsItems t vs) :
      SpellsItems (s ++ ',' :: t) (v :: vs)

inductive SpellsFields : List Char → List (String × Json) → Prop
  | last {s t : List Char} {name : String} {v : Json} (hname : SpellsName s name)
      (h : SpellsPadded t v) :
      SpellsFields (s ++ t) [(name, v)]
  | more {s t u : List Char} {name : String} {v : Json} {fs : List (String × Json)}
      (hname : SpellsName s name) (h : SpellsPadded t v) (hs : SpellsFields u fs) :
      SpellsFields (s ++ (t ++ ',' :: u)) ((name, v) :: fs)

end

def Denotes (text : String) (v : Json) : Prop := SpellsPadded text.toList v

end RevisionScript.Json
