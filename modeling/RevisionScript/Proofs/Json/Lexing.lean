import Mathlib.Data.List.TakeWhile
import RevisionScript.Proofs.Json.Grammar

namespace RevisionScript

namespace NumberLiteral

open Json

variable {s t rest : List Char} {n : NumberLiteral} {negative : Bool}
  {fraction : Option (List Char)} {exponent : Option (Bool × List Char)}

theorem ne_of_digits {c d : Char} (h : Digits (c :: s)) (hd : d.isDigit = false) : c ≠ d := by
  rintro rfl
  rw [h.2 c List.mem_cons_self] at hd
  cases hd

theorem takeWhile_digits (h : ∀ c ∈ s, c.isDigit = true)
    (hrest : ∀ c ∈ rest.head?, c.isDigit = false) :
    (s ++ rest).takeWhile Char.isDigit = s ∧ (s ++ rest).dropWhile Char.isDigit = rest := by
  rw [List.takeWhile_append_of_pos h, List.dropWhile_append_of_pos h]
  cases rest with
  | nil => exact ⟨List.append_nil s, rfl⟩
  | cons c rest =>
    have hc : ¬ c.isDigit = true := by
      rw [hrest c rfl]
      decide
    rw [List.takeWhile_cons_of_neg hc, List.dropWhile_cons_of_neg hc]
    exact ⟨List.append_nil s, rfl⟩

theorem plainDigits_of_digits (h : Digits s) (hzero : s.head? = some '0' → s = ['0']) :
    plainDigits s = true := by
  unfold plainDigits
  split
  · exact absurd rfl h.1
  · cases hzero rfl
  · rfl

theorem takeSign_append (hsign : (s, negative) ∈ [([], false), (['-'], true)]) (ht : Digits t)
    (rest : List Char) : takeSign (s ++ (t ++ rest)) = (negative, t ++ rest) := by
  simp only [List.mem_cons, Prod.mk.injEq, List.not_mem_nil, or_false] at hsign
  obtain ⟨rfl, rfl⟩ | ⟨rfl, rfl⟩ := hsign
  · cases t with
    | nil => exact absurd rfl ht.1
    | cons c t =>
      have hc : c ≠ '-' := ne_of_digits ht rfl
      unfold takeSign
      split
      · next heq => exact absurd (List.cons.inj heq).1 hc
      · rfl
  · rfl

theorem readExponent_of_spells (h : SpellsExponent s exponent) :
    readExponent s = some exponent := by
  cases h with
  | none => rfl
  | @some letter sign ds negative hletter hsign hdigits =>
    have hall : ds ≠ [] ∧ ds.all Char.isDigit = true := ⟨hdigits.1, List.all_eq_true.2 hdigits.2⟩
    simp only [List.mem_cons, Prod.mk.injEq, List.not_mem_nil, or_false] at hsign
    unfold readExponent
    dsimp only
    rw [if_pos hletter]
    obtain ⟨rfl, rfl⟩ | ⟨rfl, rfl⟩ | ⟨rfl, rfl⟩ := hsign
    · cases ds with
      | nil => exact absurd rfl hdigits.1
      | cons c ds =>
        have hplus : c ≠ '+' := ne_of_digits hdigits rfl
        have hminus : c ≠ '-' := ne_of_digits hdigits rfl
        rw [List.nil_append]
        split
        · next heq => exact absurd (List.cons.inj heq).1 hplus
        · next heq => exact absurd (List.cons.inj heq).1 hminus
        · exact if_pos hall
    · exact if_pos hall
    · exact if_pos hall

theorem head?_of_exponent (h : SpellsExponent s exponent) : ∀ c ∈ s.head?, c.isDigit = false := by
  cases h with
  | none => exact nofun
  | some hletter =>
    rintro c ⟨⟩
    obtain rfl | rfl := hletter <;> rfl

theorem head?_of_fraction (hs : SpellsFraction s fraction) (ht : SpellsExponent t exponent) :
    ∀ c ∈ (s ++ t).head?, c.isDigit = false := by
  cases hs with
  | none => exact head?_of_exponent ht
  | some h =>
    rintro c ⟨⟩
    rfl

theorem ofChars?_of_spells (h : SpellsNumber s n) : ofChars? s = some n := by
  obtain ⟨hsign, hwhole, hzero, hfraction, hexponent⟩ := h
  rename_i sign whole s t negative fraction exponent
  obtain ⟨htake, hdrop⟩ := takeWhile_digits hwhole.2 (head?_of_fraction hfraction hexponent)
  unfold ofChars?
  rw [takeSign_append hsign hwhole]
  dsimp only
  rw [htake, hdrop, plainDigits_of_digits hwhole hzero, if_neg (by decide)]
  cases hfraction with
  | none =>
    cases hexponent with
    | none => rfl
    | @some letter sign ds negative hletter hsign hdigits =>
      have hexponent := readExponent_of_spells (.some hletter hsign hdigits)
      have hpoint : letter ≠ '.' := by
        obtain rfl | rfl := hletter <;> decide
      rw [List.nil_append]
      split
      · next heq => exact absurd (List.cons.inj heq).1 hpoint
      · rw [hexponent]
        rfl
  | @some ds hds =>
    obtain ⟨htake', hdrop'⟩ := takeWhile_digits hds.2 (head?_of_exponent hexponent)
    simp only [List.cons_append, htake', hdrop', if_neg hds.1, readExponent_of_spells hexponent]
    rfl

def IsNumberChar (c : Char) : Prop := c.isDigit = true ∨ c ∈ ['-', '+', '.', 'e', 'E']

theorem isNumberChar_of_digits (h : Digits s) :
    ∀ c ∈ s, IsNumberChar c := fun c hc ↦ .inl (h.2 c hc)

theorem isNumberChar_of_fraction (h : SpellsFraction s fraction) : ∀ c ∈ s, IsNumberChar c := by
  cases h with
  | none => exact nofun
  | some h => exact List.forall_mem_cons.2 ⟨.inr (by decide), isNumberChar_of_digits h⟩

theorem isNumberChar_of_exponent (h : SpellsExponent s exponent) : ∀ c ∈ s, IsNumberChar c := by
  cases h with
  | none => exact nofun
  | @some letter sign ds negative hletter hsign h =>
    have hsign' : ∀ c ∈ sign, IsNumberChar c := by
      simp only [List.mem_cons, Prod.mk.injEq, List.not_mem_nil, or_false] at hsign
      rcases hsign with ⟨rfl, -⟩ | ⟨rfl, -⟩ | ⟨rfl, -⟩ <;> simp [IsNumberChar]
    refine List.forall_mem_cons.2 ⟨?_, List.forall_mem_append.2 ⟨hsign', isNumberChar_of_digits h⟩⟩
    rcases hletter with rfl | rfl <;> exact .inr (by decide)

theorem isNumberChar_of_spells (h : SpellsNumber s n) : ∀ c ∈ s, IsNumberChar c := by
  obtain ⟨hsign, hwhole, -, hfraction, hexponent⟩ := h
  rename_i sign whole s t negative fraction exponent
  have hsign' : ∀ c ∈ sign, IsNumberChar c := by
    simp only [List.mem_cons, Prod.mk.injEq, List.not_mem_nil, or_false] at hsign
    rcases hsign with ⟨rfl, -⟩ | ⟨rfl, -⟩ <;> simp [IsNumberChar]
  simp only [List.forall_mem_append]
  exact ⟨hsign', isNumberChar_of_digits hwhole, isNumberChar_of_fraction hfraction,
    isNumberChar_of_exponent hexponent⟩

theorem ne_of_isNumberChar {word : List Char} (h : ∀ c ∈ s, IsNumberChar c) (letter : Char)
    (hmem : letter ∈ word) (hletter : letter.isDigit = false ∧ letter ∉ ['-', '+', '.', 'e', 'E']) :
    s ≠ word := by
  rintro rfl
  rcases h letter hmem with hdigit | hmark
  · rw [hletter.1] at hdigit
    cases hdigit
  · exact hletter.2 hmark

end NumberLiteral

namespace Json

open NumberLiteral

def Apart (rest : List Char) : Prop := ∀ c ∈ rest.head?, isBareChar c = false

theorem bareValue?_number {s : List Char} {n : NumberLiteral} (h : SpellsNumber s n) :
    bareValue? s = some (if n.isInteger then .int n.toInt else .real (String.ofList s)) := by
  have hletters := isNumberChar_of_spells h
  have hlookup : notFiniteWords.lookup (String.ofList s) = none := by
    rw [notFiniteWords, List.lookup_eq_none_iff]
    intro p hp
    have hword (word : String) (letter : Char) (hmem : letter ∈ word.toList)
        (hletter : letter.isDigit = false ∧ letter ∉ ['-', '+', '.', 'e', 'E']) :
        String.ofList s ≠ word := by
      rintro rfl
      rw [String.toList_ofList] at hmem
      exact ne_of_isNumberChar hletters letter hmem hletter rfl
    simp only [List.mem_cons, List.not_mem_nil, or_false] at hp
    obtain rfl | rfl | rfl := hp
    · exact bne_iff_ne.2 (hword _ 'I' (by decide) (by decide))
    · exact bne_iff_ne.2 (hword _ 'I' (by decide) (by decide))
    · exact bne_iff_ne.2 (hword _ 'N' (by decide) (by decide))
  unfold bareValue?
  rw [if_neg (ne_of_isNumberChar hletters 'n' (by decide) (by decide)),
    if_neg (ne_of_isNumberChar hletters 't' (by decide) (by decide)),
    if_neg (ne_of_isNumberChar hletters 'f' (by decide) (by decide)), hlookup, if_neg (by decide),
    ofChars?_of_spells h]
  rfl

theorem isBareChar_of_isNumberChar {c : Char} (h : IsNumberChar c) : isBareChar c = true := by
  rcases h with hdigit | hmark
  · simp [isBareChar, Char.isAlphanum, hdigit]
  · simp only [List.mem_cons, List.not_mem_nil, or_false] at hmark
    rcases hmark with rfl | rfl | rfl | rfl | rfl <;> rfl

theorem lex_cons {state next : LexState} {c : Char} {tokens : List Token}
    (h : lexStep state c = some (tokens, next)) (cs : List Char) :
    lex state (c :: cs) = (lex next cs).map (tokens ++ ·) := by
  rw [lex, h]
  change (lex next cs >>= fun rest ↦ some (tokens ++ rest)) = _
  cases lex next cs <;> rfl

theorem lex_cons_of_none {state : LexState} {c : Char} (h : lexStep state c = none)
    (cs : List Char) : lex state (c :: cs) = none := by
  rw [lex, h]
  rfl

theorem lex_cons_silent {state next : LexState} {c : Char} (h : lexStep state c = some ([], next))
    (cs : List Char) : lex state (c :: cs) = lex next cs := by
  rw [lex_cons h]
  cases lex next cs <;> rfl

theorem lex_between_space {blank : List Char} (h : Blank blank)
    (rest : List Char) : lex .between (blank ++ rest) = lex .between rest := by
  induction blank with
  | nil => rfl
  | cons c blank ih =>
    obtain ⟨hc, hblank⟩ := List.forall_mem_cons.1 h
    have hstep : lexStep .between c = some ([], .between) := if_pos hc
    rw [List.cons_append, lex_cons_silent hstep, ih hblank]

theorem startToken_of_isBareChar {c : Char} (h : isBareChar c = true) :
    startToken c = some ([], .bare [c]) := by
  have hne (d : Char) (hd : isBareChar d = false) : c ≠ d := by
    rintro rfl
    rw [h] at hd
    cases hd
  have hspace : isSpace c = false := by
    simp [isSpace, hne ' ' (by decide), hne '\n' (by decide), hne '\r' (by decide),
      hne '\t' (by decide)]
  simp [startToken, hspace, hne '[' (by decide), hne ']' (by decide), hne '\x7b' (by decide),
    hne '\x7d' (by decide), hne ',' (by decide), hne ':' (by decide), hne '\x22' (by decide), h]

theorem lex_bare_append {cs : List Char} (h : ∀ c ∈ cs, isBareChar c = true)
    (taken rest : List Char) :
    lex (.bare taken) (cs ++ rest) = lex (.bare (cs.reverse ++ taken)) rest := by
  induction cs generalizing taken with
  | nil => rfl
  | cons c cs ih =>
    obtain ⟨hc, hcs⟩ := List.forall_mem_cons.1 h
    have hstep : lexStep (.bare taken) c = some ([], .bare (c :: taken)) := if_pos hc
    rw [List.cons_append, lex_cons_silent hstep, ih hcs, List.reverse_cons, List.append_assoc]
    rfl

theorem lex_bare_of_apart {taken rest : List Char} {v : Json}
    (hv : bareValue? taken.reverse = some v) (hrest : Apart rest) :
    lex (.bare taken) rest = (lex .between rest).map (.scalar v :: ·) := by
  cases rest with
  | nil =>
    rw [lex, lexEnd, hv]
    rfl
  | cons c rest =>
    have hc : isBareChar c = false := hrest c rfl
    have hstep : lexStep (.bare taken) c =
        (startToken c).map fun p ↦ (.scalar v :: p.1, p.2) := by
      rw [lexStep, hc, hv]
      cases startToken c <;> rfl
    cases hstart : startToken c with
    | none =>
      have hbetween : lexStep .between c = none := hstart
      rw [hstart] at hstep
      rw [lex_cons_of_none hstep, lex_cons_of_none hbetween]
      rfl
    | some p =>
      have hbetween : lexStep .between c = some (p.1, p.2) := hstart
      rw [hstart] at hstep
      rw [lex_cons hstep, lex_cons hbetween]
      cases lex p.2 rest <;> rfl

theorem lex_word {word rest : List Char} {v : Json} (hne : word ≠ [])
    (hbare : ∀ c ∈ word, isBareChar c = true) (hv : bareValue? word = some v) (hrest : Apart rest) :
    lex .between (word ++ rest) = (lex .between rest).map (.scalar v :: ·) := by
  cases word with
  | nil => exact absurd rfl hne
  | cons c word =>
    obtain ⟨hc, hword⟩ := List.forall_mem_cons.1 hbare
    have hstep : lexStep .between c = some ([], .bare [c]) := startToken_of_isBareChar hc
    rw [List.cons_append, lex_cons_silent hstep, lex_bare_append hword]
    refine lex_bare_of_apart ?_ hrest
    rwa [List.reverse_append, List.reverse_reverse]

theorem lex_number {s rest : List Char} {n : NumberLiteral} (h : SpellsNumber s n)
    (hrest : Apart rest) :
    lex .between (s ++ rest) = (lex .between rest).map
      (.scalar (if n.isInteger then .int n.toInt else .real (String.ofList s)) :: ·) := by
  have hne : s ≠ [] := by
    obtain ⟨-, hwhole, -, -, -⟩ := h
    simp [hwhole.1]
  refine lex_word hne (fun c hc ↦ ?_) (bareValue?_number h) hrest
  exact isBareChar_of_isNumberChar (isNumberChar_of_spells h c hc)

theorem lex_unit {c : Char} {d missing : Nat} (hc : hexValue? c = some d) (hmissing : 1 < missing)
    (taken : List Char) (high : Option Nat) (value : Nat) (rest : List Char) :
    lex (.unit taken high missing value) (c :: rest) =
      lex (.unit taken high (missing - 1) (16 * value + d)) rest := by
  refine lex_cons_silent ?_ rest
  rw [lexStep, hc]
  exact if_neg (by omega)

theorem lex_unit_last {c : Char} {d : Nat} (hc : hexValue? c = some d) (taken : List Char)
    (high : Option Nat) (value : Nat) (rest : List Char) :
    lex (.unit taken high 1 value) (c :: rest) =
      (afterUnit taken high (16 * value + d)).bind fun state ↦ lex state rest := by
  have hstep : lexStep (.unit taken high 1 value) c =
      (afterUnit taken high (16 * value + d)).map ([], ·) := by
    rw [lexStep, hc]
    rfl
  cases hafter : afterUnit taken high (16 * value + d) with
  | none =>
    rw [hafter] at hstep
    rw [lex_cons_of_none hstep]
    rfl
  | some state =>
    rw [hafter] at hstep
    rw [lex_cons_silent hstep]
    rfl

theorem lex_digits {w x y z : Char} {a b c d : Nat} (ha : hexValue? w = some a)
    (hb : hexValue? x = some b)
    (hc : hexValue? y = some c) (hd : hexValue? z = some d) (taken : List Char) (high : Option Nat)
    (rest : List Char) :
    lex (.unit taken high 4 0) (w :: x :: y :: z :: rest) =
      (afterUnit taken high (16 * (16 * (16 * a + b) + c) + d)).bind fun state ↦
        lex state rest := by
  rw [lex_unit ha (by decide), lex_unit hb (by decide), lex_unit hc (by decide), lex_unit_last hd,
    Nat.mul_zero, Nat.zero_add]

theorem lex_text_unit {s : List Char} {n : Nat} (h : SpellsUnit s n) (taken rest : List Char) :
    lex (.text taken) (s ++ rest) = (afterUnit taken none n).bind fun state ↦ lex state rest := by
  obtain ⟨ha, hb, hc, hd⟩ := h
  have hslash : lexStep (.text taken) '\\' = some ([], .escape taken) := rfl
  have hletter : lexStep (.escape taken) 'u' = some ([], .unit taken none 4 0) := rfl
  exact (lex_cons_silent hslash _).trans
    ((lex_cons_silent hletter _).trans (lex_digits ha hb hc hd _ _ _))

theorem lex_pair_unit {s : List Char} {n : Nat} (h : SpellsUnit s n) (high : Nat)
    (taken rest : List Char) :
    lex (.pairBackslash taken high) (s ++ rest) =
      (afterUnit taken (some high) n).bind fun state ↦ lex state rest := by
  obtain ⟨ha, hb, hc, hd⟩ := h
  have hslash : lexStep (.pairBackslash taken high) '\\' = some ([], .pairLetter taken high) := rfl
  have hletter : lexStep (.pairLetter taken high) 'u' = some ([], .unit taken (some high) 4 0) :=
    rfl
  exact (lex_cons_silent hslash _).trans
    ((lex_cons_silent hletter _).trans (lex_digits ha hb hc hd _ _ _))

theorem lex_char {s : List Char} {c : Char} (h : SpellsChar s c) (taken rest : List Char) :
    lex (.text taken) (s ++ rest) = lex (.text (c :: taken)) rest := by
  have hvalid : c.toNat < 0xd800 ∨ 0xdfff < c.toNat ∧ c.toNat < 0x110000 := c.valid
  cases h with
  | plain hquote hslash hc =>
    refine lex_cons_silent ?_ rest
    rw [lexStep, if_neg hquote, if_neg hslash, if_neg (by omega)]
  | @short letter c h =>
    have hslash : lexStep (.text taken) '\\' = some ([], .escape taken) := rfl
    have hu : letter ≠ 'u' := by
      rintro rfl
      cases h
    have hstep : lexStep (.escape taken) letter = some ([], .text (c :: taken)) := by
      rw [lexStep, if_neg hu, h]
      rfl
    rw [List.cons_append, List.cons_append, lex_cons_silent hslash, lex_cons_silent hstep]
    rfl
  | unit h =>
    have hafter : afterUnit taken none c.toNat = some (.text (c :: taken)) := by
      rw [afterUnit, if_neg (by omega), if_neg (by omega), Char.ofNat_toNat]
    rw [lex_text_unit h, hafter]
    rfl
  | @pair s t c hc hhigh hlow =>
    have hlt : (c.toNat - 0x10000) % 1024 < 1024 := Nat.mod_lt _ (by decide)
    have hvalue : 0x10000 + (0xd800 + (c.toNat - 0x10000) / 1024 - 0xd800) * 1024 +
        (0xdc00 + (c.toNat - 0x10000) % 1024 - 0xdc00) = c.toNat := by omega
    have hfirst : afterUnit taken none (0xd800 + (c.toNat - 0x10000) / 1024) =
        some (.pairBackslash taken (0xd800 + (c.toNat - 0x10000) / 1024)) := by
      rw [afterUnit, if_pos (by omega)]
    have hsecond : afterUnit taken (some (0xd800 + (c.toNat - 0x10000) / 1024))
        (0xdc00 + (c.toNat - 0x10000) % 1024) = some (.text (c :: taken)) := by
      rw [afterUnit, if_pos (by omega), hvalue, Char.ofNat_toNat]
    rw [List.append_assoc, lex_text_unit hhigh, hfirst, Option.bind_some,
      lex_pair_unit hlow, hsecond, Option.bind_some]

theorem lex_chars {s cs : List Char} (h : SpellsChars s cs) (taken rest : List Char) :
    lex (.text taken) (s ++ rest) = lex (.text (cs.reverse ++ taken)) rest := by
  induction h generalizing taken with
  | nil => rfl
  | cons h hs ih =>
    rw [List.append_assoc, lex_char h, ih, List.reverse_cons, List.append_assoc]
    rfl

theorem lex_string {s : List Char} {text : String} (h : SpellsString s text) (rest : List Char) :
    lex .between (s ++ rest) = (lex .between rest).map (.scalar (.string text) :: ·) := by
  obtain ⟨h⟩ := h
  have hopen : lexStep .between '\x22' = some ([], .text []) := rfl
  have hclose : lexStep (.text text.toList.reverse) '\x22' =
      some ([.scalar (.string text)], .between) := by
    rw [lexStep, if_pos rfl, List.reverse_reverse, String.ofList_toList]
  rw [List.cons_append, List.append_assoc, lex_cons_silent hopen, lex_chars h, List.append_nil,
    List.singleton_append, lex_cons hclose]
  rfl

end Json

end RevisionScript
