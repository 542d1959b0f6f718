import Mathlib.Tactic.Common
import RevisionScript.Json.Writer
import RevisionScript.Proofs.Json.Grammar

namespace RevisionScript

namespace NumberLiteral

theorem digitsValue_toDigits (n : Nat) : digitsValue (Nat.toDigits 10 n) = n := by
  have h : Nat.ofDigitChars 10 (Nat.toDigits 10 n) 0 = n := Nat.ofDigitChars_ten_toDigits
  rwa [Nat.ofDigitChars_eq_foldl] at h

theorem isDigit_of_mem_toDigits {n : Nat} {c : Char} (h : c ∈ Nat.toDigits 10 n) : c.isDigit :=
  Nat.isDigit_of_mem_toDigits (by decide) (by decide) h

theorem head?_toDigits {n : Nat} (h : 0 < n) : (Nat.toDigits 10 n).head? ≠ some '0' := by
  induction n using Nat.strongRecOn with
  | _ n ih =>
    by_cases hlt : n < 10
    · rw [Nat.toDigits_of_lt_base hlt, List.head?_cons, ne_eq, Option.some.injEq,
        Nat.digitChar_eq_zero]
      omega
    · rw [Nat.toDigits_of_base_le (by decide) (by omega),
        List.head?_append, Option.or_of_isSome (by simp [Nat.toDigits_ne_nil])]
      exact ih (n / 10) (by omega) (by omega)

end NumberLiteral

namespace Json

open NumberLiteral

mutual

def Plain : Json → Prop
  | .real _ => False
  | .list vs => PlainItems vs
  | .object fs => PlainFields fs
  | _ => True

def PlainItems : List Json → Prop
  | [] => True
  | v :: vs => Plain v ∧ PlainItems vs

def PlainFields : List (String × Json) → Prop
  | [] => True
  | (_, v) :: fs => Plain v ∧ PlainFields fs

end

@[simp] theorem plain_null : Plain .null := trivial

@[simp] theorem plain_bool (b : Bool) : Plain (.bool b) := trivial

@[simp] theorem plain_int (n : Int) : Plain (.int n) := trivial

@[simp] theorem plain_string (s : String) : Plain (.string s) := trivial

@[simp] theorem plain_list {vs : List Json} : Plain (.list vs) ↔ ∀ v ∈ vs, Plain v := by
  change PlainItems vs ↔ _
  induction vs with
  | nil => simp [PlainItems]
  | cons v vs ih => simp [PlainItems, ih]

@[simp] theorem plain_object {fs : List (String × Json)} :
    Plain (.object fs) ↔ ∀ f ∈ fs, Plain f.2 := by
  change PlainFields fs ↔ _
  induction fs with
  | nil => simp [PlainFields]
  | cons f fs ih =>
    obtain ⟨k, v⟩ := f
    simp [PlainFields, ih]

@[simp] theorem plain_ofString? (s : Option String) : Plain (.ofString? s) := by
  cases s <;> exact trivial

@[simp] theorem plain_ofInt? (n : Option Int) : Plain (.ofInt? n) := by
  cases n <;> exact trivial

@[simp] theorem plain_strings (ss : List String) : Plain (.strings ss) := by
  simp [strings]

theorem toList_toString_int (n : Int) :
    (toString n).toList =
      if n < 0 then '-' :: Nat.toDigits 10 n.natAbs else Nat.toDigits 10 n.natAbs := by
  cases n with
  | ofNat m =>
    rw [if_neg (by simp)]
    change (toString m).toList = _
    rw [Nat.toString_eq_ofList_toDigits, String.toList_ofList]
    rfl
  | negSucc m =>
    rw [if_pos (by simp [Int.negSucc_lt_zero])]
    change ("-" ++ toString (m + 1)).toList = _
    rw [Nat.toString_eq_ofList_toDigits, String.toList_append, String.toList_ofList]
    simp

theorem isBareChar_of_mem_int {n : Int} {c : Char} (h : c ∈ (toString n).toList) :
    c = '-' ∨ c.isDigit = true := by
  rw [toList_toString_int] at h
  split at h
  · obtain rfl | h := List.mem_cons.1 h
    · exact .inl rfl
    · exact .inr (NumberLiteral.isDigit_of_mem_toDigits h)
  · exact .inr (NumberLiteral.isDigit_of_mem_toDigits h)

theorem spellsNumber_int (n : Int) :
    SpellsNumber (toString n).toList ⟨decide (n < 0), Nat.toDigits 10 n.natAbs, none, none⟩ := by
  have hwhole : Digits (Nat.toDigits 10 n.natAbs) :=
    ⟨Nat.toDigits_ne_nil, fun c hc ↦ isDigit_of_mem_toDigits hc⟩
  have hzero : (Nat.toDigits 10 n.natAbs).head? = some '0' → Nat.toDigits 10 n.natAbs = ['0'] := by
    intro hhead
    by_cases hn : n.natAbs = 0
    · rw [hn]
      rfl
    · exact absurd hhead (head?_toDigits (by omega))
  rw [toList_toString_int]
  by_cases hn : n < 0
  · have hsign : (['-'], true) ∈ [([], false), (['-'], true)] := by simp
    have h := SpellsNumber.intro hsign hwhole hzero .none .none
    rw [if_pos hn, decide_eq_true hn]
    simpa using h
  · have hsign : ([], false) ∈ [([], false), (['-'], true)] := by simp
    have h := SpellsNumber.intro hsign hwhole hzero .none .none
    rw [if_neg hn, decide_eq_false hn]
    simpa using h

theorem spells_int (n : Int) : Spells (toString n).toList (.int n) := by
  have h := Spells.number (spellsNumber_int n)
  have hvalue : toInt ⟨decide (n < 0), Nat.toDigits 10 n.natAbs, none, none⟩ = n := by
    simp only [toInt, digitsValue_toDigits, decide_eq_true_eq]
    omega
  have hinteger : isInteger ⟨decide (n < 0), Nat.toDigits 10 n.natAbs, none, none⟩ = true := rfl
  rwa [if_pos hinteger, hvalue] at h

theorem spellsUnit_unitEscape {n : Nat} (hn : n < 0x10000) : SpellsUnit (unitEscape n) n := by
  have hvalue (k : Nat) : hexValue? (hexDigit (k % 16)) = some (k % 16) :=
    hexValue?_hexDigit (Nat.mod_lt k (by decide))
  have h := SpellsUnit.intro (hvalue (n / 16 / 16 / 16)) (hvalue (n / 16 / 16)) (hvalue (n / 16))
    (hvalue n)
  have hsum :
      16 * (16 * (16 * (n / 16 / 16 / 16 % 16) + n / 16 / 16 % 16) + n / 16 % 16) + n % 16 = n := by
    omega
  rwa [hsum] at h

theorem spellsChar_escapeChar (c : Char) : SpellsChar (escapeChar c) c := by
  have hvalid : c.toNat < 0xd800 ∨ 0xdfff < c.toNat ∧ c.toNat < 0x110000 := c.valid
  unfold escapeChar
  dsimp only
  split
  · next h =>
    subst h
    exact .short rfl
  split
  · next h =>
    subst h
    exact .short rfl
  split
  · next h =>
    subst h
    exact .short rfl
  split
  · next h =>
    subst h
    exact .short rfl
  split
  · next h =>
    subst h
    exact .short rfl
  split
  · next h =>
    obtain rfl : c = '\x08' := Char.toNat_inj.1 h
    exact .short rfl
  split
  · next h =>
    obtain rfl : c = '\x0c' := Char.toNat_inj.1 h
    exact .short rfl
  split
  · next hquote hslash _ _ _ _ _ h => exact .plain hquote hslash h.1
  split
  · next h => exact .unit (spellsUnit_unitEscape h)
  · next h =>
    exact .pair (by omega) (spellsUnit_unitEscape (by omega)) (spellsUnit_unitEscape (by omega))

theorem spellsChars_flatMap (cs : List Char) : SpellsChars (cs.flatMap escapeChar) cs := by
  induction cs with
  | nil => exact .nil
  | cons c cs ih => exact .cons (spellsChar_escapeChar c) ih

theorem spellsString_quote (s : String) : SpellsString (quote s) s :=
  .intro (spellsChars_flatMap s.toList)

def Ascii (s : List Char) : Prop := ∀ c ∈ s, c.toNat < 0x80

instance (s : List Char) : Decidable (Ascii s) := List.decidableBAll _ s

@[simp] theorem ascii_nil : Ascii [] := nofun

@[simp] theorem ascii_cons {c : Char} {s : List Char} : Ascii (c :: s) ↔ c.toNat < 0x80 ∧ Ascii s :=
  List.forall_mem_cons

@[simp] theorem ascii_append {s t : List Char} : Ascii (s ++ t) ↔ Ascii s ∧ Ascii t :=
  List.forall_mem_append

theorem ascii_of_blank {s : List Char} (h : Blank s) : Ascii s := by
  intro c hc
  have hspace := h c hc
  simp only [isSpace, Bool.or_eq_true, beq_iff_eq] at hspace
  obtain ((rfl | rfl) | rfl) | rfl := hspace <;> decide

theorem ascii_int (n : Int) : Ascii (toString n).toList := by
  intro c hc
  obtain rfl | hdigit := isBareChar_of_mem_int hc
  · decide
  · simp only [Char.isDigit, Bool.and_eq_true, decide_eq_true_eq] at hdigit
    exact Nat.lt_of_le_of_lt hdigit.2 (by decide)

theorem ascii_hexDigits (count n : Nat) : Ascii (hexDigits count n) := by
  have hdigit : ∀ k < 16, (hexDigit k).toNat < 0x80 := by decide
  induction count generalizing n with
  | zero => exact ascii_nil
  | succ count ih =>
    rw [hexDigits, ascii_append]
    exact ⟨ih (n / 16), by simpa using hdigit _ (Nat.mod_lt n (by decide))⟩

theorem ascii_unitEscape (n : Nat) : Ascii (unitEscape n) := by
  simp [unitEscape, ascii_hexDigits]

theorem ascii_escapeChar (c : Char) : Ascii (escapeChar c) := by
  unfold escapeChar
  dsimp only
  split_ifs with _ _ _ _ _ _ _ hprintable
  iterate 7 decide
  · exact ascii_cons.2 ⟨by omega, ascii_nil⟩
  · exact ascii_unitEscape _
  · exact ascii_append.2 ⟨ascii_unitEscape _, ascii_unitEscape _⟩

theorem ascii_quote (s : String) : Ascii (quote s) := by
  have hchars : Ascii (s.toList.flatMap escapeChar) := by
    intro c hc
    obtain ⟨d, -, hd⟩ := List.mem_flatMap.1 hc
    exact ascii_escapeChar d c hd
  simp [quote, hchars]

structure Layout.IsBlank (l : Layout) : Prop where
  lineBreak : ∀ depth, Blank (l.lineBreak depth)
  afterColon : Blank l.afterColon

theorem Layout.isBlank_indented : Layout.indented.IsBlank where
  lineBreak depth c hc := by
    obtain rfl | hc := List.mem_cons.1 hc
    · rfl
    · rw [(List.mem_replicate.1 hc).2]
      rfl
  afterColon c hc := by
    rw [List.mem_singleton.1 hc]
    rfl

theorem blank_nil : Blank [] := nofun

theorem spellsPadded_append {s t u : List Char} {v : Json} (hs : Blank s) (ht : Spells t v)
    (hu : Blank u) :
    SpellsPadded (s ++ t ++ u) v := by
  rw [List.append_assoc]
  exact .intro hs ht hu

section

variable {l : Layout} (hl : l.IsBlank)
include hl

theorem spellsName_quote (depth : Nat) (name : String) :
    SpellsName (l.lineBreak depth ++ (quote name ++ [':'])) name :=
  .intro (hl.lineBreak depth) (spellsString_quote name) blank_nil

mutual

theorem spells_write : (v : Json) → Plain v → (depth : Nat) → Spells (write l depth v) v
  | .null, _, _ => .null
  | .bool true, _, _ => .true
  | .bool false, _, _ => .false
  | .int n, _, _ => by
    rw [write]
    exact spells_int n
  | .real _, hv, _ => hv.elim
  | .string s, _, _ => by
    rw [write]
    exact .string (spellsString_quote s)
  | .list [], _, _ => by
    rw [write]
    exact .emptyList blank_nil
  | .list (v :: vs), hv, depth => by
    have hfirst := spells_write v hv.1 (depth + 1)
    have hitems := spells_writeItems vs hv.2 (depth + 1)
      (spellsPadded_append (hl.lineBreak (depth + 1)) hfirst) (hl.lineBreak depth)
    rw [write]
    simpa only [List.append_assoc, List.cons_append, List.nil_append] using Spells.list hitems
  | .object [], _, _ => by
    rw [write]
    exact .emptyObject blank_nil
  | .object ((k, v) :: fs), hv, depth => by
    have hfirst := spells_write v hv.1 (depth + 1)
    have hfields := spells_writeFields fs hv.2 (depth + 1) (spellsName_quote hl (depth + 1) k)
      (spellsPadded_append hl.afterColon hfirst) (hl.lineBreak depth)
    rw [write]
    simpa only [List.append_assoc, List.cons_append, List.nil_append] using Spells.object hfields

theorem spells_writeItems : (vs : List Json) → PlainItems vs → (depth : Nat) → {s t : List Char} →
    {v : Json} → (∀ {u}, Blank u → SpellsPadded (s ++ u) v) → Blank t →
    SpellsItems (s ++ (writeItems l depth vs ++ t)) (v :: vs)
  | [], _, _, _, _, _, hfirst, ht => .last (hfirst ht)
  | w :: ws, hv, depth, s, t, v, hfirst, ht => by
    have hnext := spells_write w hv.1 depth
    have hrest := spells_writeItems ws hv.2 depth
      (spellsPadded_append (hl.lineBreak depth) hnext) ht
    have h := SpellsItems.more (hfirst blank_nil) hrest
    rw [writeItems]
    simpa only [List.append_assoc, List.cons_append, List.nil_append] using h

theorem spells_writeFields : (fs : List (String × Json)) → PlainFields fs → (depth : Nat) →
    {r s t : List Char} → {name : String} → {v : Json} → SpellsName r name →
    (∀ {u}, Blank u → SpellsPadded (s ++ u) v) → Blank t →
    SpellsFields (r ++ (s ++ (writeFields l depth fs ++ t))) ((name, v) :: fs)
  | [], _, _, _, _, _, _, _, hname, hfirst, ht => .last hname (hfirst ht)
  | (k, w) :: fs, hv, depth, r, s, t, name, v, hname, hfirst, ht => by
    have hnext := spells_write w hv.1 depth
    have hrest := spells_writeFields fs hv.2 depth (spellsName_quote hl depth k)
      (spellsPadded_append hl.afterColon hnext) ht
    have h := SpellsFields.more hname (hfirst blank_nil) hrest
    rw [writeFields]
    simpa only [List.append_assoc, List.cons_append, List.nil_append] using h

end

mutual

theorem ascii_write : (v : Json) → Plain v → (depth : Nat) → Ascii (write l depth v)
  | .null, _, _ => by
    rw [write]
    decide
  | .bool true, _, _ => by
    rw [write]
    decide
  | .bool false, _, _ => by
    rw [write]
    decide
  | .int n, _, _ => by
    rw [write]
    exact ascii_int n
  | .real _, hv, _ => hv.elim
  | .string s, _, _ => by
    rw [write]
    exact ascii_quote s
  | .list [], _, _ => by
    rw [write]
    decide
  | .list (v :: vs), hv, depth => by
    have hfirst := ascii_write v hv.1 (depth + 1)
    have hitems := ascii_writeItems vs hv.2 (depth + 1)
    rw [write]
    simp [hfirst, hitems, ascii_of_blank (hl.lineBreak _)]
  | .object [], _, _ => by
    rw [write]
    decide
  | .object ((k, v) :: fs), hv, depth => by
    have hfirst := ascii_write v hv.1 (depth + 1)
    have hfields := ascii_writeFields fs hv.2 (depth + 1)
    rw [write]
    simp [hfirst, hfields, ascii_quote, ascii_of_blank (hl.lineBreak _),
      ascii_of_blank hl.afterColon]

theorem ascii_writeItems : (vs : List Json) → PlainItems vs → (depth : Nat) →
    Ascii (writeItems l depth vs)
  | [], _, _ => ascii_nil
  | v :: vs, hv, depth => by
    have hfirst := ascii_write v hv.1 depth
    have hitems := ascii_writeItems vs hv.2 depth
    rw [writeItems]
    simp [hfirst, hitems, ascii_of_blank (hl.lineBreak _)]

theorem ascii_writeFields : (fs : List (String × Json)) → PlainFields fs → (depth : Nat) →
    Ascii (writeFields l depth fs)
  | [], _, _ => ascii_nil
  | (k, v) :: fs, hv, depth => by
    have hfirst := ascii_write v hv.1 depth
    have hfields := ascii_writeFields fs hv.2 depth
    rw [writeFields]
    simp [hfirst, hfields, ascii_quote, ascii_of_blank (hl.lineBreak _),
      ascii_of_blank hl.afterColon]

end

end

theorem ascii_pretty {v : Json} (hv : Plain v) : Ascii v.pretty.toList := by
  rw [pretty, String.toList_ofList]
  exact ascii_write Layout.isBlank_indented v hv 0

theorem denotes_pretty_append {v : Json} (hv : Plain v) {blank : String}
    (hblank : Blank blank.toList) :
    Denotes (v.pretty ++ blank) v := by
  unfold Denotes
  rw [String.toList_append, pretty, String.toList_ofList]
  exact .intro blank_nil (spells_write Layout.isBlank_indented v hv 0) hblank

theorem denotes_pretty {v : Json} (hv : Plain v) : Denotes v.pretty v := by
  rw [← String.append_empty (s := v.pretty)]
  exact denotes_pretty_append hv blank_nil

end Json

end RevisionScript
