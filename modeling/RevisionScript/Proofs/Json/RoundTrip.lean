import RevisionScript.Proofs.Json.Lexing
import RevisionScript.Proofs.Json.Spelling

namespace RevisionScript.Json

mutual

def tokens : Json → List Token
  | .list [] => [.openList, .closeList]
  | .list (v :: vs) => .openList :: (tokens v ++ (itemTokens vs ++ [.closeList]))
  | .object [] => [.openObject, .closeObject]
  | .object ((k, v) :: fs) =>
    .openObject :: .scalar (.string k) :: .colon :: (tokens v ++ (fieldTokens fs ++ [.closeObject]))
  | v => [.scalar v]

def itemTokens : List Json → List Token
  | [] => []
  | v :: vs => .comma :: (tokens v ++ itemTokens vs)

def fieldTokens : List (String × Json) → List Token
  | [] => []
  | (k, v) :: fs => .comma :: .scalar (.string k) :: .colon :: (tokens v ++ fieldTokens fs)

end

def innerTokens : List Json → List Token
  | [] => []
  | v :: vs => tokens v ++ itemTokens vs

def innerFieldTokens : List (String × Json) → List Token
  | [] => []
  | (k, v) :: fs => .scalar (.string k) :: .colon :: (tokens v ++ fieldTokens fs)

theorem tokens_list (vs : List Json) :
    tokens (.list vs) = .openList :: (innerTokens vs ++ [.closeList]) := by
  cases vs with
  | nil => rfl
  | cons v vs => rw [tokens, innerTokens, List.append_assoc]

theorem tokens_object (fs : List (String × Json)) :
    tokens (.object fs) = .openObject :: (innerFieldTokens fs ++ [.closeObject]) := by
  cases fs with
  | nil => rfl
  | cons f fs =>
    obtain ⟨k, v⟩ := f
    rw [tokens, innerFieldTokens, List.cons_append, List.cons_append, List.append_assoc]

theorem isBareChar_of_isSpace {c : Char} (h : isSpace c = true) : isBareChar c = false := by
  simp only [isSpace, Bool.or_eq_true, beq_iff_eq] at h
  obtain ((rfl | rfl) | rfl) | rfl := h <;> rfl

theorem apart_nil : Apart [] := nofun

theorem apart_cons {c : Char} {rest : List Char} (hc : isBareChar c = false) :
    Apart (c :: rest) := by
  rintro c' hc'
  cases hc'
  exact hc

theorem apart_blank {blank rest : List Char} (h : Blank blank) (hrest : Apart rest) :
    Apart (blank ++ rest) := by
  cases blank with
  | nil => exact hrest
  | cons c blank => exact apart_cons (isBareChar_of_isSpace (h c List.mem_cons_self))

theorem lex_punctuation {c : Char} {t : Token} (h : startToken c = some ([t], .between))
    (rest : List Char) : lex .between (c :: rest) = (lex .between rest).map (t :: ·) := by
  have hstep : lexStep .between c = some ([t], .between) := h
  rw [lex_cons hstep]
  rfl

theorem lex_blank_punctuation {blank : List Char} {c : Char} {t : Token} (h : Blank blank)
    (hstart : startToken c = some ([t], .between)) (rest : List Char) :
    lex .between (blank ++ c :: rest) = (lex .between rest).map (t :: ·) := by
  rw [lex_between_space h, lex_punctuation hstart]

theorem lex_name {s : List Char} {name : String} (h : SpellsName s name) (rest : List Char) :
    lex .between (s ++ rest) = (lex .between rest).map fun ts ↦
      .scalar (.string name) :: .colon :: ts := by
  obtain ⟨hs, ht, hu⟩ := h
  rw [List.append_assoc, List.append_assoc, List.append_assoc, lex_between_space hs, lex_string ht,
    List.singleton_append, lex_blank_punctuation hu rfl, Option.map_map]
  rfl

theorem itemTokens_of_spells {s : List Char} {vs : List Json} (h : SpellsItems s vs) :
    itemTokens vs = .comma :: innerTokens vs := by
  cases h <;> rfl

theorem fieldTokens_of_spells {s : List Char} {fs : List (String × Json)} (h : SpellsFields s fs) :
    fieldTokens fs = .comma :: innerFieldTokens fs := by
  cases h <;> rfl

mutual

/-- A number is read as far as it goes, so what follows a value must not lengthen it. -/
theorem lex_spells {s : List Char} {v : Json} : Spells s v → {rest : List Char} → Apart rest →
    lex .between (s ++ rest) = (lex .between rest).map (tokens v ++ ·)
  | .null, _, hrest => by
    rw [lex_word (by decide) (List.all_eq_true.1 rfl) rfl hrest]
    rfl
  | .true, _, hrest => by
    rw [lex_word (by decide) (List.all_eq_true.1 rfl) rfl hrest]
    rfl
  | .false, _, hrest => by
    rw [lex_word (by decide) (List.all_eq_true.1 rfl) rfl hrest]
    rfl
  | .number h, _, hrest => by
    rw [lex_number h hrest]
    split <;> rfl
  | .string h, _, _ => by
    rw [lex_string h]
    rfl
  | .emptyList h, _, _ => by
    rw [List.cons_append, List.append_assoc, List.singleton_append, lex_punctuation rfl,
      lex_blank_punctuation h rfl, Option.map_map]
    rfl
  | .list h, rest, _ => by
    have hclose : Apart (']' :: rest) := apart_cons rfl
    rw [List.cons_append, List.append_assoc, List.singleton_append, lex_punctuation rfl,
      lex_spellsItems h hclose, lex_punctuation rfl, tokens_list]
    simp [Function.comp_def]
  | .emptyObject h, _, _ => by
    rw [List.cons_append, List.append_assoc, List.singleton_append, lex_punctuation rfl,
      lex_blank_punctuation h rfl, Option.map_map]
    rfl
  | .object h, rest, _ => by
    have hclose : Apart ('\x7d' :: rest) := apart_cons rfl
    rw [List.cons_append, List.append_assoc, List.singleton_append, lex_punctuation rfl,
      lex_spellsFields h hclose, lex_punctuation rfl, tokens_object]
    simp [Function.comp_def]

theorem lex_spellsPadded {s : List Char} {v : Json} :
    SpellsPadded s v → {rest : List Char} → Apart rest →
    lex .between (s ++ rest) = (lex .between rest).map (tokens v ++ ·)
  | .intro hs ht hu, rest, hrest => by
    rw [List.append_assoc, List.append_assoc, lex_between_space hs,
      lex_spells ht (apart_blank hu hrest), lex_between_space hu]

theorem lex_spellsItems {s : List Char} {vs : List Json} :
    SpellsItems s vs → {rest : List Char} → Apart rest →
    lex .between (s ++ rest) = (lex .between rest).map (innerTokens vs ++ ·)
  | .last h, _, hrest => by
    rw [lex_spellsPadded h hrest, innerTokens, itemTokens, List.append_nil]
  | .more h hs, rest, hrest => by
    rw [List.append_assoc, List.cons_append, lex_spellsPadded h (apart_cons rfl),
      lex_punctuation rfl, lex_spellsItems hs hrest, innerTokens, itemTokens_of_spells hs]
    simp [Function.comp_def]

theorem lex_spellsFields {s : List Char} {fs : List (String × Json)} : SpellsFields s fs →
    {rest : List Char} → Apart rest →
    lex .between (s ++ rest) = (lex .between rest).map (innerFieldTokens fs ++ ·)
  | .last hname h, _, hrest => by
    rw [List.append_assoc, lex_name hname, lex_spellsPadded h hrest, innerFieldTokens, fieldTokens,
      List.append_nil, Option.map_map]
    rfl
  | .more hname h hs, rest, hrest => by
    rw [List.append_assoc, List.append_assoc, List.cons_append, lex_name hname,
      lex_spellsPadded h (apart_cons rfl), lex_punctuation rfl, lex_spellsFields hs hrest,
      innerFieldTokens, fieldTokens_of_spells hs]
    simp [Function.comp_def]

end

open ReadState

def Reads (s : ReadState) (ts : List Token) (s' : ReadState) : Prop :=
  ts.foldlM advance s = some s'

theorem Reads.append {s s' s'' : ReadState} {ts us : List Token} (h : Reads s ts s')
    (h' : Reads s' us s'') : Reads s (ts ++ us) s'' := by
  unfold Reads at *
  rw [List.foldlM_append, h]
  exact h'

/-- The first item of a list is read like any value. -/
theorem foldlM_firstItem (v : Json) (frames : List Frame) :
    (tokens v).foldlM advance ⟨.firstItem, frames⟩ =
      (tokens v).foldlM advance ⟨.value, .list [] :: frames⟩ := by
  cases v with
  | list vs => cases vs <;> simp [tokens, advance, beginValue]
  | object fs => cases fs <;> simp [tokens, advance, beginValue]
  | _ => simp [tokens, advance, beginValue]

mutual

/-- The frames hold the items and fields that have been read, the last one first. -/
theorem reads_tokens : (v : Json) → (frames : List Frame) →
    Reads ⟨.value, frames⟩ (tokens v) (complete v frames)
  | .null, _ => rfl
  | .bool _, _ => rfl
  | .int _, _ => rfl
  | .real _, _ => rfl
  | .string _, _ => rfl
  | .list [], _ => rfl
  | .list (v :: vs), frames => by
    have hopen : Reads ⟨.value, frames⟩ [.openList] ⟨.firstItem, frames⟩ := rfl
    have hfirst : Reads ⟨.firstItem, frames⟩ (tokens v) ⟨.afterItem [v], frames⟩ :=
      (foldlM_firstItem v frames).trans (reads_tokens v (.list [] :: frames))
    have hclose : Reads ⟨.afterItem (vs.reverse ++ [v]), frames⟩ [.closeList]
        (complete (.list (v :: vs)) frames) := by
      simp [Reads, advance]
    exact hopen.append (hfirst.append ((reads_itemTokens vs [v] frames).append hclose))
  | .object [], _ => rfl
  | .object ((k, v) :: fs), frames => by
    have hopen : Reads ⟨.value, frames⟩ [.openObject, .scalar (.string k), .colon]
        ⟨.value, .object [] k :: frames⟩ := rfl
    have hclose : Reads ⟨.afterField (fs.reverse ++ [(k, v)]), frames⟩ [.closeObject]
        (complete (.object ((k, v) :: fs)) frames) := by
      simp [Reads, advance]
    exact hopen.append ((reads_tokens v _).append
      ((reads_fieldTokens fs [(k, v)] frames).append hclose))

theorem reads_itemTokens : (vs items : List Json) → (frames : List Frame) →
    Reads ⟨.afterItem items, frames⟩ (itemTokens vs) ⟨.afterItem (vs.reverse ++ items), frames⟩
  | [], _, _ => rfl
  | v :: vs, items, frames => by
    have hcomma : Reads ⟨.afterItem items, frames⟩ [.comma] ⟨.value, .list items :: frames⟩ := rfl
    have hrest := reads_itemTokens vs (v :: items) frames
    rw [List.reverse_cons, List.append_assoc, List.singleton_append]
    exact hcomma.append ((reads_tokens v _).append hrest)

theorem reads_fieldTokens : (fs fields : List (String × Json)) → (frames : List Frame) →
    Reads ⟨.afterField fields, frames⟩ (fieldTokens fs) ⟨.afterField (fs.reverse ++ fields), frames⟩
  | [], _, _ => rfl
  | (k, v) :: fs, fields, frames => by
    have hkey : Reads ⟨.afterField fields, frames⟩ [.comma, .scalar (.string k), .colon]
        ⟨.value, .object fields k :: frames⟩ := rfl
    have hrest := reads_fieldTokens fs ((k, v) :: fields) frames
    rw [List.reverse_cons, List.append_assoc, List.singleton_append]
    exact hkey.append ((reads_tokens v _).append hrest)

end

/-- The reader finds the value of every valid text. -/
theorem read_of_denotes {text : String} {v : Json} (h : Denotes text v) : read text = some v := by
  have hlex : lex .between text.toList = some (tokens v) := by
    rw [← List.append_nil text.toList, lex_spellsPadded h apart_nil]
    simp [lex, lexEnd]
  have hreads : (tokens v).foldlM advance ⟨.value, []⟩ = some ⟨.done v, []⟩ := reads_tokens v []
  rw [read, hlex, Option.bind_eq_bind, Option.bind_some, hreads]
  rfl

/-- A text is valid for one value at most. -/
theorem Denotes.unique {text : String} {v w : Json} (hv : Denotes text v) (hw : Denotes text w) :
    v = w := by
  have h := read_of_denotes hv
  rw [read_of_denotes hw] at h
  exact (Option.some.inj h).symm

/-- A written value is read back, also when something blank follows. -/
theorem read_pretty {v : Json} (hv : Plain v) {blank : String}
    (hblank : ∀ c ∈ blank.toList, isSpace c = true) : read (v.pretty ++ blank) = some v :=
  read_of_denotes (denotes_pretty_append hv hblank)

end RevisionScript.Json
