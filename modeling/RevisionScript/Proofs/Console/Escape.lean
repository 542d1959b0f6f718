import RevisionScript.Proofs.Console.Tagged

namespace RevisionScript.Markup

def disarm : Token → Token
  | .char c => .char c
  | .tag slashes body => .tag (2 * slashes + 1) body

def Quiet (ts : List Token) : Prop := ∀ slashes body, .tag slashes body ∈ ts → slashes % 2 = 1

def tags (ts : List Token) : List (List Char) :=
  ts.filterMap fun
    | .char _ => none
    | .tag slashes body => if slashes % 2 = 0 then some body else none

def isBracket (c : Char) : Bool := c == '[' || c == ']'

def Unbracketed (s : List Char) : Prop := ∀ c ∈ s, isBracket c = false

variable {s r x body : List Char} {ts us rest : List Token} {c : Char}

instance : Decidable (Unbracketed s) := List.decidableBAll _ s

theorem isBracket_eq_false_iff : isBracket c = false ↔ c ≠ '[' ∧ c ≠ ']' := by
  simp [isBracket]

theorem unbracketed_nil : Unbracketed [] := List.forall_mem_nil _

theorem unbracketed_cons : Unbracketed (c :: s) ↔ isBracket c = false ∧ Unbracketed s :=
  List.forall_mem_cons

theorem bodyEnd_eq_some (h : bodyEnd ts = some (body, rest)) :
    ts = body.map .char ++ .char ']' :: rest := by
  fun_induction bodyEnd ts generalizing body with
  | case1 ts =>
    cases h
    rfl
  | case2 => cases h
  | case3 c ts hclose hopen ih =>
    obtain ⟨⟨b, r⟩, hr, he⟩ := Option.map_eq_some_iff.1 h
    obtain ⟨rfl, rfl⟩ := Prod.mk.inj he
    rw [ih hr]
    rfl
  | case4 => cases h

theorem bodyEnd_map_disarm (ts : List Token) :
    bodyEnd (ts.map disarm) = (bodyEnd ts).map fun p ↦ (p.1, p.2.map disarm) := by
  fun_induction bodyEnd ts with
  | case1 ts => simp [bodyEnd, disarm]
  | case2 => simp [bodyEnd, disarm]
  | case3 c ts hclose hopen ih =>
    rw [List.map_cons, disarm, bodyEnd, if_neg hclose, if_neg hopen, ih, Option.map_map,
      Option.map_map]
    rfl
  | case4 ts h =>
    cases ts with
    | nil => rfl
    | cons t ts =>
      cases t with
      | char c => exact absurd rfl (h c ts)
      | tag slashes body => rfl

theorem bodyEnd_map_char (h : Unbracketed s) (ts : List Token) :
    bodyEnd (s.map .char ++ ts) = (bodyEnd ts).map fun p ↦ (s ++ p.1, p.2) := by
  induction s with
  | nil => exact Option.map_id'.symm
  | cons c s ih =>
    obtain ⟨hc, hs⟩ := unbracketed_cons.1 h
    obtain ⟨hopen, hclose⟩ := isBracket_eq_false_iff.1 hc
    rw [List.map_cons, List.cons_append, bodyEnd, if_neg hclose, if_neg hopen, ih hs,
      Option.map_map]
    rfl

theorem unbracketed_of_bodyEnd (h : bodyEnd ts = some (body, rest)) : Unbracketed body := by
  fun_induction bodyEnd ts generalizing body with
  | case1 ts =>
    cases h
    exact unbracketed_nil
  | case2 => cases h
  | case3 c ts hclose hopen ih =>
    obtain ⟨⟨b, r⟩, hr, he⟩ := Option.map_eq_some_iff.1 h
    obtain ⟨rfl, rfl⟩ := Prod.mk.inj he
    exact unbracketed_cons.2 ⟨isBracket_eq_false_iff.2 ⟨hopen, hclose⟩, ih hr⟩
  | case4 => cases h

theorem bodyEnd_append_of_some (h : bodyEnd ts = some (body, rest)) (us : List Token) :
    bodyEnd (ts ++ us) = some (body, rest ++ us) := by
  rw [bodyEnd_eq_some h, List.append_assoc, bodyEnd_map_char (unbracketed_of_bodyEnd h)]
  simp [bodyEnd]

/-- Tokens that end in a bracket only with what follows them are text without brackets. -/
theorem bodyEnd_append_of_none (hts : bodyEnd ts = none)
    (h : bodyEnd (ts ++ us) = some (body, rest)) :
    ∃ s b, ts = s.map .char ∧ Unbracketed s ∧ bodyEnd us = some (b, rest) ∧ body = s ++ b := by
  fun_induction bodyEnd ts generalizing body with
  | case1 ts => cases hts
  | case2 ts hopen =>
    rw [List.cons_append, bodyEnd, if_neg (by decide), if_pos rfl] at h
    cases h
  | case3 c ts hclose hopen ih =>
    rw [List.cons_append, bodyEnd, if_neg hclose, if_neg hopen] at h
    obtain ⟨⟨b, r⟩, hr, he⟩ := Option.map_eq_some_iff.1 h
    obtain ⟨rfl, rfl⟩ := Prod.mk.inj he
    obtain ⟨s, b', rfl, hs, hus, rfl⟩ := ih (Option.map_eq_none_iff.1 hts) hr
    exact ⟨c :: s, b', rfl, unbracketed_cons.2 ⟨isBracket_eq_false_iff.2 ⟨hopen, hclose⟩, hs⟩, hus,
      rfl⟩
  | case4 ts hchar =>
    cases ts with
    | nil => exact ⟨[], body, rfl, unbracketed_nil, h, rfl⟩
    | cons t ts =>
      cases t with
      | char c => exact absurd rfl (hchar c ts)
      | tag slashes body => cases h

inductive Adds (c : Char) (ts : List Token) : List Token → Prop
  | opens {first : Char} {body : List Char} {rest : List Token} (hc : c = '[')
      (h : bodyEnd ts = some (first :: body, rest)) (hfirst : opensTag first = true) :
      Adds c ts (.tag 0 (first :: body) :: rest)
  | slash {slashes : Nat} {body : List Char} {rest : List Token} (hc : c = '\\')
      (h : ts = .tag slashes body :: rest) : Adds c ts (.tag (slashes + 1) body :: rest)
  | char
      (hopen : c = '[' → ∀ first body rest, bodyEnd ts = some (first :: body, rest) →
        opensTag first = false)
      (hslash : c = '\\' → ∀ slashes body, ts.head? ≠ some (.tag slashes body)) :
      Adds c ts (.char c :: ts)

theorem adds_addChar (c : Char) (ts : List Token) : Adds c ts (addChar c ts) := by
  fun_cases addChar c ts with
  | case1 ts first body rest h hopens => exact .opens rfl h hopens
  | case2 ts first body rest h hopens =>
    refine .char (fun _ first' body' rest' h' ↦ ?_) fun hc ↦ absurd hc (by decide)
    rw [h] at h'
    cases h'
    exact Bool.eq_false_iff.2 hopens
  | case3 ts h =>
    exact .char (fun _ first body rest h' ↦ (h first body rest h').elim)
      fun hc ↦ absurd hc (by decide)
  | case4 slashes body rest => exact .slash rfl rfl
  | case5 c ts h hc =>
    refine .char (fun h' ↦ absurd h' hc) ?_
    rintro rfl slashes body hhead
    obtain ⟨rest, rfl⟩ := List.head?_eq_some_iff.1 hhead
    exact h _ _ _ rfl rfl

theorem addChar_open (h : bodyEnd ts = some (c :: body, rest)) (hc : opensTag c = true) :
    addChar '[' ts = .tag 0 (c :: body) :: rest := by
  unfold addChar
  rw [if_pos rfl, h]
  exact if_pos hc

theorem addChar_char
    (hopen : c = '[' → ∀ first body rest, bodyEnd ts = some (first :: body, rest) →
      opensTag first = false)
    (hslash : c = '\\' → ∀ slashes body, ts.head? ≠ some (.tag slashes body)) :
    addChar c ts = .char c :: ts := by
  have h := adds_addChar c ts
  generalize addChar c ts = added at h ⊢
  cases h with
  | opens hc h hfirst =>
    rw [hopen hc _ _ _ h] at hfirst
    cases hfirst
  | slash hc h =>
    subst h
    exact absurd rfl (hslash hc _ _)
  | char => rfl

theorem addChar_slash (slashes : Nat) (body : List Char) (ts : List Token) :
    addChar '\\' (.tag slashes body :: ts) = .tag (slashes + 1) body :: ts := rfl

theorem tokens_cons (c : Char) (s : List Char) : tokens (c :: s) = addChar c (tokens s) := rfl

theorem tokens_eq_nil (h : tokens s = []) : s = [] := by
  rw [← tokens_text s, h]
  rfl

/-- A character takes nothing from the tokens `us` unless it opens a tag that they close or stands
directly before a tag. -/
theorem addChar_append
    (hopen : c = '[' → bodyEnd ts = none →
      ∀ first body rest, bodyEnd (ts ++ us) = some (first :: body, rest) →
      opensTag first = false)
    (hslash : c = '\\' → ts = [] → ∀ slashes body, us.head? ≠ some (.tag slashes body)) :
    addChar c (ts ++ us) = addChar c ts ++ us := by
  have hadds := adds_addChar c ts
  generalize addChar c ts = added at hadds ⊢
  cases hadds with
  | opens hc h hfirst =>
    subst hc
    exact addChar_open (bodyEnd_append_of_some h us) hfirst
  | slash hc h =>
    rw [hc, h]
    exact addChar_slash _ _ _
  | char hopen' hslash' =>
    apply addChar_char
    · intro hc first body rest h
      cases hts : bodyEnd ts with
      | none => exact hopen hc hts first body rest h
      | some found =>
        obtain ⟨body', rest'⟩ := found
        rw [bodyEnd_append_of_some hts] at h
        cases h
        exact hopen' hc first body _ hts
    · intro hc
      cases ts with
      | nil => exact hslash hc rfl
      | cons t ts => exact hslash' hc

/-- Nothing in `us` takes anything from a text before it: no closing bracket ends a tag that the
text opens, and no tag takes backslashes from its end. -/
theorem foldr_addChar (hend : bodyEnd us = none)
    (hhead : s.getLast? = some '\\' → ∀ slashes body, us.head? ≠ some (.tag slashes body)) :
    s.foldr addChar us = tokens s ++ us := by
  induction s with
  | nil => rfl
  | cons c s ih =>
    have hlast : s.getLast? = some '\\' → ∀ slashes body, us.head? ≠ some (.tag slashes body) := by
      intro hs
      apply hhead
      rw [List.getLast?_cons, hs]
      rfl
    rw [List.foldr_cons, ih hlast, tokens_cons]
    apply addChar_append
    · intro _ hs first body rest h
      obtain ⟨_, b, -, -, hus, -⟩ := bodyEnd_append_of_none hs h
      rw [hend] at hus
      cases hus
    · intro hc hs
      rw [tokens_eq_nil hs, hc] at hhead
      exact hhead rfl

theorem tokens_append (hend : bodyEnd (tokens r) = none)
    (hhead : s.getLast? = some '\\' → ∀ slashes body, (tokens r).head? ≠ some (.tag slashes body)) :
    tokens (s ++ r) = tokens s ++ tokens r := by
  rw [tokens, List.foldr_append]
  exact foldr_addChar hend hhead

/-- One more character before a text that has been escaped. -/
theorem tokens_escape_step (c : Char) (h : tokens (ts.flatMap escapeToken) = ts.map disarm) :
    tokens ((addChar c ts).flatMap escapeToken) = (addChar c ts).map disarm := by
  have hadds := adds_addChar c ts
  generalize addChar c ts = added at hadds ⊢
  cases hadds with
  | @opens first body rest hc hbody hfirst =>
    have hopen : bodyEnd (ts.map disarm) = some (first :: body, rest.map disarm) := by
      rw [bodyEnd_map_disarm, hbody]
      rfl
    have hplain : (Token.tag 0 (first :: body) :: rest).flatMap escapeToken =
        '\\' :: '[' :: ts.flatMap escapeToken := by
      rw [bodyEnd_eq_some hbody]
      simp [escapeToken, List.flatMap_map]
    rw [hplain, tokens_cons, tokens_cons, h, addChar_open hopen hfirst]
    rfl
  | @slash slashes body rest hc hts =>
    subst hts
    have hplain : (Token.tag (slashes + 1) body :: rest).flatMap escapeToken =
        '\\' :: '\\' :: (Token.tag slashes body :: rest).flatMap escapeToken := by
      simp [escapeToken, Nat.mul_add, List.replicate_succ]
    rw [hplain, tokens_cons, tokens_cons, h]
    rfl
  | char hopen hslash =>
    change addChar c (tokens (ts.flatMap escapeToken)) = .char c :: ts.map disarm
    rw [h]
    apply addChar_char
    · intro hc first body rest hbody
      rw [bodyEnd_map_disarm] at hbody
      obtain ⟨⟨body', rest'⟩, hts, heq⟩ := Option.map_eq_some_iff.1 hbody
      obtain ⟨rfl, rfl⟩ := Prod.mk.inj heq
      exact hopen hc first body rest' hts
    · intro hc slashes body hhead
      cases ts with
      | nil => cases hhead
      | cons t ts =>
        cases t with
        | char c => cases hhead
        | tag slashes' body' => exact hslash hc slashes' body' rfl

theorem tokens_flatMap_escapeToken (s : List Char) :
    tokens ((tokens s).flatMap escapeToken) = (tokens s).map disarm := by
  induction s with
  | nil => rfl
  | cons c s ih =>
    rw [tokens_cons]
    exact tokens_escape_step c ih

theorem closeSlash_cases (s : List Char) :
    closeSlash s = s ∨ s.getLast? = some '\\' ∧ closeSlash s = s ++ ['\\'] := by
  unfold closeSlash
  split
  · exact .inl rfl
  · next h =>
    refine .inr ⟨?_, rfl⟩
    rw [← List.head?_reverse, h]
    rfl
  · exact .inl rfl

theorem getLast?_escapeToken (t : Token) : (escapeToken t).getLast? = t.text.getLast? := by
  cases t with
  | char c => rfl
  | tag slashes body => simp [escapeToken, Token.text, List.getLast?_append, List.getLast?_cons]

theorem getLast?_flatMap_escapeToken (ts : List Token) :
    (ts.flatMap escapeToken).getLast? = (ts.flatMap Token.text).getLast? := by
  induction ts with
  | nil => rfl
  | cons t ts ih =>
    rw [List.flatMap_cons, List.flatMap_cons, List.getLast?_append, List.getLast?_append, ih,
      getLast?_escapeToken]

/-- An escaped text has no tags. A backslash at its end may be followed by another. -/
theorem tokens_escape_cases (s : List Char) :
    tokens (escape s) = (tokens s).map disarm ∨
      s.getLast? = some '\\' ∧ tokens (escape s) = (tokens s).map disarm ++ [.char '\\'] := by
  unfold escape
  obtain h | ⟨hlast, h⟩ := closeSlash_cases ((tokens s).flatMap escapeToken)
  · left
    rw [h, tokens_flatMap_escapeToken]
  · right
    have hslash : tokens ['\\'] = [.char '\\'] := rfl
    rw [getLast?_flatMap_escapeToken, tokens_text] at hlast
    refine ⟨hlast, ?_⟩
    rw [h, tokens_append, tokens_flatMap_escapeToken, hslash]
    · rfl
    · rintro - slashes body h
      cases h

theorem tokens_escape_of_not_mem (h : '\\' ∉ s) : tokens (escape s) = (tokens s).map disarm := by
  obtain h' | ⟨hlast, -⟩ := tokens_escape_cases s
  · exact h'
  · exact absurd (List.mem_of_getLast? hlast) h

theorem quiet_append : Quiet (ts ++ us) ↔ Quiet ts ∧ Quiet us := by
  unfold Quiet
  constructor
  · intro h
    exact ⟨fun slashes body hmem ↦ h slashes body (List.mem_append_left _ hmem),
      fun slashes body hmem ↦ h slashes body (List.mem_append_right _ hmem)⟩
  · rintro ⟨hts, hus⟩ slashes body hmem
    rcases List.mem_append.1 hmem with hmem | hmem
    · exact hts slashes body hmem
    · exact hus slashes body hmem

theorem quiet_cons_char : Quiet (.char c :: ts) ↔ Quiet ts := by
  simp [Quiet]

theorem quiet_cons_tag {slashes : Nat} :
    Quiet (.tag slashes body :: ts) ↔ slashes % 2 = 1 ∧ Quiet ts := by
  constructor
  · intro h
    exact ⟨h slashes body List.mem_cons_self, fun k b hmem ↦ h k b (List.mem_cons_of_mem _ hmem)⟩
  · rintro ⟨hodd, h⟩ k b hmem
    rcases List.mem_cons.1 hmem with heq | hmem
    · cases heq
      exact hodd
    · exact h k b hmem

theorem quiet_map_disarm (ts : List Token) : Quiet (ts.map disarm) := by
  induction ts with
  | nil => exact nofun
  | cons t ts ih =>
    cases t with
    | char c => exact quiet_cons_char.2 ih
    | tag slashes body => exact quiet_cons_tag.2 ⟨by omega, ih⟩

theorem quiet_tokens_escape (s : List Char) : Quiet (tokens (escape s)) := by
  obtain h | ⟨-, h⟩ := tokens_escape_cases s
  · rw [h]
    exact quiet_map_disarm _
  · rw [h, quiet_append]
    exact ⟨quiet_map_disarm _, quiet_cons_char.2 nofun⟩

theorem quiet_map_char (s : List Char) : Quiet (s.map .char) := by
  induction s with
  | nil => exact nofun
  | cons c s ih => exact quiet_cons_char.2 ih

theorem tags_append (ts us : List Token) : tags (ts ++ us) = tags ts ++ tags us :=
  List.filterMap_append ..

theorem tags_of_quiet (h : Quiet ts) : tags ts = [] := by
  induction ts with
  | nil => rfl
  | cons t ts ih =>
    cases t with
    | char c => exact ih (quiet_cons_char.1 h)
    | tag slashes body =>
      obtain ⟨hodd, hts⟩ := quiet_cons_tag.1 h
      rw [tags, List.filterMap_cons_none]
      · exact ih hts
      · exact if_neg (by omega)

theorem isOk_renderFrom_char (position : Nat) (opened : List (List Char)) (c : Char)
    (ts : List Token) :
    (renderFrom position opened (.char c :: ts)).isOk = (renderFrom position opened ts).isOk := by
  rw [renderFrom.eq_def]
  dsimp only
  split
  · rename_i heq
    cases heq
  · next heq =>
    obtain ⟨h, rfl⟩ := List.cons.inj heq
    rw [isOk_map, renderFrom, isOk_map]
    · exact isOk_renderFrom_position _ _ _ _
    · intro slashes body ht
      cases ht
  · next heq =>
    obtain ⟨h, rfl⟩ := List.cons.inj heq
    rw [isOk_map]
    exact isOk_renderFrom_position _ _ _ _
  · next heq =>
    obtain ⟨h, rfl⟩ := List.cons.inj heq
    cases h

theorem isOk_renderFrom_odd {slashes : Nat} (h : slashes % 2 = 1) (position : Nat)
    (opened : List (List Char)) (body : List Char) (ts : List Token) :
    (renderFrom position opened (.tag slashes body :: ts)).isOk =
      (renderFrom position opened ts).isOk := by
  rw [renderFrom, if_pos h, isOk_map]
  exact isOk_renderFrom_position _ _ _ _

/-- Plain text makes no difference to whether what follows renders. -/
theorem isOk_renderFrom_append (h : Quiet ts) (position : Nat) (opened : List (List Char))
    (us : List Token) :
    (renderFrom position opened (ts ++ us)).isOk = (renderFrom position opened us).isOk := by
  induction ts with
  | nil => rfl
  | cons t ts ih =>
    cases t with
    | char c =>
      rw [List.cons_append, isOk_renderFrom_char]
      exact ih (quiet_cons_char.1 h)
    | tag slashes body =>
      obtain ⟨hodd, hts⟩ := quiet_cons_tag.1 h
      rw [List.cons_append, isOk_renderFrom_odd hodd]
      exact ih hts

def Token.shown : Token → List Char
  | char c => [c]
  | tag slashes body => List.replicate (slashes / 2) '\\' ++ '[' :: body ++ [']']

theorem renderFrom_char (hc : c ≠ '\\') (position : Nat) (opened : List (List Char))
    (ts : List Token) :
    renderFrom position opened (.char c :: ts) =
      (c :: ·) <$> renderFrom (position + 1) opened ts := by
  rw [renderFrom]
  exact fun _ _ h ↦ absurd h hc

/-- Without single backslashes, what is no tag shows as it stands. -/
theorem renderFrom_append (h : Quiet ts) (hslash : .char '\\' ∉ ts) (position : Nat)
    (opened : List (List Char)) (us : List Token) :
    ∃ next, renderFrom position opened (ts ++ us) =
      (ts.flatMap Token.shown ++ ·) <$> renderFrom next opened us := by
  induction ts generalizing position with
  | nil => exact ⟨position, (id_map _).symm⟩
  | cons t ts ih =>
    rw [List.mem_cons, not_or] at hslash
    cases t with
    | char c =>
      obtain ⟨next, hnext⟩ := ih (quiet_cons_char.1 h) hslash.2 (position + 1)
      have hc : c ≠ '\\' := by
        rintro rfl
        exact hslash.1 rfl
      refine ⟨next, ?_⟩
      rw [List.cons_append, renderFrom_char hc, hnext]
      cases renderFrom next opened us <;> rfl
    | tag slashes body =>
      obtain ⟨hodd, hts⟩ := quiet_cons_tag.1 h
      obtain ⟨next, hnext⟩ := ih hts hslash.2 (position + slashes + body.length + 2)
      refine ⟨next, ?_⟩
      rw [List.cons_append, renderFrom, if_pos hodd, hnext]
      cases renderFrom next opened us with
      | error e => rfl
      | ok out =>
        change Except.ok _ = Except.ok _
        simp [Token.shown]

theorem flatMap_shown_disarm (s : List Char) : ((tokens s).map disarm).flatMap Token.shown = s := by
  have h (t : Token) : (disarm t).shown = t.text := by
    cases t with
    | char c => rfl
    | tag slashes body =>
      have hhalf : (2 * slashes + 1) / 2 = slashes := by omega
      rw [disarm, Token.shown, Token.text, hhalf]
  rw [List.flatMap_map]
  simp only [h]
  exact tokens_text s

theorem slash_not_mem_disarm (h : '\\' ∉ s) : .char '\\' ∉ (tokens s).map disarm := by
  intro hmem
  obtain ⟨t, ht, hdisarm⟩ := List.mem_map.1 hmem
  cases t with
  | char c =>
    cases hdisarm
    apply h
    rw [← tokens_text s]
    exact List.mem_flatMap.2 ⟨_, ht, List.mem_singleton_self _⟩
  | tag slashes body => cases hdisarm

/-- A text without backslashes shows as it is when it is escaped. -/
theorem renderFrom_escape (h : '\\' ∉ s) (position : Nat) (opened : List (List Char))
    (us : List Token) :
    ∃ next, renderFrom position opened (tokens (escape s) ++ us) =
      (s ++ ·) <$> renderFrom next opened us := by
  rw [tokens_escape_of_not_mem h]
  obtain ⟨next, hnext⟩ := renderFrom_append (quiet_map_disarm _)
    (slash_not_mem_disarm h) position opened us
  rw [flatMap_shown_disarm] at hnext
  exact ⟨next, hnext⟩

theorem toList_escaped (text : String) : (escaped text).toList = escape text.toList :=
  String.toList_ofList

def unslashed (s : List Char) : List Char := s.filter (· ≠ '\\')

theorem unslashed_append (s r : List Char) : unslashed (s ++ r) = unslashed s ++ unslashed r :=
  List.filter_append ..

theorem unslashed_replicate (n : Nat) : unslashed (List.replicate n '\\') = [] :=
  List.filter_replicate_of_neg (by simp)

/-- Rendering what is no tag changes nothing but backslashes. -/
theorem renderFrom_of_quiet (h : Quiet ts) (position : Nat) (opened : List (List Char)) :
    ∃ out, renderFrom position opened ts = .ok out ∧
      unslashed out = unslashed (ts.flatMap Token.text) := by
  fun_induction renderFrom position opened ts with
  | case1 => exact ⟨[], rfl, rfl⟩
  | case2 position opened ts ih =>
    obtain ⟨out, hout, heq⟩ := ih (quiet_cons_char.1 (quiet_cons_char.1 h))
    refine ⟨'[' :: out, by rw [hout]; rfl, ?_⟩
    change '[' :: unslashed out = '[' :: unslashed (ts.flatMap Token.text)
    rw [heq]
  | case3 position opened c ts _ ih =>
    obtain ⟨out, hout, heq⟩ := ih (quiet_cons_char.1 h)
    refine ⟨c :: out, by rw [hout]; rfl, ?_⟩
    change unslashed ([c] ++ out) = unslashed ([c] ++ ts.flatMap Token.text)
    rw [unslashed_append, unslashed_append, heq]
  | case4 position opened slashes body ts shown next hodd ih =>
    obtain ⟨out, hout, heq⟩ := ih (quiet_cons_tag.1 h).2
    refine ⟨shown ++ '[' :: body ++ ']' :: out, by rw [hout]; rfl, ?_⟩
    have htext : (Token.tag slashes body :: ts).flatMap Token.text =
        List.replicate slashes '\\' ++ ('[' :: body ++ [']']) ++ ts.flatMap Token.text := by
      simp [Token.text]
    have hshown : shown ++ '[' :: body ++ ']' :: out = shown ++ ('[' :: body ++ [']']) ++ out := by
      simp
    rw [htext, hshown]
    simp only [unslashed_append, shown, unslashed_replicate, heq]
  | case5 position opened slashes body ts shown next heven ih =>
      exact absurd (quiet_cons_tag.1 h).1 heven

theorem unslashed_escape (s : List Char) : unslashed (escape s) = unslashed s := by
  have htoken (t : Token) : unslashed (escapeToken t) = unslashed t.text := by
    cases t with
    | char c => rfl
    | tag slashes body =>
      simp only [escapeToken, Token.text, List.append_assoc, unslashed_append, unslashed_replicate]
  have htokens (ts : List Token) :
      unslashed (ts.flatMap escapeToken) = unslashed (ts.flatMap Token.text) := by
    induction ts with
    | nil => rfl
    | cons t ts ih =>
      rw [List.flatMap_cons, List.flatMap_cons, unslashed_append, unslashed_append, htoken, ih]
  have hbody := htokens (tokens s)
  rw [tokens_text] at hbody
  unfold escape
  obtain h | ⟨-, h⟩ := closeSlash_cases ((tokens s).flatMap escapeToken)
  · rw [h, hbody]
  · have hslash : unslashed ['\\'] = [] := rfl
    rw [h, unslashed_append, hbody, hslash, List.append_nil]

theorem slash_not_mem_of_plain (h : Plain s) : .char '\\' ∉ s.map Token.char := by
  intro hmem
  obtain ⟨c, hc, heq⟩ := List.mem_map.1 hmem
  cases heq
  exact (h _ hc).2.2 rfl

theorem flatMap_shown_char (s : List Char) : (s.map Token.char).flatMap Token.shown = s := by
  rw [List.flatMap_map]
  exact List.flatMap_singleton' s

theorem renderFrom_map_char (h : Plain s) (position : Nat) (opened : List (List Char))
    (us : List Token) :
    ∃ next, renderFrom position opened (s.map .char ++ us) =
      (s ++ ·) <$> renderFrom next opened us := by
  have hrender := renderFrom_append (quiet_map_char s) (slash_not_mem_of_plain h) position opened us
  rwa [flatMap_shown_char] at hrender

theorem renderFrom_of_afterTag {opened opened' : List (List Char)} {position : Nat}
    (h : afterTag opened position body = .ok opened') (us : List Token) :
    ∃ next, renderFrom position opened (.tag 0 body :: us) = renderFrom next opened' us := by
  refine ⟨position + 0 + body.length + 2, ?_⟩
  rw [renderFrom, if_neg (by decide), Nat.add_zero, h]
  exact id_map (renderFrom (position + 0 + body.length + 2) opened' us)

/-- The words of a template with one tag around some of them, before whatever follows. -/
theorem exists_renderFrom_tagged {a b d t : List Char} (ha : Plain a) (hb : Plain b) (hd : Plain d)
    (hslash : c ≠ '/') (us : List Token) :
    ∃ next, renderFrom 0 [] (a.map .char ++ .tag 0 (c :: t) ::
        (b.map .char ++ .tag 0 ('/' :: c :: t) :: (d.map .char ++ us))) =
      (a ++ b ++ d ++ ·) <$> renderFrom next [] us := by
  obtain ⟨p₁, h₁⟩ := renderFrom_map_char ha 0 [] (.tag 0 (c :: t) ::
    (b.map .char ++ .tag 0 ('/' :: c :: t) :: (d.map .char ++ us)))
  obtain ⟨p₂, h₂⟩ := renderFrom_of_afterTag (afterTag_open hslash t [] p₁)
    (b.map .char ++ .tag 0 ('/' :: c :: t) :: (d.map .char ++ us))
  obtain ⟨p₃, h₃⟩ := renderFrom_map_char hb p₂ [tagName (c :: t)]
    (.tag 0 ('/' :: c :: t) :: (d.map .char ++ us))
  obtain ⟨p₄, h₄⟩ := renderFrom_of_afterTag (afterTag_close (c :: t) [] p₃) (d.map .char ++ us)
  obtain ⟨p₅, h₅⟩ := renderFrom_map_char hd p₄ [] us
  refine ⟨p₅, ?_⟩
  rw [h₁, h₂, h₃, h₄, h₅]
  cases renderFrom p₅ [] us with
  | error e => rfl
  | ok out =>
    change Except.ok _ = Except.ok _
    simp

theorem exists_render_tagged {a b d t : List Char} (ha : Plain a) (hb : Plain b) (hd : Plain d)
    (hc : opensTag c = true) (hslash : c ≠ '/') (ht : Plain (c :: t)) (rest : List Char) :
    ∃ next,
      render (a ++ '[' :: (c :: t ++ ']' :: (b ++ '[' :: ('/' :: c :: t ++ ']' :: (d ++ rest))))) =
      (a ++ b ++ d ++ ·) <$> renderFrom next [] (tokens rest) := by
  rw [render, tokens_tagged ha hb hd hc ht]
  exact exists_renderFrom_tagged ha hb hd hslash _

end RevisionScript.Markup
