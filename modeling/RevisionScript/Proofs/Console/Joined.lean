import RevisionScript.Proofs.Console.Escape

namespace RevisionScript.Markup

def ClosesFirst (s : List Char) : Prop := s.find? isBracket = some ']'

instance (s : List Char) : Decidable (ClosesFirst s) := inferInstanceAs (Decidable (_ = _))

def pending (slashes : Nat) (s : List Char) : List Char := List.replicate slashes '\\' ++ '[' :: s

/-- The last bracket of a text opens a tag that the text does not close. -/
inductive LeavesOpen (slashes : Nat) (first : Char) : List Char → Prop
  | intro {before tail : List Char} (hbefore : before.getLast? ≠ some '\\')
      (hfirst : opensTag first = true) (htail : Unbracketed (first :: tail)) :
      LeavesOpen slashes first (before ++ pending slashes (first :: tail))

variable {s p m w body : List Char} {ts us vs rest : List Token} {c d first : Char} {slashes : Nat}

theorem unbracketed_of_plain (h : Plain s) : Unbracketed s :=
  fun c hc ↦ isBracket_eq_false_iff.2 ⟨(h c hc).1, (h c hc).2.1⟩

theorem closesFirst_iff : ClosesFirst s ↔ ∃ a b, Unbracketed a ∧ s = a ++ ']' :: b := by
  unfold ClosesFirst
  rw [List.find?_eq_some_iff_append]
  constructor
  · rintro ⟨-, a, b, h, ha⟩
    exact ⟨a, b, fun c hc ↦ by simpa using ha c hc, h⟩
  · rintro ⟨a, b, ha, h⟩
    exact ⟨rfl, a, b, h, fun c hc ↦ by simpa using ha c hc⟩

theorem not_closesFirst (h : Unbracketed s) : ¬ ClosesFirst s := by
  intro hclose
  obtain ⟨a, b, -, rfl⟩ := closesFirst_iff.1 hclose
  cases h ']' (List.mem_append_right _ List.mem_cons_self)

/-- Text without brackets makes no difference to the bracket that comes first. -/
theorem closesFirst_append (h : Unbracketed p) : ClosesFirst (p ++ s) ↔ ClosesFirst s := by
  have hp : p.find? isBracket = none := List.find?_eq_none.2 fun c hc ↦ by simp [h c hc]
  unfold ClosesFirst
  rw [List.find?_append, hp, Option.none_or]

theorem closesFirst_append_of_mem (hc : c ∈ p) (hbracket : isBracket c = true) :
    ClosesFirst (p ++ s) ↔ ClosesFirst p := by
  unfold ClosesFirst
  rw [List.find?_append]
  cases h : p.find? isBracket with
  | none =>
    rw [List.find?_eq_none] at h
    exact absurd hbracket (h c hc)
  | some d => exact Iff.rfl

theorem LeavesOpen.mem (h : LeavesOpen slashes first s) : '[' ∈ s := by
  cases h
  simp [pending]

theorem leavesOpen_pending (hfirst : opensTag first = true) (hs : Unbracketed (first :: s))
    (slashes : Nat) : LeavesOpen slashes first (pending slashes (first :: s)) := by
  rw [← List.nil_append (pending slashes (first :: s))]
  exact .intro nofun hfirst hs

theorem LeavesOpen.cons (h : LeavesOpen slashes first s) (c : Char) :
    ∃ slashes, LeavesOpen slashes first (c :: s) := by
  obtain ⟨hbefore, hfirst, htail⟩ := h
  rename_i before tail
  cases before with
  | nil =>
    by_cases hc : c = '\\'
    · rw [hc]
      exact ⟨slashes + 1, leavesOpen_pending hfirst htail _⟩
    · have hlast : [c].getLast? ≠ some '\\' := by simpa using hc
      exact ⟨slashes, .intro hlast hfirst htail⟩
  | cons x before =>
    have hlast : (c :: x :: before).getLast? ≠ some '\\' := by rwa [List.getLast?_cons_cons]
    exact ⟨slashes, .intro hlast hfirst htail⟩

theorem tokens_eq_map_char (h : tokens s = p.map .char) : s = p := by
  rw [← tokens_text s, h, List.flatMap_map]
  exact List.flatMap_singleton' p

/-- Two texts are read apart unless the first leaves a tag open that the second closes. -/
theorem foldr_addChar_of_apart (hd : opensTag d = false)
    (h : ∀ slashes first, LeavesOpen slashes first s → bodyEnd (.char d :: vs) = none) :
    s.foldr addChar (.char d :: vs) = tokens s ++ .char d :: vs := by
  induction s with
  | nil => rfl
  | cons c s ih =>
    have hs : ∀ slashes first, LeavesOpen slashes first s → bodyEnd (.char d :: vs) = none := by
      intro slashes first hopen
      obtain ⟨slashes', hopen'⟩ := hopen.cons c
      exact h slashes' first hopen'
    rw [List.foldr_cons, ih hs, tokens_cons]
    apply addChar_append
    · intro hc hts first body rest hbody
      obtain ⟨t, b, ht, hunbracketed, hus, heq⟩ := bodyEnd_append_of_none hts hbody
      obtain rfl := tokens_eq_map_char ht
      cases s with
      | nil =>
        obtain rfl : b = first :: body := heq.symm
        have h := bodyEnd_eq_some hus
        cases h
        exact hd
      | cons c' s =>
        obtain ⟨rfl, -⟩ := List.cons.inj heq
        rw [Bool.eq_false_iff]
        intro hfirst
        rw [hc] at h
        have hopen := h 0 first (leavesOpen_pending hfirst hunbracketed 0)
        rw [hopen] at hus
        cases hus
    · intro _ _ slashes body
      exact nofun

theorem foldr_addChar_unbracketed (h : Unbracketed s)
    (hus : ∀ slashes body, us.head? ≠ some (.tag slashes body)) :
    s.foldr addChar us = s.map .char ++ us := by
  induction s with
  | nil => rfl
  | cons c s ih =>
    obtain ⟨hc, hs⟩ := unbracketed_cons.1 h
    rw [List.foldr_cons, ih hs]
    apply addChar_char
    · intro hopen
      exact absurd hopen (isBracket_eq_false_iff.1 hc).1
    · intro _ slashes body hhead
      cases s with
      | nil => exact hus slashes body hhead
      | cons c' s => cases hhead

theorem head?_map_char_ne (s : List Char) (slashes : Nat) (body : List Char) :
    (s.map Token.char).head? ≠ some (.tag slashes body) := by
  cases s <;> simp

theorem bodyEnd_map_char_eq_none (h : Unbracketed s) : bodyEnd (s.map .char) = none := by
  have hbody := bodyEnd_map_char h []
  rwa [List.append_nil] at hbody

theorem tokens_pending (h : Unbracketed s) (slashes : Nat) :
    tokens (pending slashes s) = (pending slashes s).map .char := by
  induction slashes with
  | zero =>
    have hs : tokens s = s.map .char ++ [] := foldr_addChar_unbracketed h (head?_map_char_ne [])
    rw [List.append_nil] at hs
    change addChar '[' (tokens s) = .char '[' :: s.map .char
    rw [hs]
    apply addChar_char
    · intro _ first body rest hbody
      rw [bodyEnd_map_char_eq_none h] at hbody
      cases hbody
    · intro hc
      cases hc
  | succ slashes ih =>
    change addChar '\\' (tokens (pending slashes s)) = .char '\\' :: (pending slashes s).map .char
    rw [ih]
    apply addChar_char
    · intro hc
      cases hc
    · intro _
      exact head?_map_char_ne _

theorem bodyEnd_pending (slashes : Nat) (s : List Char) :
    bodyEnd ((pending slashes s).map .char) = none := by
  have hslashes : Unbracketed (List.replicate slashes '\\') := by
    intro c hc
    rw [List.eq_of_mem_replicate hc]
    rfl
  rw [pending, List.map_append, bodyEnd_map_char hslashes]
  rfl

theorem tokens_append_pending (h : Unbracketed s) (p : List Char) (slashes : Nat) :
    tokens (p ++ pending slashes s) = tokens p ++ (pending slashes s).map .char := by
  have htokens := tokens_pending h slashes
  rw [← htokens]
  apply tokens_append
  · rw [htokens]
    exact bodyEnd_pending slashes s
  · intro _
    rw [htokens]
    exact head?_map_char_ne _

theorem flatMap_escapeToken_char (s : List Char) : (s.map Token.char).flatMap escapeToken = s := by
  rw [List.flatMap_map]
  exact List.flatMap_singleton' s

/-- Escaping does not touch a tag that is left open, but may add a backslash to the end of it. -/
theorem exists_escape_pending (h : Unbracketed (first :: s)) (p : List Char)
    (slashes : Nat) :
    ∃ s', Unbracketed (first :: s') ∧ escape (p ++ pending slashes (first :: s)) =
      (tokens p).flatMap escapeToken ++ pending slashes (first :: s') := by
  have hbody : (tokens (p ++ pending slashes (first :: s))).flatMap escapeToken =
      (tokens p).flatMap escapeToken ++ pending slashes (first :: s) := by
    rw [tokens_append_pending h, List.flatMap_append, flatMap_escapeToken_char]
  unfold escape
  obtain hclose | ⟨-, hclose⟩ :=
    closeSlash_cases ((tokens (p ++ pending slashes (first :: s))).flatMap escapeToken)
  · exact ⟨s, h, hclose.trans hbody⟩
  · refine ⟨s ++ ['\\'], ?_, ?_⟩
    · intro c hc
      rw [← List.cons_append] at hc
      rcases List.mem_append.1 hc with hc | hc
      · exact h c hc
      · rw [List.mem_singleton.1 hc]
        rfl
    · rw [hclose, hbody]
      simp [pending]

theorem LeavesOpen.of_append_slash (h : LeavesOpen slashes first (s ++ ['\\'])) :
    LeavesOpen slashes first s := by
  generalize hs : s ++ ['\\'] = s' at h
  obtain ⟨hbefore, hfirst, htail⟩ := h
  rename_i before tail
  rcases List.eq_nil_or_concat tail with rfl | ⟨tail, c, rfl⟩
  · have hlast := congrArg List.getLast? hs
    simp [pending, List.getLast?_append] at hlast
    subst hlast
    cases hfirst
  · have hs' : s ++ ['\\'] = (before ++ pending slashes (first :: tail)) ++ [c] := by
      rw [hs]
      simp [pending]
    obtain ⟨rfl, -⟩ := List.append_inj' hs' rfl
    refine .intro hbefore hfirst ?_
    intro c hc
    apply htail
    simp at hc ⊢
    tauto

theorem flatMap_escapeToken (ts : List Token) :
    ts.flatMap escapeToken = (ts.map disarm).flatMap Token.text := by
  have h (t : Token) : escapeToken t = (disarm t).text := by cases t <;> rfl
  rw [List.flatMap_map]
  exact congrArg ts.flatMap (funext h)

theorem eq_map_char_of_map_disarm (h : ts.map disarm = s.map .char) : ts = s.map .char := by
  induction ts generalizing s with
  | nil =>
    rw [← h]
    rfl
  | cons t ts ih =>
    cases s with
    | nil => cases h
    | cons c s =>
      obtain ⟨ht, hts⟩ := List.cons.inj h
      cases t with
      | char c' =>
        cases ht
        rw [ih hts]
        rfl
      | tag slashes body => cases ht

theorem LeavesOpen.of_flatMap_escapeToken
    (h : LeavesOpen slashes first ((tokens s).flatMap escapeToken)) :
    LeavesOpen slashes first s := by
  have htokens := tokens_flatMap_escapeToken s
  generalize (tokens s).flatMap escapeToken = s' at h htokens
  obtain ⟨hbefore, hfirst, htail⟩ := h
  rename_i before tail
  rw [tokens_append_pending htail] at htokens
  obtain ⟨ts, us, hs, hts, hus⟩ := List.map_eq_append_iff.1 htokens.symm
  have htext : s = ts.flatMap Token.text ++ pending slashes (first :: tail) := by
    rw [← tokens_text s, hs, eq_map_char_of_map_disarm hus, List.flatMap_append, List.flatMap_map]
    exact congrArg _ (List.flatMap_singleton' _)
  rw [htext]
  refine .intro ?_ hfirst htail
  rwa [← getLast?_flatMap_escapeToken, flatMap_escapeToken, hts, tokens_text]

theorem LeavesOpen.of_escape (h : LeavesOpen slashes first (escape s)) :
    LeavesOpen slashes first s := by
  unfold escape at h
  obtain hclose | ⟨-, hclose⟩ := closeSlash_cases ((tokens s).flatMap escapeToken)
  · rw [hclose] at h
    exact h.of_flatMap_escapeToken
  · rw [hclose] at h
    exact h.of_append_slash.of_flatMap_escapeToken

/-- What ends the first tag of an escaped text would end it in the text. -/
theorem closesFirst_of_bodyEnd (h : bodyEnd (tokens (escape s)) = some (body, rest)) :
    ClosesFirst s := by
  have hdisarm : ∃ rest, bodyEnd ((tokens s).map disarm) = some (body, rest) := by
    obtain htokens | ⟨-, htokens⟩ := tokens_escape_cases s
    · rw [← htokens]
      exact ⟨rest, h⟩
    · rw [htokens] at h
      cases hts : bodyEnd ((tokens s).map disarm) with
      | none =>
        obtain ⟨_, b, -, -, hslash, -⟩ := bodyEnd_append_of_none hts h
        cases hslash
      | some found =>
        obtain ⟨body', rest'⟩ := found
        rw [bodyEnd_append_of_some hts] at h
        cases h
        exact ⟨rest', rfl⟩
  obtain ⟨rest', hbody⟩ := hdisarm
  rw [bodyEnd_map_disarm] at hbody
  obtain ⟨⟨body', us⟩, hts, heq⟩ := Option.map_eq_some_iff.1 hbody
  have htext := bodyEnd_text hts
  rw [tokens_text] at htext
  exact closesFirst_iff.2 ⟨body', _, unbracketed_of_bodyEnd hts, htext⟩

theorem exists_bodyEnd_of_closesFirst (h : ClosesFirst s) :
    ∃ body rest, bodyEnd (tokens (escape s)) = some (body, rest) := by
  obtain ⟨a, b, ha, rfl⟩ := closesFirst_iff.1 h
  have htokens : tokens (a ++ ']' :: b) = a.map .char ++ .char ']' :: tokens b := by
    have hclose : tokens (']' :: b) = .char ']' :: tokens b := rfl
    rw [tokens, List.foldr_append, ← tokens, hclose]
    exact foldr_addChar_unbracketed ha fun slashes body hhead ↦ by cases hhead
  have hbody : bodyEnd ((tokens (a ++ ']' :: b)).map disarm) = some (a, (tokens b).map disarm) := by
    rw [bodyEnd_map_disarm, htokens, bodyEnd_map_char ha]
    simp [bodyEnd]
  obtain htokens' | ⟨-, htokens'⟩ := tokens_escape_cases (a ++ ']' :: b)
  · rw [htokens', hbody]
    exact ⟨a, _, rfl⟩
  · rw [htokens', bodyEnd_append_of_some hbody]
    exact ⟨a, _, rfl⟩

/-- A tag that is left open, with the tokens that close it. -/
theorem foldr_addChar_pending (hs : Unbracketed (first :: s)) (hfirst : opensTag first = true)
    (hend : bodyEnd (.char d :: vs) = some (body, rest)) (slashes : Nat) :
    (pending slashes (first :: s)).foldr addChar (.char d :: vs) =
      .tag slashes (first :: (s ++ body)) :: rest := by
  induction slashes with
  | zero =>
    have hhead (slashes : Nat) (body : List Char) :
        (Token.char d :: vs).head? ≠ some (.tag slashes body) := by simp
    change addChar '[' ((first :: s).foldr addChar (.char d :: vs)) = _
    rw [foldr_addChar_unbracketed hs hhead]
    apply addChar_open _ hfirst
    rw [bodyEnd_map_char hs, hend]
    rfl
  | succ slashes ih =>
    change addChar '\\' ((pending slashes (first :: s)).foldr addChar (.char d :: vs)) = _
    rw [ih]
    exact addChar_slash _ _ _

section

variable (hw : Plain (d :: w))
include hw

/-- Words between two escaped texts. -/
theorem tokens_joined_of_apart (hd : opensTag d = false)
    (h : ∀ slashes first, LeavesOpen slashes first p → ¬ ClosesFirst m) :
    tokens (escape p ++ (d :: w ++ escape m)) =
      tokens (escape p) ++ ((d :: w).map .char ++ tokens (escape m)) := by
  rw [tokens, List.foldr_append, ← tokens, tokens_plain hw]
  apply foldr_addChar_of_apart hd
  intro slashes first hopen
  have hclose := h slashes first hopen.of_escape
  cases hm : bodyEnd (tokens (escape m)) with
  | none =>
    change bodyEnd ((d :: w).map .char ++ tokens (escape m)) = none
    rw [bodyEnd_map_char (unbracketed_of_plain hw), hm]
    rfl
  | some found => exact absurd (closesFirst_of_bodyEnd hm) hclose

/-- A tag that the first of two escaped texts leaves open reaches to the first bracket of the
second. -/
theorem tokens_joined_of_meeting (hp : LeavesOpen slashes first p)
    (hm : bodyEnd (tokens (escape m)) = some (body, rest)) :
    ∃ before tail body', p = before ++ pending slashes (first :: tail) ∧
      tokens (escape p ++ (d :: w ++ escape m)) =
        (tokens before).map disarm ++ .tag slashes (first :: body') :: rest := by
  obtain ⟨hbefore, hfirst, htail⟩ := hp
  rename_i before tail
  obtain ⟨tail', htail', hescape⟩ := exists_escape_pending htail before slashes
  have hsep : tokens (d :: w ++ escape m) = .char d :: (w.map .char ++ tokens (escape m)) :=
    tokens_plain hw _
  have hend : bodyEnd (.char d :: (w.map .char ++ tokens (escape m))) =
      some (d :: w ++ body, rest) := by
    have hbody := bodyEnd_map_char (unbracketed_of_plain hw) (tokens (escape m))
    rwa [hm, List.map_cons, List.cons_append] at hbody
  refine ⟨before, tail, tail' ++ (d :: w ++ body), rfl, ?_⟩
  rw [hescape, List.append_assoc, tokens, List.foldr_append, List.foldr_append, ← tokens, hsep,
    foldr_addChar_pending htail' hfirst hend, foldr_addChar rfl, tokens_flatMap_escapeToken]
  intro hlast
  rw [getLast?_flatMap_escapeToken, tokens_text] at hlast
  exact absurd hlast hbefore

end

theorem isOk_renderFrom_of_quiet (h : Quiet ts) (position : Nat) (opened : List (List Char)) :
    (renderFrom position opened ts).isOk = true := by
  obtain ⟨out, hout, -⟩ := renderFrom_of_quiet h position opened
  rw [hout]
  rfl

theorem isOk_renderFrom_closing (h : slashes % 2 = 0) (position : Nat) (body : List Char)
    (us : List Token) :
    (renderFrom position [] (.tag slashes ('/' :: body) :: us)).isOk = false := by
  rw [renderFrom, if_neg (by omega)]
  by_cases hname : tagName body = []
    <;> simp [afterTag, hname, bind, Except.bind, Except.isOk, Except.toBool]

theorem isOk_renderFrom_opening (hfirst : first ≠ '/') (hus : Quiet us) (slashes position : Nat)
    (opened : List (List Char)) (body : List Char) :
    (renderFrom position opened (.tag slashes (first :: body) :: us)).isOk = true := by
  by_cases h : slashes % 2 = 1
  · rw [isOk_renderFrom_odd h]
    exact isOk_renderFrom_of_quiet hus _ _
  · rw [renderFrom, if_neg h, afterTag_open hfirst]
    change (_ <$> renderFrom _ _ us).isOk = true
    rw [isOk_map]
    exact isOk_renderFrom_of_quiet hus _ _

theorem quiet_of_bodyEnd (h : bodyEnd ts = some (body, rest)) (hts : Quiet ts) : Quiet rest := by
  rw [bodyEnd_eq_some h, quiet_append, quiet_cons_char] at hts
  exact hts.2

theorem renderFrom_of_quiet_of_not_mem (h : Quiet ts) (hslash : .char '\\' ∉ ts) (position : Nat)
    (opened : List (List Char)) : renderFrom position opened ts = .ok (ts.flatMap Token.shown) := by
  obtain ⟨next, hnext⟩ := renderFrom_append h hslash position opened []
  rw [List.append_nil] at hnext
  rw [hnext]
  exact congrArg Except.ok (List.append_nil _)

/-- An escaped text without backslashes behind its first bracket. -/
theorem rest_of_bodyEnd (hm : '\\' ∉ m) (h : bodyEnd (tokens (escape m)) = some (body, rest)) :
    Quiet rest ∧ .char '\\' ∉ rest ∧ m = body ++ ']' :: rest.flatMap Token.shown := by
  have htokens := bodyEnd_eq_some h
  have hslash := slash_not_mem_disarm hm
  rw [← tokens_escape_of_not_mem hm, htokens] at hslash
  refine ⟨quiet_of_bodyEnd h (quiet_tokens_escape m), ?_, ?_⟩
  · intro hmem
    exact hslash (List.mem_append_right _ (List.mem_cons_of_mem _ hmem))
  · have hshown := flatMap_shown_disarm m
    rw [← tokens_escape_of_not_mem hm, htokens, List.flatMap_append, flatMap_shown_char] at hshown
    exact hshown.symm

section

variable (hw : Plain (d :: w)) (hd : opensTag d = false)
include hw hd

/-- Two escaped texts in a row are sound markup unless a closing tag begins in the first and ends in
the second. -/
theorem isOk_renderFrom_joined_iff (position : Nat) :
    (renderFrom position [] (tokens (escape p ++ (d :: w ++ escape m)))).isOk = true ↔
      ¬ (ClosesFirst m ∧ ∃ slashes, slashes % 2 = 0 ∧ LeavesOpen slashes '/' p) := by
  constructor
  · rintro hok ⟨hm, slashes, heven, hp⟩
    obtain ⟨body, rest, hbody⟩ := exists_bodyEnd_of_closesFirst hm
    obtain ⟨before, tail, body', -, htokens⟩ := tokens_joined_of_meeting hw hp hbody
    rw [htokens, isOk_renderFrom_append (quiet_map_disarm _), isOk_renderFrom_closing heven] at hok
    cases hok
  · intro h
    by_cases hmeet : ∃ slashes first, LeavesOpen slashes first p ∧ ClosesFirst m
    · obtain ⟨slashes, first, hp, hm⟩ := hmeet
      obtain ⟨body, rest, hbody⟩ := exists_bodyEnd_of_closesFirst hm
      obtain ⟨before, tail, body', -, htokens⟩ := tokens_joined_of_meeting hw hp hbody
      have hrest := quiet_of_bodyEnd hbody (quiet_tokens_escape m)
      rw [htokens, isOk_renderFrom_append (quiet_map_disarm _)]
      by_cases hfirst : first = '/'
      · subst hfirst
        have hodd : slashes % 2 = 1 := by
          by_contra heven
          exact h ⟨hm, slashes, by omega, hp⟩
        rw [isOk_renderFrom_odd hodd]
        exact isOk_renderFrom_of_quiet hrest _ _
      · exact isOk_renderFrom_opening hfirst hrest _ _ _ _
    · have hapart : ∀ slashes first, LeavesOpen slashes first p → ¬ ClosesFirst m := by
        intro slashes first hp hm
        exact hmeet ⟨slashes, first, hp, hm⟩
      rw [tokens_joined_of_apart hw hd hapart, isOk_renderFrom_append (quiet_tokens_escape p),
        isOk_renderFrom_append (quiet_map_char _)]
      exact isOk_renderFrom_of_quiet (quiet_tokens_escape m) _ _

theorem renderFrom_joined_of_apart (hp : '\\' ∉ p) (hm : '\\' ∉ m)
    (h : ∀ slashes first, LeavesOpen slashes first p → ¬ ClosesFirst m) (position : Nat) :
    renderFrom position [] (tokens (escape p ++ (d :: w ++ escape m))) =
      .ok (p ++ (d :: w ++ m)) := by
  obtain ⟨p₁, h₁⟩ := renderFrom_escape hp position [] ((d :: w).map .char ++ tokens (escape m))
  obtain ⟨p₂, h₂⟩ := renderFrom_map_char hw p₁ [] (tokens (escape m))
  obtain ⟨p₃, h₃⟩ := renderFrom_escape hm p₂ [] []
  rw [List.append_nil] at h₃
  rw [tokens_joined_of_apart hw hd h, h₁, h₂, h₃]
  change Except.ok _ = Except.ok _
  simp

omit hd

/-- A tag that reaches from one text into the other is not shown. -/
theorem shown_of_meeting (hp : '\\' ∉ p) (hm : '\\' ∉ m) (hopen : LeavesOpen slashes first p)
    (hclose : ClosesFirst m) {position : Nat} {out : List Char}
    (h : renderFrom position [] (tokens (escape p ++ (d :: w ++ escape m))) = .ok out) :
    ∃ before tag after, p ++ (d :: w ++ m) = before ++ '[' :: (tag ++ ']' :: after) ∧
      out = before ++ after := by
  obtain ⟨body, rest, hbody⟩ := exists_bodyEnd_of_closesFirst hclose
  obtain ⟨before, tail, body', hbefore, htokens⟩ := tokens_joined_of_meeting hw hopen hbody
  have hslashes : slashes = 0 := by
    cases slashes with
    | zero => rfl
    | succ slashes =>
      rw [hbefore] at hp
      simp [pending] at hp
  have hslash : '\\' ∉ before := by
    intro hmem
    rw [hbefore] at hp
    exact hp (List.mem_append_left _ hmem)
  obtain ⟨hquiet, hrest, hshown⟩ := rest_of_bodyEnd hm hbody
  rw [htokens, hslashes] at h
  obtain ⟨p₁, h₁⟩ := renderFrom_append (quiet_map_disarm _)
    (slash_not_mem_disarm hslash) position []
    (.tag 0 (first :: body') :: rest)
  rw [flatMap_shown_disarm] at h₁
  have hout : out = before ++ rest.flatMap Token.shown := by
    cases hafter : afterTag [] p₁ (first :: body') with
    | error e =>
      rw [h₁, renderFrom, if_neg (by decide), Nat.add_zero, hafter] at h
      cases h
    | ok opened =>
      obtain ⟨p₂, h₂⟩ := renderFrom_of_afterTag hafter rest
      rw [h₁, h₂, renderFrom_of_quiet_of_not_mem hquiet hrest] at h
      exact (Except.ok.inj h).symm
  refine ⟨before, first :: tail ++ (d :: w ++ body), rest.flatMap Token.shown, ?_, hout⟩
  rw [hbefore, hshown, hslashes]
  simp [pending]

end

end RevisionScript.Markup
