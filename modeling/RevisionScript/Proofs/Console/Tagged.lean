import Mathlib.Data.List.Basic
import RevisionScript.Console.Layout

namespace RevisionScript

theorem isOk_map {ε α β : Type} (f : α → β) (x : Except ε α) : (f <$> x).isOk = x.isOk := by
  cases x <;> rfl

namespace Markup

def Plain (s : List Char) : Prop := ∀ c ∈ s, c ≠ '[' ∧ c ≠ ']' ∧ c ≠ '\\'

variable {s : List Char}

instance : Decidable (Plain s) := List.decidableBAll _ s

theorem addChar_plain {c : Char} (hc : c ≠ '[' ∧ c ≠ ']' ∧ c ≠ '\\') (ts : List Token) :
    addChar c ts = .char c :: ts := by
  unfold addChar
  rw [if_neg hc.1]
  split
  · exact absurd rfl hc.2.2
  · rfl

theorem tokens_plain (h : Plain s) (rest : List Char) :
    tokens (s ++ rest) = s.map .char ++ tokens rest := by
  induction s with
  | nil => rfl
  | cons c cs ih =>
    rw [Plain, List.forall_mem_cons] at h
    rw [List.cons_append, tokens, List.foldr_cons, ← tokens, ih h.2, addChar_plain h.1]
    rfl

theorem bodyEnd_plain (h : Plain s) (ts : List Token) :
    bodyEnd (s.map .char ++ .char ']' :: ts) = some (s, ts) := by
  induction s with
  | nil => rfl
  | cons c cs ih =>
    rw [Plain, List.forall_mem_cons] at h
    rw [List.map_cons, List.cons_append, bodyEnd, if_neg h.1.2.1, if_neg h.1.1, ih h.2]
    rfl

theorem tokens_tag {c : Char} {body : List Char} (hc : opensTag c = true) (h : Plain (c :: body))
    (rest : List Char) :
    tokens ('[' :: (c :: body ++ ']' :: rest)) = .tag 0 (c :: body) :: tokens rest := by
  have hclose : tokens (']' :: rest) = .char ']' :: tokens rest := rfl
  rw [tokens, List.foldr_cons, ← tokens, tokens_plain h, hclose]
  unfold addChar
  rw [if_pos rfl, bodyEnd_plain h]
  simp [hc]

theorem renderFrom_plain (h : Plain s) (position : Nat) (opened : List (List Char))
    (ts : List Token) :
    (renderFrom position opened (s.map .char ++ ts)).isOk =
      (renderFrom (position + s.length) opened ts).isOk := by
  induction s generalizing position with
  | nil => rfl
  | cons c cs ih =>
    rw [Plain, List.forall_mem_cons] at h
    rw [List.map_cons, List.cons_append, renderFrom, isOk_map, ih h.2, List.length_cons,
      Nat.add_right_comm, Nat.add_assoc]
    · exact fun _ _ hc ↦ h.1.2.2 hc

theorem renderFrom_tag {opened opened' : List (List Char)} {position : Nat} {body : List Char}
    (h : afterTag opened position body = .ok opened') (ts : List Token) :
    (renderFrom position opened (.tag 0 body :: ts)).isOk =
      (renderFrom (position + body.length + 2) opened' ts).isOk := by
  rw [renderFrom]
  simp [h, bind, Except.bind]

theorem afterTag_open {c : Char} (hc : c ≠ '/') (body : List Char) (opened : List (List Char))
    (position : Nat) :
    afterTag opened position (c :: body) = .ok (tagName (c :: body) :: opened) := by
  unfold afterTag
  split
  · next he => exact absurd (List.cons.inj he).1 hc
  · rfl

theorem afterTag_close (body : List Char) (opened : List (List Char)) (position : Nat) :
    afterTag (tagName body :: opened) position ('/' :: body) = .ok opened := by
  by_cases h : tagName body = [] <;> simp [afterTag, h]

theorem afterTag_position (opened : List (List Char)) (p q : Nat) (body : List Char) :
    (∃ e e', afterTag opened p body = .error e ∧ afterTag opened q body = .error e') ∨
      ∃ opened', afterTag opened p body = .ok opened' ∧ afterTag opened q body = .ok opened' := by
  unfold afterTag
  split
  · dsimp only
    split
    · cases opened with
      | nil => exact .inl ⟨_, _, rfl, rfl⟩
      | cons _ opened => exact .inr ⟨_, rfl, rfl⟩
    · split
      · exact .inr ⟨_, rfl, rfl⟩
      · exact .inl ⟨_, _, rfl, rfl⟩
  · exact .inr ⟨_, rfl, rfl⟩

/-- Where a text stands makes no difference to whether it renders. -/
theorem isOk_renderFrom_position (p q : Nat) (opened : List (List Char)) (ts : List Token) :
    (renderFrom p opened ts).isOk = (renderFrom q opened ts).isOk := by
  fun_induction renderFrom p opened ts generalizing q with
  | case1 => rfl
  | case2 p opened ts ih =>
    rw [renderFrom, isOk_map, isOk_map]
    exact ih _
  | case3 p opened c ts h ih =>
    rw [renderFrom, isOk_map, isOk_map]
    · exact ih _
    · exact h
  | case4 p opened slashes body ts shown next hodd ih =>
    rw [renderFrom, if_pos hodd, isOk_map, isOk_map]
    exact ih _
  | case5 p opened slashes body ts shown next heven ih =>
    rw [renderFrom, if_neg heven]
    obtain ⟨e, e', h, h'⟩ | ⟨opened', h, h'⟩ :=
      afterTag_position opened (p + slashes) (q + slashes) body
    · rw [h, h']
      rfl
    · rw [h, h']
      change (_ <$> renderFrom _ opened' ts).isOk = (_ <$> renderFrom _ opened' ts).isOk
      rw [isOk_map, isOk_map]
      exact ih opened' _

/-- Plain text with one tag around a part of it. -/
theorem tokens_tagged {a b d t : List Char} {c : Char} (ha : Plain a) (hb : Plain b) (hd : Plain d)
    (hc : opensTag c = true) (ht : Plain (c :: t)) (rest : List Char) :
    tokens (a ++ '[' :: (c :: t ++ ']' :: (b ++ '[' :: ('/' :: c :: t ++ ']' :: (d ++ rest))))) =
      a.map .char ++ .tag 0 (c :: t) ::
        (b.map .char ++ .tag 0 ('/' :: c :: t) :: (d.map .char ++ tokens rest)) := by
  have hclose : Plain ('/' :: c :: t) := List.forall_mem_cons.2 ⟨by decide, ht⟩
  rw [tokens_plain ha, tokens_tag hc ht, tokens_plain hb, tokens_tag (by decide) hclose,
    tokens_plain hd]

/-- Plain text with one tag around a part of it makes no difference to what follows. -/
theorem isOk_render_tagged_append {a b d t : List Char} {c : Char} (ha : Plain a) (hb : Plain b)
    (hd : Plain d) (hc : opensTag c = true) (hslash : c ≠ '/') (ht : Plain (c :: t))
    (rest : List Char) :
    (render (a ++ '[' :: (c :: t ++ ']' :: (b ++ '[' :: ('/' :: c :: t ++ ']' ::
      (d ++ rest)))))).isOk = (render rest).isOk := by
  rw [render, tokens_tagged ha hb hd hc ht, renderFrom_plain ha,
    renderFrom_tag (afterTag_open hslash _ _ _), renderFrom_plain hb,
    renderFrom_tag (afterTag_close (c :: t) [] _), renderFrom_plain hd]
  exact isOk_renderFrom_position _ _ _ _

theorem isOk_render_tagged {a b d t : List Char} {c : Char} (ha : Plain a) (hb : Plain b)
    (hd : Plain d) (hc : opensTag c = true) (hslash : c ≠ '/') (ht : Plain (c :: t)) :
    (render (a ++ '[' :: (c :: t ++ ']' :: (b ++ '[' :: ('/' :: c :: t ++ ']' :: d))))).isOk =
      true := by
  have h := isOk_render_tagged_append ha hb hd hc hslash ht []
  rwa [List.append_nil] at h

end Markup

end RevisionScript
