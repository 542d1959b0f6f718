import RevisionScript.Proofs.Script.Cut

namespace RevisionScript

inductive Quote
  | single
  | double
  deriving DecidableEq, Repr

namespace Quote

def mark : Quote → Char
  | single => '\x27'
  | double => '\x22'

def ofMark? (c : Char) : Option Quote :=
  if c = '\x27' then some single else if c = '\x22' then some double else none

def quoting : Quote → Quoting
  | single => .inString
  | double => .inIdentifier

theorem ofMark?_eq_some_iff {c : Char} {q : Quote} : ofMark? c = some q ↔ c = q.mark := by
  unfold ofMark?
  split
  · subst c; cases q <;> simp [mark]
  · split
    · subst c; cases q <;> simp [mark]
    · cases q <;> simp_all [mark]

theorem after_unquoted (q : Quote) : Quoting.unquoted.after q.mark = q.quoting := by
  cases q <;> rfl

theorem after_mark (q : Quote) : q.quoting.after q.mark = .unquoted := by cases q <;> rfl

theorem after_of_ne {q : Quote} {c : Char} (h : c ≠ q.mark) : q.quoting.after c = q.quoting := by
  cases q <;> simp_all [mark, quoting, Quoting.after]

theorem endsFragment_quoting (q : Quote) (c : Char) : q.quoting.endsFragment c = false := by
  cases q <;> rfl

theorem endsFragment_mark (q : Quote) : Quoting.unquoted.endsFragment q.mark = false := by
  cases q <;> rfl

theorem quoting_injective {q q' : Quote} : q.quoting = q'.quoting ↔ q = q' := by
  cases q <;> cases q' <;> simp [quoting]

theorem quoting_ne_unquoted (q : Quote) : q.quoting ≠ .unquoted := by cases q <;> simp [quoting]

theorem after_unquoted_of_ofMark? {c : Char} (h : ofMark? c = none) :
    Quoting.unquoted.after c = .unquoted := by
  unfold ofMark? at h
  split at h
  · simp at h
  · split at h
    · simp at h
    · simp_all [Quoting.after]

end Quote

/-- A piece of a script as an SQL lexer reads it. The content of a literal is kept as it is
written, with its doubled quotes. -/
inductive Lexeme
  | plain (c : Char)
  | semicolon
  | literal (quote : Quote) (content : List Char)
  | unterminated (quote : Quote) (content : List Char)
  deriving DecidableEq, Repr

/-- The content of a literal after its opening quote, and what follows its closing one. A doubled
quote belongs to the content. Nothing follows a literal that is never closed. -/
def literalContent (mark : Char) : List Char → List Char × Option (List Char)
  | [] => ([], none)
  | [c] => if c = mark then ([], some []) else ([c], none)
  | c :: d :: cs =>
    if c ≠ mark then Prod.map (c :: ·) id (literalContent mark (d :: cs))
    else if d = mark then Prod.map (c :: d :: ·) id (literalContent mark cs)
    else ([], some (d :: cs))

theorem literalContent_length {mark : Char} {s rest : List Char}
    (h : (literalContent mark s).2 = some rest) : rest.length < s.length := by
  fun_induction literalContent mark s with
  | case1 => simp at h
  | case2 => simp_all
  | case3 => simp at h
  | case4 c d cs _ ih => exact Nat.lt_succ_of_lt (ih h)
  | case5 c cs _ ih =>
    have hr := ih h
    simp only [List.length_cons]
    omega
  | case6 => simp_all

namespace Lexeme

def text : Lexeme → List Char
  | plain c => [c]
  | semicolon => [';']
  | literal quote content => quote.mark :: content ++ [quote.mark]
  | unterminated quote content => quote.mark :: content

def fragments (lexemes : List Lexeme) : List (List Char) :=
  (lexemes.splitOn semicolon).map (·.flatMap text)

def EndsWithin (quote : Quote) (lexemes : List Lexeme) : Prop :=
  ∃ content, lexemes.getLast? = some (unterminated quote content)

end Lexeme

def lexemes : List Char → List Lexeme
  | [] => []
  | c :: cs =>
    match Quote.ofMark? c with
    | none => (if c = ';' then .semicolon else .plain c) :: lexemes cs
    | some quote =>
      match _ : literalContent quote.mark cs with
      | (content, none) => [.unterminated quote content]
      | (content, some rest) => .literal quote content :: lexemes rest
termination_by s => s.length
decreasing_by
  · simp
  · have := literalContent_length (congrArg Prod.snd (by assumption))
    simp only [List.length_cons]; omega

open Quoting

/-- Between the halves of a doubled quote the scanner stands outside the literal; it is back inside
after the second half, and no semicolon comes between them. -/
theorem scan_content (q : Quote) (s : List Char) :
    q.quoting.Spans (literalContent q.mark s).1 ∧
      q.quoting.afterText (literalContent q.mark s).1 = q.quoting := by
  fun_induction literalContent q.mark s with
  | case1 => simp
  | case2 => simp
  | case3 c hc => simp [q.endsFragment_quoting, Quote.after_of_ne hc]
  | case4 c d cs hc ih => simpa [q.endsFragment_quoting, Quote.after_of_ne hc] using ih
  | case5 c cs hc ih =>
    obtain rfl : c = q.mark := not_not.1 hc
    simpa [q.endsFragment_quoting, q.after_mark, q.endsFragment_mark, q.after_unquoted] using ih
  | case6 => simp

theorem literalContent_text (mark : Char) (s : List Char) :
    (literalContent mark s).1 ++ (literalContent mark s).2.elim [] (mark :: ·) = s := by
  fun_induction literalContent mark s with
  | case1 => rfl
  | case2 => simp_all
  | case3 => rfl
  | case4 c d cs _ ih => simpa using ih
  | case5 c cs hc ih => simpa [hc] using ih
  | case6 => simp_all

namespace Lexeme

theorem fragments_nil : fragments [] = [[]] := by simp [fragments]

theorem fragments_semicolon (ls : List Lexeme) :
    fragments (semicolon :: ls) = [] :: fragments ls := by
  simp [fragments, List.splitOn, List.splitOnP_cons_eq_if_modifyHead]

theorem fragments_cons {l : Lexeme} (hl : l ≠ semicolon) (ls : List Lexeme) :
    fragments (l :: ls) = (fragments ls).modifyHead (l.text ++ ·) := by
  simp only [fragments, List.splitOn, List.splitOnP_cons_eq_if_modifyHead, beq_iff_eq, hl, if_false]
  cases List.splitOnP (· == semicolon) ls <;> simp

theorem endsWithin_cons {l : Lexeme} (hl : ∀ q content, l ≠ unterminated q content)
    (q : Quote) (ls : List Lexeme) : EndsWithin q (l :: ls) ↔ EndsWithin q ls := by
  cases ls with
  | nil => simp [EndsWithin, hl]
  | cons l' ls => simp [EndsWithin, List.getLast?_cons_cons]

end Lexeme

theorem scan_literal {q : Quote} {cs content rest : List Char}
    (h : literalContent q.mark cs = (content, some rest)) :
    unquoted.Spans (Lexeme.literal q content).text ∧
      unquoted.afterText (Lexeme.literal q content).text = unquoted := by
  obtain ⟨hs, ha⟩ := scan_content q cs
  rw [h] at hs ha
  simp [Lexeme.text, spans_append, afterText_append, q.endsFragment_mark, q.after_unquoted, hs, ha,
    q.endsFragment_quoting, q.after_mark]

theorem scan_unterminated {q : Quote} {cs content : List Char}
    (h : literalContent q.mark cs = (content, none)) :
    unquoted.Spans (Lexeme.unterminated q content).text ∧
      unquoted.afterText (Lexeme.unterminated q content).text = q.quoting := by
  obtain ⟨hs, ha⟩ := scan_content q cs
  rw [h] at hs ha
  simp [Lexeme.text, q.endsFragment_mark, q.after_unquoted, hs, ha]

/-- Lexer and scanner cut a text at the same places and end in the same context. -/
theorem cuts_lexemes (s : List Char) :
    Cuts s (Lexeme.fragments (lexemes s)) ∧
      ∀ q : Quote, unquoted.afterText s = q.quoting ↔ Lexeme.EndsWithin q (lexemes s) := by
  fun_induction lexemes s with
  | case1 =>
    refine ⟨by rw [Lexeme.fragments_nil]; exact .last trivial, fun q ↦ ?_⟩
    simp [Lexeme.EndsWithin, q.quoting_ne_unquoted.symm]
  | case2 c cs hc ih =>
    have ha := Quote.after_unquoted_of_ofMark? hc
    obtain ⟨hcuts, hend⟩ := ih
    split
    · subst c
      refine ⟨?_, fun q ↦ ?_⟩
      · rw [Lexeme.fragments_semicolon]
        exact .cut (a := []) trivial rfl hcuts
      · rw [Lexeme.endsWithin_cons (by simp), afterText_cons, ha, hend]
    · refine ⟨?_, fun q ↦ ?_⟩
      · rw [Lexeme.fragments_cons (by simp)]
        have hs : unquoted.Spans [c] := by simp_all [endsFragment]
        exact hcuts.extend hs ha
      · rw [Lexeme.endsWithin_cons (by simp), afterText_cons, ha, hend]
  | case3 c cs quote hc content h =>
    obtain rfl := Quote.ofMark?_eq_some_iff.1 hc
    obtain ⟨hs, ha⟩ := scan_unterminated h
    have ht : (Lexeme.unterminated quote content).text = quote.mark :: cs := by
      have htext := literalContent_text quote.mark cs
      rw [h] at htext
      simpa [Lexeme.text] using htext
    rw [ht] at hs ha
    refine ⟨?_, fun q ↦ ?_⟩
    · rw [Lexeme.fragments_cons (by simp), Lexeme.fragments_nil, List.modifyHead_cons, ht,
        List.append_nil]
      exact .last hs
    · rw [ha, Quote.quoting_injective]
      simp [Lexeme.EndsWithin]
  | case4 c cs quote hc content rest h ih =>
    obtain rfl := Quote.ofMark?_eq_some_iff.1 hc
    obtain ⟨hs, ha⟩ := scan_literal h
    obtain ⟨hcuts, hend⟩ := ih
    have ht : quote.mark :: cs = (Lexeme.literal quote content).text ++ rest := by
      have htext := literalContent_text quote.mark cs
      rw [h] at htext
      simpa [Lexeme.text] using htext.symm
    rw [ht]
    refine ⟨?_, fun q ↦ ?_⟩
    · rw [Lexeme.fragments_cons (by simp)]
      exact hcuts.extend hs ha
    · rw [Lexeme.endsWithin_cons (by simp), afterText_append, ha, hend]

/-- The scanner needs no look-ahead to agree with a lexer that knows doubled quotes: it finds the
same fragments, and is inside quotes at the end exactly when the lexer is inside a literal. -/
theorem fragments_eq_lexeme_fragments (text : String) :
    fragments text = (Lexeme.fragments (lexemes text.toList)).map String.ofList ∧
      ((({} : Scan).feed text).quoting = .inString ↔
        Lexeme.EndsWithin .single (lexemes text.toList)) ∧
      ((({} : Scan).feed text).quoting = .inIdentifier ↔
        Lexeme.EndsWithin .double (lexemes text.toList)) := by
  obtain ⟨hcuts, hend⟩ := cuts_lexemes text.toList
  rw [Scan.quoting_feed]
  exact ⟨hcuts.fragments_eq, hend .single, hend .double⟩

/-- The semicolon after a doubled quote is content, and so is the other kind of quote. -/
example : lexemes "a 'b'';\"' ;".toList =
    ['a', ' '].map .plain ++ [.literal .single "b'';\"".toList, .plain ' ', .semicolon] := by
  decide +kernel

end RevisionScript
