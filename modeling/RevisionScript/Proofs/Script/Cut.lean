import Mathlib.Data.List.Basic
import RevisionScript.Script.Revision

namespace RevisionScript

namespace Quoting

def afterText (q : Quoting) (s : List Char) : Quoting := s.foldl after q

def Spans : Quoting → List Char → Prop
  | _, [] => True
  | q, c :: cs => q.endsFragment c = false ∧ (q.after c).Spans cs

variable {q : Quoting} {a b s : List Char}

@[simp] theorem afterText_nil : q.afterText [] = q := rfl

@[simp] theorem afterText_cons (c : Char) : q.afterText (c :: s) = (q.after c).afterText s := rfl

theorem afterText_append : q.afterText (a ++ b) = (q.afterText a).afterText b := by
  simp [afterText]

@[simp] theorem spans_nil : q.Spans [] := trivial

@[simp] theorem spans_cons (c : Char) :
    q.Spans (c :: s) ↔ q.endsFragment c = false ∧ (q.after c).Spans s := Iff.rfl

theorem spans_append : q.Spans (a ++ b) ↔ q.Spans a ∧ (q.afterText a).Spans b := by
  induction a generalizing q with
  | nil => simp
  | cons c cs ih => simp [ih, and_assoc]

def fragment : Quoting → List Char → List Char
  | _, [] => []
  | q, c :: cs => if q.endsFragment c then [] else c :: (q.after c).fragment cs

theorem fragment_append (h : q.Spans a) (b : List Char) :
    q.fragment (a ++ b) = a ++ (q.afterText a).fragment b := by
  induction a generalizing q with
  | nil => rfl
  | cons c cs ih => simp [fragment, h.1, ih h.2]

theorem fragment_eq_self (h : q.Spans s) : q.fragment s = s := by
  simpa [fragment] using fragment_append h []

theorem fragment_prefix_self (q : Quoting) (s : List Char) : q.fragment s <+: s := by
  induction s generalizing q with
  | nil => exact List.prefix_rfl
  | cons c cs ih =>
    unfold fragment
    split
    · exact List.nil_prefix
    · exact List.cons_prefix_cons.2 ⟨rfl, ih _⟩

theorem endsFragment_iff {c : Char} : q.endsFragment c = true ↔ q = unquoted ∧ c = ';' := by
  simp [endsFragment]

theorem spans_or_cut (q : Quoting) (s : List Char) :
    q.Spans s ∨ ∃ a b, s = a ++ ';' :: b ∧ q.Spans a ∧ q.afterText a = unquoted := by
  induction s generalizing q with
  | nil => exact .inl trivial
  | cons c cs ih =>
    cases hc : q.endsFragment c
    · obtain h | ⟨a, b, rfl, ha, hq⟩ := ih (q.after c)
      · exact .inl ⟨hc, h⟩
      · exact .inr ⟨c :: a, b, rfl, ⟨hc, ha⟩, hq⟩
    · obtain ⟨rfl, rfl⟩ := endsFragment_iff.1 hc
      exact .inr ⟨[], cs, rfl, trivial, rfl⟩

end Quoting

open Quoting

/-- The fragments of a text: each but the last is followed by a semicolon outside quotes. -/
inductive Cuts : List Char → List (List Char) → Prop
  | last {s : List Char} : unquoted.Spans s → Cuts s [s]
  | cut {a b : List Char} {fs : List (List Char)} :
      unquoted.Spans a → unquoted.afterText a = unquoted → Cuts b fs →
      Cuts (a ++ ';' :: b) (a :: fs)

theorem exists_cuts (s : List Char) : ∃ fs, Cuts s fs := by
  obtain h | ⟨a, b, rfl, ha, hq⟩ := spans_or_cut unquoted s
  · exact ⟨[s], .last h⟩
  · obtain ⟨fs, hfs⟩ := exists_cuts b
    exact ⟨a :: fs, .cut ha hq hfs⟩
termination_by s.length
decreasing_by subst_vars; simp only [List.length_append, List.length_cons]; omega

namespace Scan

theorem quoting_feed (s : Scan) (text : String) :
    (s.feed text).quoting = s.quoting.afterText text.toList := by
  simp only [feed]
  induction text.toList generalizing s with
  | nil => rfl
  | cons c cs ih =>
    rw [List.foldl_cons, ih, afterText_cons]
    congr 1
    cases hc : s.quoting.endsFragment c
    · simp [accept, hc]
    · obtain ⟨hq, rfl⟩ := endsFragment_iff.1 hc
      simp [accept, endsFragment, hq, after]

theorem foldl_accept_of_spans {q : Quoting} {s : List Char} (h : q.Spans s)
    (closed : List String) (current : String) :
    s.foldl accept ⟨q, closed, current⟩ =
      ⟨q.afterText s, closed, current ++ String.ofList s⟩ := by
  induction s generalizing q current with
  | nil => simp
  | cons c cs ih =>
    obtain ⟨hc, hs⟩ := h
    rw [List.foldl_cons, accept]
    simp only [hc, Bool.false_eq_true, if_false, ih hs, afterText_cons]
    congr 1
    apply String.toList_inj.1
    simp

theorem foldl_accept_semicolon (closed : List String) (current : String) :
    accept ⟨unquoted, closed, current⟩ ';' = ⟨unquoted, closed ++ [current], ""⟩ := rfl

theorem fragments_of_cuts {s : List Char} {fs : List (List Char)} (h : Cuts s fs)
    (closed : List String) :
    (s.foldl accept ⟨unquoted, closed, ""⟩).fragments = closed ++ fs.map String.ofList := by
  induction h generalizing closed with
  | last h => simp [foldl_accept_of_spans h, fragments]
  | cut ha hq _ ih =>
    rw [List.foldl_append, foldl_accept_of_spans ha, hq, List.foldl_cons,
      foldl_accept_semicolon, ih]
    simp

end Scan

namespace Cuts

variable {s : List Char} {fs : List (List Char)}

theorem fragments_eq {text : String} (h : Cuts text.toList fs) :
    fragments text = fs.map String.ofList := Scan.fragments_of_cuts h []

theorem fragments_ofList (h : Cuts s fs) :
    fragments (String.ofList s) = fs.map String.ofList :=
  fragments_eq (by rwa [String.toList_ofList])

theorem of_fragments (text : String) : Cuts text.toList ((fragments text).map String.toList) := by
  obtain ⟨fs, h⟩ := exists_cuts text.toList
  rw [h.fragments_eq]
  simpa using h

theorem ne_nil (h : Cuts s fs) : fs ≠ [] := by cases h <;> simp

/-- A text in front that leaves quotes closed goes to the first fragment. -/
theorem extend {a : List Char} (h : Cuts s fs) (ha : unquoted.Spans a)
    (hq : unquoted.afterText a = unquoted) : Cuts (a ++ s) (fs.modifyHead (a ++ ·)) := by
  cases h with
  | last h => exact .last (spans_append.2 ⟨ha, by rwa [hq]⟩)
  | cut h hf ht =>
    rw [← List.append_assoc]
    exact .cut (spans_append.2 ⟨ha, by rwa [hq]⟩) (by rw [afterText_append, hq, hf]) ht

theorem unique {fs' : List (List Char)} (h : Cuts s fs) (h' : Cuts s fs') : fs = fs' := by
  have he := h.fragments_ofList.symm.trans h'.fragments_ofList
  exact (List.map_inj_right fun _ _ ↦ String.ofList_inj.1).1 he

theorem append {a b : List Char} {gs : List (List Char)} (ha : Cuts a fs)
    (hq : unquoted.afterText a = unquoted) (hb : Cuts b gs) : Cuts (a ++ ';' :: b) (fs ++ gs) := by
  induction ha with
  | last hs => exact .cut hs hq hb
  | @cut a' b' fs hs hq' _ ih =>
    have hend : unquoted.afterText b' = unquoted := by
      rwa [afterText_append, hq', afterText_cons] at hq
    rw [List.append_assoc, List.cons_append]
    exact .cut hs hq' (ih hend)

theorem head_eq (h : Cuts s fs) : fs.head? = some (unquoted.fragment s) := by
  cases h with
  | last hs => rw [fragment_eq_self hs]; rfl
  | cut ha hq _ => rw [fragment_append ha, hq]; simp [fragment, endsFragment]

/-- A fragment stands at the front or behind a semicolon outside quotes. -/
theorem mem_iff (h : Cuts s fs) {f : List Char} :
    f ∈ fs ↔ unquoted.fragment s = f ∨ ∃ before after, s = before ++ ';' :: after ∧
      unquoted.afterText before = unquoted ∧ unquoted.fragment after = f := by
  constructor
  · intro hf
    induction h with
    | last hs => exact .inl ((fragment_eq_self hs).trans (List.mem_singleton.1 hf).symm)
    | @cut a b fs ha hq hb ih =>
      obtain rfl | hf := List.mem_cons.1 hf
      · exact .inl (Option.some.inj (Cuts.cut ha hq hb).head_eq).symm
      · refine .inr ?_
        obtain hfirst | ⟨before, after, rfl, hq', hfrag⟩ := ih hf
        · exact ⟨a, b, rfl, hq, hfirst⟩
        · refine ⟨a ++ ';' :: before, after, by simp, ?_, hfrag⟩
          rw [afterText_append, hq]
          exact hq'
  · rintro (rfl | ⟨before, after, rfl, hq, rfl⟩)
    · exact List.mem_of_mem_head? h.head_eq
    · obtain ⟨gs, hgs⟩ := exists_cuts before
      obtain ⟨hs, hhs⟩ := exists_cuts after
      rw [h.unique (hgs.append hq hhs)]
      exact List.mem_append_right _ (List.mem_of_mem_head? hhs.head_eq)

theorem spans_of_mem (h : Cuts s fs) {f : List Char} (hf : f ∈ fs) : unquoted.Spans f := by
  induction h with
  | last h => simpa [List.mem_singleton.1 hf] using h
  | cut ha _ _ ih =>
    obtain rfl | hf := List.mem_cons.1 hf
    · exact ha
    · exact ih hf

theorem afterText_of_mem_dropLast (h : Cuts s fs) {f : List Char} (hf : f ∈ fs.dropLast) :
    unquoted.afterText f = unquoted := by
  induction h with
  | last => simp at hf
  | cut _ hq ht ih =>
    rw [List.dropLast_cons_of_ne_nil ht.ne_nil] at hf
    obtain rfl | hf := List.mem_cons.1 hf
    · exact hq
    · exact ih hf

theorem length_eq_one_iff (h : Cuts s fs) : fs.length = 1 ↔ unquoted.Spans s := by
  constructor
  · intro hl
    cases h with
    | last hs => exact hs
    | cut _ _ ht => simp [ht.ne_nil] at hl
  · intro hs
    cases h with
    | last => rfl
    | cut ha hq _ => simp [spans_append, hq, endsFragment] at hs

end Cuts

theorem length_fragments_eq_one_iff (text : String) :
    (fragments text).length = 1 ↔ unquoted.Spans text.toList := by
  simpa using (Cuts.of_fragments text).length_eq_one_iff

end RevisionScript
