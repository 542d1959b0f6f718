import RevisionScript.Proofs.Script.Concatenation
import RevisionScript.Proofs.Script.Image
import RevisionScript.Proofs.Script.Join
import RevisionScript.Proofs.Script.Kept

namespace RevisionScript

open Quoting

variable {s t : List Char} {texts fs : List (List Char)} {c : Char}

def joined (texts : List (List Char)) : List Char := [';', '\n'].intercalate texts

theorem joined_cons (s t : List Char) (rest : List (List Char)) :
    joined (s :: t :: rest) = s ++ ';' :: '\n' :: joined (t :: rest) := by
  rw [joined, List.intercalate_cons_cons, ← joined]
  simp

theorem joined_singleton (s : List Char) : joined [s] = s := List.intercalate_singleton

theorem EndsLine.append (hs : EndsLine s) (ht : EndsLine t) : EndsLine (s ++ t) := by
  obtain rfl | ht := ht
  · rwa [List.append_nil]
  · exact .inr (by rw [List.getLast?_append, ht, Option.some_or])

/-- Each statement begins a line of the text. -/
theorem exists_joined_eq (h : s ∈ texts) : ∃ a b, EndsLine a ∧ joined texts = a ++ (s ++ b) := by
  induction texts with
  | nil => cases h
  | cons t rest ih =>
    cases rest with
    | nil =>
      rw [List.mem_singleton.1 h]
      exact ⟨[], [], .inl rfl, by simp [joined_singleton]⟩
    | cons u rest =>
      rw [joined_cons]
      obtain rfl | h := List.mem_cons.1 h
      · exact ⟨[], _, .inl rfl, rfl⟩
      · obtain ⟨a, b, ha, hab⟩ := ih h
        have hline : EndsLine (t ++ [';', '\n']) := .inr (by simp)
        exact ⟨t ++ [';', '\n'] ++ a, b, hline.append ha, by simp [hab]⟩

theorem count_joined (hc : c ≠ '\n') (hsemicolon : c ≠ ';') (texts : List (List Char)) :
    (joined texts).count c = texts.flatten.count c := by
  induction texts with
  | nil => rfl
  | cons s rest ih =>
    cases rest with
    | nil => simp [joined_singleton]
    | cons t rest =>
      rw [joined_cons, List.flatten_cons, List.count_append, List.count_append, ← ih]
      simp [hc.symm, hsemicolon.symm]

theorem Cuts.flatten_sublist (h : Cuts s fs) : fs.flatten.Sublist s := by
  induction h with
  | @last s _ => simp
  | cut _ _ _ ih =>
    rw [List.flatten_cons]
    exact (List.Sublist.refl _).append (ih.cons _)

/-- Statements have no characters that their script does not have. -/
theorem Cuts.statements_sublist (h : Cuts s fs) :
    ((fs.filterMap statement?).map String.toList).flatten.Sublist s := by
  refine List.Sublist.trans ?_ h.flatten_sublist
  clear h
  induction fs with
  | nil => exact List.Sublist.refl _
  | cons f fs ih =>
    rw [List.filterMap_cons, List.flatten_cons]
    cases hf : statement? f with
    | none => exact ih.trans (List.sublist_append_right _ _)
    | some t =>
      obtain ⟨a, b, -, -, hab⟩ := exists_trim f
      have ht : t.toList.Sublist f := by
        rw [← (statement?_eq_some_iff.1 hf).1]
        exact List.IsInfix.sublist ⟨a, b, by rw [List.append_assoc, ← hab]⟩
      exact ht.append ih

theorem count_le_of_cuts_joined (h : Cuts (dropComments (joined texts)) fs)
    (hs : (fs.filterMap statement?).map String.toList = texts) (hc : c ≠ '\n')
    (hsemicolon : c ≠ ';') : (joined texts).count c ≤ (dropComments (joined texts)).count c := by
  rw [count_joined hc hsemicolon]
  conv_lhs => rw [← hs]
  exact h.statements_sublist.count_le c

structure Rejoinable (s : List Char) : Prop where
  code : ¬ ['-', '-'] <+: s
  noReturn : ¬ ['\r', '\n'] <:+: s

theorem rejoinable_of_isKept (h : ∀ l ∈ List.splitOn '\n' (joined texts), IsKept l)
    (hs : s ∈ texts) :
    Rejoinable s := by
  obtain ⟨a, b, ha, hab⟩ := exists_joined_eq hs
  constructor
  · intro hdashes
    obtain ⟨ls, hls, rfl⟩ := ha.exists_unlines
    have hline : firstLine (s ++ b) ∈ List.splitOn '\n' (joined texts) := by
      rw [hab, splitOn_unlines_append hls, splitOn_newline (s ++ b)]
      simp
    have hcomment := isCommentLine_firstLine (hdashes.trans (List.prefix_append s b))
    rw [(h _ hline).code] at hcomment
    cases hcomment
  · intro hreturn
    refine noReturn_iff.1 (fun l hl ↦ (h l hl).noReturn) ?_
    have hinfix : s <:+: joined texts ++ ['\n'] := ⟨a, b ++ ['\n'], by rw [hab]; simp⟩
    exact hreturn.trans hinfix

theorem isCommentLine_of_trimmed (hs : IsTrimmed s) :
    isCommentLine s = true ↔ ['-', '-'] <+: s := by
  rw [isCommentLine_iff, trimStart_eq_self_iff.2 hs.1]

theorem isKept_of_rejoinable (hs : IsTrimmed s)
    (hcode : ∀ l ∈ (List.splitOn '\n' s).tail, isCommentLine l = false) (h : Rejoinable s) :
    ∀ l ∈ List.splitOn '\n' s, IsKept l := by
  have hreturn : ¬ ['\r', '\n'] <:+: s ++ ['\n'] := by
    intro hinfix
    obtain hsuffix | hinfix := List.infix_concat_iff.1 hinfix
    · obtain ⟨u, hu⟩ := hsuffix
      have hlast : s = u ++ ['\r'] := by
        rw [← List.append_left_inj ['\n'], ← hu]
        simp
      have hblank := hs.2 '\r' (by simp [hlast])
      revert hblank
      decide
    · exact h.noReturn hinfix
  intro l hl
  refine ⟨?_, noReturn_iff.2 hreturn l hl⟩
  rw [splitOn_newline] at hl
  obtain rfl | hl := List.mem_cons.1 hl
  · rw [Bool.eq_false_iff]
    intro hcomment
    have hprefix : firstLine s <+: s := List.takeWhile_prefix _
    exact h.code ((isCommentLine_of_trimmed hs).1 (isCommentLine_mono hprefix hcomment))
  · exact hcode l hl

theorem isCommentLine_concat_semicolon (h : isCommentLine s = false) :
    isCommentLine (s ++ [';']) = false := by
  rw [Bool.eq_false_iff, ne_eq, isCommentLine_iff] at h ⊢
  intro hcomment
  by_cases hs : trimStart s = []
  · rw [trimStart_append_of_blank (List.dropWhile_eq_nil_iff.1 hs)] at hcomment
    revert hcomment
    decide
  · rw [trimStart_append hs, List.prefix_concat_iff] at hcomment
    obtain heq | hprefix := hcomment
    · have hlast := congrArg List.getLast? heq
      simp at hlast
    · exact h hprefix

theorem isKept_concat_semicolon (h : ∀ l ∈ List.splitOn '\n' s, IsKept l) :
    ∀ l ∈ List.splitOn '\n' (s ++ [';']), IsKept l := by
  obtain ⟨ls, l, hs, hsemicolon⟩ := exists_splitOn_concat (c := ';') (by decide) s
  rw [hs, List.forall_mem_append] at h
  rw [hsemicolon, List.forall_mem_append]
  refine ⟨h.1, fun l' hl' ↦ ?_⟩
  rw [List.mem_singleton.1 hl']
  have hl := h.2 l (List.mem_singleton_self l)
  exact ⟨isCommentLine_concat_semicolon hl.code, by simp⟩

theorem dropComments_joined (hne : texts ≠ []) (htrim : ∀ s ∈ texts, s ≠ [] ∧ IsTrimmed s)
    (hkept : ∀ s ∈ texts, ∀ l ∈ List.splitOn '\n' s, IsKept l) :
    dropComments (joined texts) = joined texts ++ ['\n'] := by
  induction texts with
  | nil => exact absurd rfl hne
  | cons s rest ih =>
    rw [List.forall_mem_cons] at htrim hkept
    cases rest with
    | nil =>
      obtain ⟨init, c, rfl⟩ := (List.eq_nil_or_concat s).resolve_left htrim.1.1
      rw [List.concat_eq_append] at htrim hkept ⊢
      have hblank := htrim.1.2.2 c (by simp)
      have hc : c ≠ '\n' ∧ c ≠ '\r' := by
        constructor <;> rintro rfl <;> revert hblank <;> decide
      rw [joined_singleton, ← dropComments_append_newline hc.1 hc.2, dropComments_of_kept hkept.1]
    | cons t rest =>
      have hrest := ih (List.cons_ne_nil t rest) htrim.2 hkept.2
      have hline : EndsLine (s ++ [';'] ++ ['\n']) := .inr (by simp)
      have happend : s ++ ';' :: '\n' :: joined (t :: rest) =
          s ++ [';'] ++ ['\n'] ++ joined (t :: rest) := by simp
      rw [joined_cons, happend, dropComments_append hline, hrest,
        dropComments_of_kept (isKept_concat_semicolon hkept.1), List.append_assoc _ (joined _)]

theorem exists_cuts_joined {statements : List String} (hne : statements ≠ [])
    (htrim : ∀ s ∈ statements, s ≠ "" ∧ IsTrimmed s.toList)
    (hspans : ∀ s ∈ statements, unquoted.Spans s.toList)
    (hclosed : ∀ s ∈ statements.dropLast, unquoted.afterText s.toList = unquoted) :
    ∃ fs, Cuts (joined (statements.map String.toList) ++ ['\n']) fs ∧
      fs.filterMap statement? = statements := by
  induction statements with
  | nil => exact absurd rfl hne
  | cons s rest ih =>
    rw [List.forall_mem_cons] at htrim hspans
    cases rest with
    | nil =>
      have hs : unquoted.Spans (s.toList ++ ['\n']) := by
        simp [spans_append, hspans.1, endsFragment]
      refine ⟨[s.toList ++ ['\n']], ?_, ?_⟩
      · simpa [joined_singleton] using Cuts.last hs
      · simp [statement?_append_newline htrim.1.1 htrim.1.2]
    | cons t rest =>
      rw [List.dropLast_cons_cons, List.forall_mem_cons] at hclosed
      obtain ⟨fs, hfs, heq⟩ := ih (List.cons_ne_nil t rest) htrim.2 hspans.2 hclosed.2
      have hs : statement? s.toList = some s := by
        refine statement?_eq_some_iff.2 ⟨?_, htrim.1.1⟩
        simpa using trim_append_of_blank (a := []) (b := []) (by simp [AllBlank])
          (by simp [AllBlank])
          htrim.1.2
      refine ⟨[s.toList] ++ fs.modifyHead ('\n' :: ·), ?_, ?_⟩
      · have hcuts := (Cuts.last hspans.1).append_semicolon hclosed.1 hfs
        simpa [joined_cons] using hcuts
      · rw [List.singleton_append, List.filterMap_cons, hs, filterMap_statement?_modifyHead, heq]

namespace Revision

theorem toList_intercalate_statements (statements : List String) :
    (";\n".intercalate statements).toList = joined (statements.map String.toList) :=
  String.toList_intercalate

theorem Scriptable.parse_intercalate {statements : List String} (h : Scriptable statements)
    (hall : ∀ s ∈ statements, Rejoinable s.toList) :
    parse (";\n".intercalate statements) = .ok ⟨statements⟩ := by
  by_cases hne : statements = []
  · subst hne
    rfl
  have hkept : ∀ s ∈ statements.map String.toList, ∀ l ∈ List.splitOn '\n' s, IsKept l := by
    rw [List.forall_mem_map]
    exact fun s hs ↦ isKept_of_rejoinable (h.trimmed s hs).2 (h.uncommented s hs) (hall s hs)
  have htrim : ∀ s ∈ statements.map String.toList, s ≠ [] ∧ IsTrimmed s := by
    rw [List.forall_mem_map]
    exact fun s hs ↦ ⟨mt String.toList_eq_nil_iff.1 (h.trimmed s hs).1, (h.trimmed s hs).2⟩
  have hspans : ∀ s ∈ statements, unquoted.Spans s.toList := fun s hs ↦
    (length_fragments_eq_one_iff s).1 (h.whole s hs)
  have hclosed : ∀ s ∈ statements.dropLast, unquoted.afterText s.toList = unquoted := by
    simpa only [Scan.quoting_feed] using h.closed
  obtain ⟨fs, hfs, heq⟩ := exists_cuts_joined hne h.trimmed hspans hclosed
  rw [← dropComments_joined (by simpa using hne) htrim hkept,
    ← toList_intercalate_statements] at hfs
  rw [parse_of_cuts hfs, heq, ReservedCommand.first?_eq_none_iff.2]
  · rfl
  · simpa [ReservedCommand.first?] using h.allowed

theorem rejoinable_of_parse {statements : List String}
    (h : parse (";\n".intercalate statements) = .ok ⟨statements⟩) :
    ∀ s ∈ statements, Rejoinable s.toList := by
  obtain ⟨fs, hfs, hs⟩ := exists_cuts_of_parse h
  rw [toList_intercalate_statements] at hfs
  have hkept := isKept_of_count_le fun c hc hsemicolon ↦
    count_le_of_cuts_joined hfs (congrArg (List.map String.toList) hs.symm) hc hsemicolon
  exact fun s hs ↦ rejoinable_of_isKept hkept (List.mem_map_of_mem hs)

/-- The statements of a script, written one after another, are read as the same statements exactly
when none begins with a comment and none holds a carriage return before a line feed. -/
theorem parse_intercalate_iff {text : String} {r : Revision} (h : parse text = .ok r) :
    parse (";\n".intercalate r.statements) = .ok r ↔ ∀ s ∈ r.statements, Rejoinable s.toList :=
  ⟨rejoinable_of_parse, (scriptable_of_parse h).parse_intercalate⟩

theorem parse_intercalate_iff_of_quoted :
    let text := "select 'a;\r\nb';\r\n-- note\nselect \"--\r\n"
    let r : Revision := ⟨["select 'a;\nb'", "select \"--"]⟩
    parse text = .ok r ∧ parse (";\n".intercalate r.statements) = .ok r := by
  intro text r
  have h : parse text = .ok r := by decide +kernel
  refine ⟨h, (parse_intercalate_iff h).2 ?_⟩
  simp only [r, List.forall_mem_cons]
  exact ⟨⟨by decide +kernel, by decide +kernel⟩, ⟨by decide +kernel, by decide +kernel⟩, nofun⟩

end Revision

end RevisionScript
