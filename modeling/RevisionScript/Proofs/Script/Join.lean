import RevisionScript.Proofs.Script.Cut

namespace RevisionScript

open Quoting

structure Separable (texts : List String) : Prop where
  ne_nil : texts ≠ []
  whole : ∀ t ∈ texts, fragments t = [t]
  closed : ∀ t ∈ texts.dropLast, (({} : Scan).feed t).quoting = .unquoted

theorem fragments_eq_singleton_iff {text : String} :
    fragments text = [text] ↔ unquoted.Spans text.toList := by
  constructor
  · intro h
    rw [← length_fragments_eq_one_iff, h]
    rfl
  · intro h
    rw [(Cuts.last h).fragments_eq, List.map_singleton, String.ofList_toList]

theorem toList_join (texts : List String) :
    (";".intercalate texts).toList = [';'].intercalate (texts.map String.toList) :=
  String.toList_intercalate

namespace Cuts

variable {s : List Char} {fs : List (List Char)}

theorem intercalate_eq (h : Cuts s fs) : [';'].intercalate fs = s := by
  induction h with
  | last => exact List.intercalate_singleton
  | cut _ _ ht ih =>
    rw [List.intercalate_cons_of_ne_nil ht.ne_nil, ih]
    simp

theorem of_intercalate (hn : fs ≠ []) (hs : ∀ f ∈ fs, unquoted.Spans f)
    (hq : ∀ f ∈ fs.dropLast, unquoted.afterText f = unquoted) : Cuts ([';'].intercalate fs) fs := by
  induction fs with
  | nil => exact absurd rfl hn
  | cons f rest ih =>
    rw [List.forall_mem_cons] at hs
    cases rest with
    | nil =>
      rw [List.intercalate_singleton]
      exact .last hs.1
    | cons g gs =>
      rw [List.dropLast_cons_cons, List.forall_mem_cons] at hq
      have h := ih (List.cons_ne_nil g gs) hs.2 hq.2
      rw [List.intercalate_cons_cons]
      simpa using Cuts.cut hs.1 hq.1 h

theorem separable {texts : List String} (h : Cuts s (texts.map String.toList)) :
    Separable texts where
  ne_nil := by simpa using h.ne_nil
  whole t ht := fragments_eq_singleton_iff.2 (h.spans_of_mem (List.mem_map_of_mem ht))
  closed t ht := by
    rw [Scan.quoting_feed]
    apply h.afterText_of_mem_dropLast
    rw [← List.map_dropLast]
    exact List.mem_map_of_mem ht

end Cuts

theorem Separable.cuts {texts : List String} (h : Separable texts) :
    Cuts (";".intercalate texts).toList (texts.map String.toList) := by
  rw [toList_join]
  apply Cuts.of_intercalate
  · simpa using h.ne_nil
  · simpa [fragments_eq_singleton_iff] using h.whole
  · intro f hf
    rw [← List.map_dropLast] at hf
    obtain ⟨t, ht, rfl⟩ := List.mem_map.1 hf
    simpa only [Scan.quoting_feed] using h.closed t ht

/-- Joining with semicolons undoes cutting, and cutting undoes the joining of separable texts. -/
theorem fragments_eq_iff (text : String) (texts : List String) :
    fragments text = texts ↔ Separable texts ∧ ";".intercalate texts = text := by
  constructor
  · rintro rfl
    have h := Cuts.of_fragments text
    refine ⟨h.separable, String.toList_inj.1 ?_⟩
    rw [toList_join, h.intercalate_eq]
  · intro hp
    rcases hp with ⟨h, rfl⟩
    rw [h.cuts.fragments_eq, List.map_map]
    simp

end RevisionScript
