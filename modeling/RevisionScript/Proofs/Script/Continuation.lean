import RevisionScript.Proofs.Script.Concatenation

namespace RevisionScript

open Quoting

/-- What the texts of a script have become after more was written: the last one may have gone on,
and others may follow. -/
def GrowsTo (old new : List String) : Prop :=
  old <+: new ∨ ∃ init last last' rest, old = init ++ [last] ∧ new = init ++ last' :: rest ∧
    last.toList <+: last'.toList

/-- Texts that go on open with the command that they opened with. -/
theorem ReservedCommand.first?_of_growsTo {old new : List String} {command : ReservedCommand}
    (h : GrowsTo old new) (hc : first? old = some command) : first? new = some command := by
  obtain ⟨rest, rfl⟩ | ⟨init, last, last', rest, rfl, rfl, hlast⟩ := h
  · rw [first?_append, hc, Option.some_or]
  rw [first?_append, first?_singleton] at hc
  rw [← List.singleton_append, first?_append, first?_append, first?_singleton]
  cases hinit : first? init with
  | some c =>
    rw [hinit, Option.some_or] at hc
    rw [Option.some_or, hc]
  | none =>
    rw [hinit, Option.none_or, opening?_eq_some_iff] at hc
    rw [opening?_eq_some_iff.2 (hc.mono hlast), Option.some_or, Option.none_or]

theorem statement?_append {s : String} {f : List Char} (h : statement? f = some s) (t : List Char) :
    ∃ s', statement? (f ++ t) = some s' ∧ s.toList <+: s'.toList := by
  obtain ⟨htrim, hne⟩ := statement?_eq_some_iff.1 h
  have hnil : trim f ≠ [] := by rwa [htrim, ne_eq, String.toList_eq_nil_iff]
  have hprefix := trim_prefix_trim_append hnil t
  have hnil' : trim (f ++ t) ≠ [] := by
    intro he
    rw [he, List.prefix_nil] at hprefix
    exact hnil hprefix
  refine ⟨String.ofList (trim (f ++ t)), if_neg hnil', ?_⟩
  rwa [String.toList_ofList, ← htrim]

/-- More text goes to the last fragment, which it may end. -/
theorem Cuts.exists_append {s : List Char} {fs : List (List Char)} (h : Cuts s fs) (t : List Char) :
    ∃ init f u rest, fs = init ++ [f] ∧ Cuts (s ++ t) (init ++ (f ++ u) :: rest) := by
  induction h with
  | @last s hs =>
    obtain ⟨gs, hgs⟩ := exists_cuts (s ++ t)
    have hhead := hgs.head_eq
    rw [fragment_append hs] at hhead
    obtain ⟨rest, rfl⟩ := List.head?_eq_some_iff.1 hhead
    exact ⟨[], s, _, rest, rfl, hgs⟩
  | @cut a b fs ha hq _ ih =>
    obtain ⟨init, f, u, rest, rfl, hcuts⟩ := ih
    refine ⟨a :: init, f, u, rest, rfl, ?_⟩
    rw [List.append_assoc]
    exact .cut ha hq hcuts

theorem growsTo_statements (init : List (List Char)) (f u : List Char) (rest : List (List Char)) :
    GrowsTo ((init ++ [f]).filterMap statement?)
      ((init ++ (f ++ u) :: rest).filterMap statement?) := by
  rw [List.filterMap_append, List.filterMap_append]
  cases hf : statement? f with
  | none =>
    rw [List.filterMap_cons_none hf, List.filterMap_nil, List.append_nil]
    exact .inl (List.prefix_append _ _)
  | some s =>
    obtain ⟨s', hs', hprefix⟩ := statement?_append hf u
    rw [List.filterMap_cons_some hf, List.filterMap_nil, List.filterMap_cons_some hs']
    exact .inr ⟨_, s, s', _, rfl, rfl, hprefix⟩

namespace Revision

/-- The statements of a script before and after more is appended, and what they make of it. -/
theorem exists_growsTo_of_append {a : String} (ha : EndsLine a.toList) (b : String) :
    ∃ old new, GrowsTo old new ∧
      parse a = (ReservedCommand.first? old).elim (.ok ⟨old⟩) .error ∧
      parse (a ++ b) = (ReservedCommand.first? new).elim (.ok ⟨new⟩) .error := by
  obtain ⟨fs, hfs⟩ := exists_cuts (dropComments a.toList)
  obtain ⟨init, f, u, rest, rfl, hgs⟩ := hfs.exists_append (dropComments b.toList)
  rw [← dropComments_append ha, ← String.toList_append] at hgs
  exact ⟨_, _, growsTo_statements init f u rest, parse_of_cuts hfs, parse_of_cuts hgs⟩

/-- A script of whole lines to which more is appended keeps its failure, and it keeps its statements
except that the last one may go on. -/
theorem parse_append_of_endsLine {a : String} (ha : EndsLine a.toList) (b : String) :
    (∀ command, parse a = .error command → parse (a ++ b) = .error command) ∧
      ∀ r, parse (a ++ b) = .ok r →
        ∃ r₀, parse a = .ok r₀ ∧ GrowsTo r₀.statements r.statements := by
  obtain ⟨old, new, hgrows, hold, hnew⟩ := exists_growsTo_of_append ha b
  rw [hold, hnew]
  cases hfirst : ReservedCommand.first? old with
  | some command =>
    rw [ReservedCommand.first?_of_growsTo hgrows hfirst]
    exact ⟨fun _ h ↦ h, nofun⟩
  | none =>
    refine ⟨nofun, fun r hr ↦ ⟨⟨old⟩, rfl, ?_⟩⟩
    cases hlater : ReservedCommand.first? new with
    | some command =>
      rw [hlater] at hr
      cases hr
    | none =>
      rw [hlater] at hr
      cases hr
      exact hgrows

/-- The second statement goes on, a third stands after it; the word of a command may go on, too. -/
theorem parse_append_of_endsLine_of_quoted :
    let a := "select 1;\nselect 'a;\n"
    let b := "-- note\nb'; select 2"
    (EndsLine a.toList ∧ parse (a ++ b) = .ok ⟨["select 1", "select 'a;\nb'", "select 2"]⟩ ∧
      ∃ r₀, parse a = .ok r₀ ∧
        GrowsTo r₀.statements ["select 1", "select 'a;\nb'", "select 2"]) ∧
    EndsLine "commit\n".toList ∧ parse "commit\n" = .error .commit ∧
      parse ("commit\n" ++ "ment") = .error .commit := by
  intro a b
  have ha : EndsLine a.toList := .inr (by decide +kernel)
  have hab : parse (a ++ b) = .ok ⟨["select 1", "select 'a;\nb'", "select 2"]⟩ := by decide +kernel
  have hc : EndsLine "commit\n".toList := .inr (by decide +kernel)
  have hcommit : parse "commit\n" = .error .commit := by decide +kernel
  exact ⟨⟨ha, hab, (parse_append_of_endsLine ha b).2 _ hab⟩, hc, hcommit,
    (parse_append_of_endsLine hc "ment").1 _ hcommit⟩

end Revision

end RevisionScript
