import Mathlib
import SchemaGraph.Proofs.Check.Accepted
import SchemaGraph.Proofs.Check.Ending

/-
  The outcome of the check of a container.  It ends exactly
  if the checks of all its parts end, it reports what they
  report, in their order, and then what is wrong with the
  container itself, and it accepts exactly if nothing is
  reported.

  Main declarations:
    * `Verdict.reported`
    * `Verdict.exists_ok_iff`
    * `Verdict.ofParts`
    * `Verdict.isSome_ofParts_iff`
    * `Verdict.violations_of_ofParts`
    * `Verdict.exists_ok_ofParts_iff`
    * `Graph.check_eq_ok_iff`
    * `Graph.clean_check_iff`
-/

namespace SchemaGraph

------------------------------------------------------------
-- Single Outcomes
------------------------------------------------------------

namespace Verdict

/- What a check reports; nothing, if it does not end. -/
def reported
    (outcome : Option Verdict) : List Violation :=
  (outcome.map violations).getD []

/- A check of a value accepts if it ends and reports nothing. -/
theorem exists_ok_iff
    {asked : Option Json}
    {outcome : Option Verdict}
    (hAnswers :
      ∀ verdict, outcome = some verdict → verdict.Answers asked) :
    (∃ accepted, outcome = some (.ok accepted)) ↔
      ∃ verdict, outcome = some verdict ∧ verdict.violations = [] := by
  constructor
  · rintro ⟨accepted, hOutcome⟩
    exact ⟨_, hOutcome, rfl⟩
  · rintro ⟨verdict, hOutcome, hNone⟩
    rcases (hAnswers verdict hOutcome).exists_ok hNone with
      ⟨accepted, rfl, _⟩
    exact ⟨accepted, hOutcome⟩

------------------------------------------------------------
-- Outcomes of Parts
------------------------------------------------------------

section Parts

variable {α β : Type}
variable {assemble : List β → Json}
variable {complaints : β → List Violation}
variable {own : List Violation}
variable {ask : α → Option β}
variable {parts : List α}

/-
  The verdict on a container, from the answers on its parts
  and what is wrong with the container itself.
-/
def ofParts
    (assemble : List β → Json)
    (complaints : β → List Violation)
    (own : List Violation)
    (answers : List β) : Verdict :=
  ofViolations (assemble answers) (answers.flatMap complaints ++ own)

/- All parts have an answer, or there is no list of them. -/
theorem isSome_ofParts_iff :
    ((parts.mapM ask).map (ofParts assemble complaints own)).isSome ↔
      ∀ part ∈ parts, (ask part).isSome := by
  rw [Option.isSome_map]
  constructor
  · intro hAll part hMem
    rcases Option.isSome_iff_exists.mp hAll with ⟨answers, hAnswers⟩
    rcases exists_answer_of_mapM hAnswers hMem with
      ⟨answer, _, hAnswer⟩
    exact Option.isSome_iff_exists.mpr ⟨answer, hAnswer⟩
  · intro hEach
    apply Option.isSome_iff_exists.mpr
    exact exists_mapM_eq_some (fun part hMem =>
      Option.isSome_iff_exists.mp (hEach part hMem))

/- What is said of the answers is what is said of each part. -/
theorem flatMap_of_mapM
    {answers : List β}
    (hAll : parts.mapM ask = some answers) :
    answers.flatMap complaints =
      parts.flatMap (fun part =>
        ((ask part).map complaints).getD []) := by
  have hEach := map_eq_of_mapM hAll
  calc answers.flatMap complaints
      = (answers.map some).flatMap (fun answer =>
          (answer.map complaints).getD []) := by
        rw [List.flatMap_map]
        rfl
    _ = (parts.map ask).flatMap (fun answer =>
          (answer.map complaints).getD []) := by
        rw [hEach]
    _ = parts.flatMap (fun part =>
          ((ask part).map complaints).getD []) := by
        rw [List.flatMap_map]

/- A container reports what its parts report, and its own. -/
theorem violations_of_ofParts
    {verdict : Verdict}
    (hOutcome :
      (parts.mapM ask).map (ofParts assemble complaints own) =
        some verdict) :
    verdict.violations =
      parts.flatMap (fun part => ((ask part).map complaints).getD [])
        ++ own := by
  rcases Option.map_eq_some_iff.mp hOutcome with
    ⟨answers, hAnswers, rfl⟩
  rw [ofParts, violations_ofViolations, flatMap_of_mapM hAnswers]

/- A container is accepted if there is nothing to report. -/
theorem exists_ok_ofParts_iff :
    (∃ accepted,
      (parts.mapM ask).map (ofParts assemble complaints own) =
        some (.ok accepted)) ↔
      (∀ part ∈ parts,
        ∃ answer, ask part = some answer ∧ complaints answer = []) ∧
        own = [] := by
  constructor
  · rintro ⟨accepted, hOutcome⟩
    rcases Option.map_eq_some_iff.mp hOutcome with
      ⟨answers, hAnswers, hVerdict⟩
    rw [ofParts, ofViolations_eq_ok_iff, List.append_eq_nil_iff,
      List.flatMap_eq_nil_iff] at hVerdict
    rcases hVerdict with ⟨⟨hEach, hOwn⟩, _⟩
    refine ⟨?_, hOwn⟩
    intro part hMem
    rcases exists_answer_of_mapM hAnswers hMem with
      ⟨answer, hAnswer, hAsked⟩
    exact ⟨answer, hAsked, hEach answer hAnswer⟩
  · rintro ⟨hEach, hOwn⟩
    rcases exists_mapM_eq_some (fun part hMem =>
        (hEach part hMem).imp (fun _ hAnswer => hAnswer.1)) with
      ⟨answers, hAnswers⟩
    refine ⟨some (assemble answers), ?_⟩
    rw [hAnswers, Option.map_some, Option.some.injEq, ofParts,
      ofViolations_eq_ok_iff, List.append_eq_nil_iff,
      List.flatMap_eq_nil_iff]
    refine ⟨⟨?_, hOwn⟩, rfl⟩
    intro answer hMem
    rcases exists_element_of_mapM hAnswers hMem with
      ⟨part, hPart, hAsked⟩
    rcases hEach part hPart with ⟨same, hSame, hNone⟩
    rw [hAsked] at hSame
    cases hSame
    exact hNone

end Parts

end Verdict

------------------------------------------------------------
-- Checks of Validators
------------------------------------------------------------

namespace Graph

variable {g : Graph}
variable {now : Calendar.Instant}
variable {id : ValidatorId}
variable {path : String}
variable {options : CheckOptions}

/- A given value that is accepted has an accepted value. -/
theorem check_eq_ok_iff
    {value : Json} :
    (∃ accepted,
      g.check now id (some value) path options =
        some (.ok accepted)) ↔
      ∃ kept,
        g.check now id (some value) path options =
          some (Verdict.accept kept) := by
  constructor
  · rintro ⟨accepted, hCheck⟩
    rcases (check_answers g now _ _ _ _ _ hCheck).exists_some with
      ⟨kept, rfl⟩
    exact ⟨kept, hCheck⟩
  · rintro ⟨kept, hCheck⟩
    exact ⟨_, hCheck⟩

/- A check of a given value is clean if the value is accepted. -/
theorem clean_check_iff
    {value : Json} :
    (∃ verdict,
      g.check now id (some value) path options = some verdict ∧
        verdict.violations = []) ↔
      ∃ kept,
        g.check now id (some value) path options =
          some (Verdict.accept kept) :=
  (Verdict.exists_ok_iff (check_answers g now _ _ _ _)).symm.trans
    check_eq_ok_iff

end Graph

end SchemaGraph
