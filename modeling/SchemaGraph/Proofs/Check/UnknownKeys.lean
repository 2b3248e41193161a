import Mathlib
import SchemaGraph.Proofs.Check.Reports

/-
  Where complaints about unknown keys come from when unknown
  keys are to be dropped.  The rules of the graph itself make
  none, and the wish to drop keys reaches every validator
  that a check asks, but it does not reach custom types.  So
  what is left are the violations that custom types report.

  Main declarations:
    * `Violation.NoneUnknown`
    * `Graph.Asks`
    * `Graph.TypeReports`
    * `Graph.Traces`
    * `Graph.checkNode_traces`
    * `Graph.checkWithin_traces`
    * `Graph.typeReports_of_check`
    * `Graph.check_all_options`
-/

namespace SchemaGraph

------------------------------------------------------------
-- Complaints about Unknown Keys
------------------------------------------------------------

/- The violation has the code of a complaint about an unknown key. -/
def Violation.NamesKey
    (v : Violation) : Prop :=
  v.code = Complaint.unknownKey.code

/- No violation is about an unknown key. -/
def Violation.NoneUnknown
    (vs : List Violation) : Prop :=
  ∀ v ∈ vs, ¬ v.NamesKey

namespace Violation

/- Only one complaint has the code. -/
theorem namesKey_of_iff
    {path : String}
    {c : Complaint} :
    (Violation.of path c).NamesKey ↔ c = .unknownKey := by
  unfold NamesKey
  cases c <;> simp [Violation.of, Complaint.code]

/- Without violations there is none about an unknown key. -/
@[simp] theorem noneUnknown_nil : NoneUnknown [] := by
  simp [NoneUnknown]

end Violation

open Violation

namespace Graph

variable {g : Graph}
variable {now : Calendar.Instant}
variable {inner : Checker}
variable {value : Json}
variable {path : String}
variable {verdict : Verdict}
variable {v : Violation}
variable {id : ValidatorId}

------------------------------------------------------------
-- What a Check Asks
------------------------------------------------------------

/-
  The check at a place may ask for the check at another one:
  a validator that its own one mentions, for the same value,
  the value of a member, or an item.
-/
inductive Asks
    (g : Graph) : Place → Place → Prop where
  | value
      (id other : ValidatorId)
      (value : Json)
      (path : String)
      (hMentions : g.Mentions id other) :
      Asks g ⟨id, value, path⟩ ⟨other, value, path⟩
  | member
      (id other : ValidatorId)
      (members : List (String × Json))
      (name path : String)
      (x : Json)
      (hMentions : g.Mentions id other)
      (hMember : (name, x) ∈ members) :
      Asks g ⟨id, .object members, path⟩
        ⟨other, x, Violation.memberPath path name⟩
  | item
      (id other : ValidatorId)
      (items : List Json)
      (i : Nat)
      (path : String)
      (x : Json)
      (hMentions : g.Mentions id other)
      (hItem : items[i]? = some x) :
      Asks g ⟨id, .array items, path⟩
        ⟨other, x, Violation.itemPath path i⟩

/-
  A custom type reports the violation, at a place that the
  check of the first one asks for.
-/
def TypeReports
    (g : Graph)
    (now : Calendar.Instant)
    (start : Place)
    (v : Violation) : Prop :=
  ∃ place type vs,
    Relation.ReflTransGen g.Asks start place ∧
      g.Judges place.id place.value (.custom type) ∧
      type.check now place.value place.path = some vs ∧
      v ∈ vs

/- What is reported where a check goes is reported by it. -/
theorem TypeReports.of_asks
    {start next : Place}
    (hReports : g.TypeReports now next v)
    (hAsks : g.Asks start next) :
    g.TypeReports now start v := by
  rcases hReports with ⟨place, type, vs, hPath, hFound⟩
  exact ⟨place, type, vs, Relation.ReflTransGen.head hAsks hPath,
    hFound⟩

/-
  With unknown keys dropped, each violation of a checker that
  is about an unknown key is one that a custom type reports.
-/
def Traces
    (g : Graph)
    (now : Calendar.Instant)
    (inner : Checker) : Prop :=
  ∀ id asked path verdict v,
    inner id asked path ⟨true⟩ = some verdict →
      v ∈ verdict.violations →
        v.NamesKey →
          ∃ value,
            asked = some value ∧
              g.TypeReports now ⟨id, value, path⟩ v

------------------------------------------------------------
-- Checks
------------------------------------------------------------

/- A checker that traces, asked for a given value. -/
theorem Traces.of_some
    {asked : Json}
    (hInner : g.Traces now inner)
    (hVerdict : inner id (some asked) path ⟨true⟩ = some verdict)
    (hMem : v ∈ verdict.violations)
    (hKey : v.NamesKey) :
    g.TypeReports now ⟨id, asked, path⟩ v := by
  rcases hInner _ _ _ _ v hVerdict hMem hKey with
    ⟨value, hSame, hReports⟩
  cases hSame
  exact hReports

/-
  A validator reports no unknown key that is to be dropped,
  and asks others with unknown keys to be dropped, too.
-/
theorem checkNode_traces
    (hInner : g.Traces now inner) :
    g.Traces now (g.checkNode now inner) := by
  intro id asked path verdict v hCheck hMem hKey
  cases asked with
  | none =>
      rw [checkNode_absent hCheck hMem] at hKey
      cases namesKey_of_iff.mp hKey
  | some value =>
      refine ⟨value, rfl, ?_⟩
      cases checkNode_reports hCheck hMem with
      | complaint c hAbout =>
          exact absurd (namesKey_of_iff.mp hKey) hAbout.2
      | repeated items i c _ _ hAbout =>
          exact absurd (namesKey_of_iff.mp hKey) hAbout.2
      | unknownKey members name x _ _ hKept => cases hKept
      | custom type vs _ hJudges hVs hIn =>
          exact ⟨_, type, vs, Relation.ReflTransGen.refl, hJudges,
            hVs, hIn⟩
      | same other chosen verdict _ hMentions hChosen hVerdict hIn =>
          have hStrip : chosen = ⟨true⟩ := by
            rw [← hChosen rfl]
          rw [hStrip] at hVerdict
          exact (hInner.of_some hVerdict hIn hKey).of_asks
            (.value id other value path hMentions)
      | declared members name other verdict _ hValue hMentions
          hVerdict hIn =>
          subst hValue
          rcases hInner _ _ _ _ v hVerdict hIn hKey with
            ⟨x, hGiven, hReports⟩
          exact hReports.of_asks
            (.member id other members name path x hMentions
              (mem_of_lookup_eq_some hGiven))
      | undeclared members name x other verdict _ hValue hMember
          hMentions hVerdict hIn =>
          subst hValue
          exact (hInner.of_some hVerdict hIn hKey).of_asks
            (.member id other members name path x hMentions hMember)
      | item items i x other verdict _ hValue hItem hMentions
          hVerdict hIn =>
          subst hValue
          exact (hInner.of_some hVerdict hIn hKey).of_asks
            (.item id other items i path x hMentions hItem)

/- So does what is said about them within a budget. -/
theorem checkWithin_traces
    (g : Graph)
    (now : Calendar.Instant)
    (budget : Nat) :
    g.Traces now (g.checkWithin now budget) := by
  induction budget with
  | zero =>
      intro id asked path verdict v hCheck
      cases hCheck
  | succ budget ih => exact checkNode_traces ih

/-
  With unknown keys dropped, a check reports none itself:
  custom types do.
-/
theorem typeReports_of_check
    (hCheck :
      g.check now id (some value) path ⟨true⟩ = some verdict)
    (hMem : v ∈ verdict.violations)
    (hKey : v.NamesKey) :
    g.TypeReports now ⟨id, value, path⟩ v :=
  (checkWithin_traces g now _).of_some hCheck hMem hKey

/- An intersection does not look at the options. -/
theorem check_all_options
    {branches : List Branch}
    (hJudges : g.Judges id value (.all branches))
    (options other : CheckOptions) :
    g.check now id (some value) path options =
      g.check now id (some value) path other := by
  rcases hJudges with ⟨validator, hNode, hRule, hPresence, hNull⟩
  rw [check_some, check_some,
    checkNode_of_permits hNode hPresence hNull,
    checkNode_of_permits hNode hPresence hNull, hRule]
  rfl

end Graph

end SchemaGraph
