import Mathlib
import SchemaGraph.Proofs.Check.Budget
import SchemaGraph.Proofs.Graph.Deferral

/-
  What checks make of deferred validators and of changed
  copies.

  A deferred validator judges a present value as the content
  of its cell does.  A validator that only leads back to an
  empty cell accepts every present value.  A copy that
  accepts `null` or has another presence judges all other
  present values as the original does.

  Main declarations:
    * `Graph.SameOnPresent`
    * `Graph.check_deferred`
    * `Graph.check_leadsBack`
    * `Graph.check_orNull`
    * `Graph.check_marked`
    * `Graph.check_none`
-/

namespace SchemaGraph

namespace Graph

/- Two validators judge all present values alike. -/
def SameOnPresent
    (g : Graph)
    (id other : ValidatorId) : Prop :=
  ∀ now value path options,
    g.check now id (some value) path options =
      g.check now other (some value) path options

/- Every validator judges as it does itself. -/
theorem SameOnPresent.refl
    (g : Graph)
    (id : ValidatorId) :
    g.SameOnPresent id id :=
  fun _ _ _ _ => rfl

variable {g : Graph}
variable {id : ValidatorId}

------------------------------------------------------------
-- Steps of a Check
------------------------------------------------------------

/- The validator is in the graph and does not forbid values. -/
def Permits
    (g : Graph)
    (id : ValidatorId) : Prop :=
  ∃ v, g.node? id = some v ∧ v.presence ≠ .forbidden

/- A permitting validator judges a present value by its rule. -/
theorem checkNode_of_permits
    {v : Validator}
    {value : Json}
    (hNode : g.node? id = some v)
    (hPresence : v.presence ≠ .forbidden)
    (hNull : value ≠ .null ∨ v.allowNull = false)
    (now : Calendar.Instant)
    (inner : Checker)
    (path : String)
    (options : CheckOptions) :
    g.checkNode now inner id (some value) path options =
      g.checkRule now inner v.rule value path options := by
  unfold checkNode
  simp only [hNode, hPresence, if_false]
  rcases v with ⟨rule, presence, allowNull⟩
  cases value <;> cases allowNull <;> simp_all

/- A validator that allows `null` accepts it. -/
theorem checkNode_null
    {v : Validator}
    (hNode : g.node? id = some v)
    (hPresence : v.presence ≠ .forbidden)
    (hNull : v.allowNull = true)
    (now : Calendar.Instant)
    (inner : Checker)
    (path : String)
    (options : CheckOptions) :
    g.checkNode now inner id (some .null) path options =
      some (Verdict.accept .null) := by
  unfold checkNode
  simp only [hNode, hPresence, if_false]
  rcases v with ⟨rule, presence, allowNull⟩
  cases hNull
  rfl

/- A forbidding validator refuses every present value. -/
theorem checkNode_of_forbidden
    {v : Validator}
    (hNode : g.node? id = some v)
    (hPresence : v.presence = .forbidden)
    (now : Calendar.Instant)
    (inner : Checker)
    (value : Json)
    (path : String)
    (options : CheckOptions) :
    g.checkNode now inner id (some value) path options =
      some (Verdict.refuse path .forbidden) := by
  unfold checkNode
  simp only [hNode, hPresence, if_true]

/- An absent value is refused by required validators only. -/
theorem check_none
    {v : Validator}
    (hNode : g.node? id = some v)
    (now : Calendar.Instant)
    (path : String)
    (options : CheckOptions) :
    g.check now id none path options =
      if v.presence = .required then
        some (Verdict.refuse path .required)
      else
        some (.ok none) := by
  simp only [check, checkBudget, checkWithin, checkNode, hNode]

/- A check of a present value is one step with a smaller budget. -/
theorem check_some
    (g : Graph)
    (now : Calendar.Instant)
    (id : ValidatorId)
    (value : Json)
    (path : String)
    (options : CheckOptions) :
    g.check now id (some value) path options =
      g.checkNode now
        (g.checkWithin now ((value.depth + 1) * (2 * g.size)))
        id (some value) path options := rfl

------------------------------------------------------------
-- Deferred Validators
------------------------------------------------------------

/-
  A deferred validator judges a present value as the content
  of its cell does.
-/
theorem check_deferred
    {c : CellId}
    {presence : Presence}
    {target : ValidatorId}
    (hNode : g.node? id = some ⟨.deferred c, presence, false⟩)
    (hPresence : presence ≠ .forbidden)
    (hCell : g.cell? c = some target) :
    g.SameOnPresent id target := by
  intro now value path options
  have hStep :
      ∀ inner,
        g.checkNode now inner id (some value) path options =
          inner target (some value) path options := by
    intro inner
    rw [checkNode_of_permits hNode hPresence (Or.inr rfl)]
    simp only [checkRule, hCell]
  apply check_congr
  · intro budget verdict hCheck
    cases budget with
    | zero => cases hCheck
    | succ budget =>
        rw [checkWithin, hStep] at hCheck
        exact ⟨budget, hCheck⟩
  · intro budget verdict hCheck
    exact ⟨budget + 1, by rw [checkWithin, hStep]; exact hCheck⟩

/-
  A validator that only leads back to an empty cell accepts
  every present value.
-/
theorem check_leadsBack
    {c : CellId}
    (hLeads : g.LeadsBack id c)
    (hEmpty : g.cell? c = none)
    (hPermits :
      ∀ next, Relation.ReflTransGen g.Forwards id next →
        g.Permits next)
    (now : Calendar.Instant)
    (value : Json)
    (path : String)
    (options : CheckOptions) :
    g.check now id (some value) path options =
      some (Verdict.accept value) := by
  rw [check_eq_some_iff]
  rcases hLeads with ⟨last, hPath, hLast⟩
  induction hPath using Relation.ReflTransGen.head_induction_on with
  | refl =>
      rcases hPermits last Relation.ReflTransGen.refl with
        ⟨v, hNode, hPresence⟩
      have hRule : v.rule = .deferred c := by
        rcases deferredCell?_eq_some_iff.mp hLast with
          ⟨w, hOther, hRule⟩
        rw [hNode] at hOther
        cases hOther
        exact hRule
      refine ⟨1, ?_⟩
      rw [checkWithin]
      by_cases hNull : value ≠ .null ∨ v.allowNull = false
      · rw [checkNode_of_permits hNode hPresence hNull, hRule]
        simp only [checkRule, hEmpty]
      · push Not at hNull
        rw [hNull.1]
        exact checkNode_null hNode hPresence
          (by simpa using hNull.2) _ _ _ _
  | @head here next hStep hRest ih =>
      rcases ih (fun other hOther =>
          hPermits other (Relation.ReflTransGen.head hStep hOther))
        with ⟨budget, hCheck⟩
      rcases hPermits here Relation.ReflTransGen.refl with
        ⟨v, hNode, hPresence⟩
      rcases hStep with ⟨own, hOwn, hCell⟩
      have hRule : v.rule = .deferred own := by
        rcases deferredCell?_eq_some_iff.mp hOwn with
          ⟨w, hOther, hRule⟩
        rw [hNode] at hOther
        cases hOther
        exact hRule
      refine ⟨budget + 1, ?_⟩
      rw [checkWithin]
      by_cases hNull : value ≠ .null ∨ v.allowNull = false
      · rw [checkNode_of_permits hNode hPresence hNull, hRule]
        simp only [checkRule, hCell]
        exact hCheck
      · push Not at hNull
        rw [hNull.1]
        exact checkNode_null hNode hPresence
          (by simpa using hNull.2) _ _ _ _

------------------------------------------------------------
-- Changed Copies
------------------------------------------------------------

/-
  A copy that accepts `null` judges every other present
  value as the original does.
-/
theorem check_orNull
    {wanted : Bool}
    {copy : ValidatorId}
    {value : Json}
    (hCopy : g.Derives (Validator.orNull wanted) id copy)
    (hPermits : g.Permits id)
    (hOther : value ≠ .null ∨ wanted = false)
    (now : Calendar.Instant)
    (path : String)
    (options : CheckOptions) :
    g.check now copy (some value) path options =
      g.check now id (some value) path options := by
  rcases hCopy with ⟨v, hNode, hChanged⟩
  rcases hPermits with ⟨w, hSame, hPresence⟩
  rw [hNode] at hSame
  cases hSame
  rw [check_some, check_some]
  rcases hOther with hValue | rfl
  · rw [checkNode_of_permits hNode hPresence (Or.inl hValue),
      checkNode_of_permits hChanged hPresence (Or.inl hValue)]
    rfl
  · rw [Validator.orNull_false] at hChanged
    unfold checkNode
    rw [hNode, hChanged]

/- A copy that is to accept `null` accepts it. -/
theorem check_orNull_null
    {copy : ValidatorId}
    (hCopy : g.Derives (Validator.orNull true) id copy)
    (hPermits : g.Permits id)
    (now : Calendar.Instant)
    (path : String)
    (options : CheckOptions) :
    g.check now copy (some .null) path options =
      some (Verdict.accept .null) := by
  rcases hCopy with ⟨v, hNode, hChanged⟩
  rcases hPermits with ⟨w, hSame, hPresence⟩
  rw [hNode] at hSame
  cases hSame
  rw [check_some]
  exact checkNode_null hChanged hPresence
    (by simp [Validator.orNull]) _ _ _ _

/-
  A copy with another presence judges present values as the
  original does, unless the presence forbids them.
-/
theorem check_marked
    {mark : Option Presence}
    {copy : ValidatorId}
    (hCopy : g.Derives (Validator.marked mark) id copy)
    (hPermits : g.Permits id)
    (now : Calendar.Instant)
    (value : Json)
    (path : String)
    (options : CheckOptions) :
    g.check now copy (some value) path options =
      if mark = some .forbidden then
        some (Verdict.refuse path .forbidden)
      else
        g.check now id (some value) path options := by
  rcases hCopy with ⟨v, hNode, hChanged⟩
  rcases hPermits with ⟨w, hSame, hPresence⟩
  rw [hNode] at hSame
  cases hSame
  rw [check_some, check_some]
  by_cases hMark : mark = some .forbidden
  · rw [if_pos hMark]
    exact checkNode_of_forbidden hChanged
      (by simp [Validator.marked, hMark]) _ _ _ _ _
  · rw [if_neg hMark]
    have hMarked : (v.marked mark).presence ≠ .forbidden := by
      cases mark with
      | none => exact hPresence
      | some p =>
          intro hForbidden
          exact hMark (congrArg some hForbidden)
    by_cases hNull : value ≠ .null ∨ v.allowNull = false
    · rw [checkNode_of_permits hNode hPresence hNull,
        checkNode_of_permits hChanged hMarked hNull]
      rfl
    · push Not at hNull
      have hAllow : v.allowNull = true := by simpa using hNull.2
      rw [hNull.1, checkNode_null hNode hPresence hAllow,
        checkNode_null hChanged hMarked hAllow]

end Graph

end SchemaGraph
