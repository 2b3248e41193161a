import Mathlib
import SchemaGraph.Check
import SchemaGraph.Proofs.Json.Members

/-
  The budget of a check is large enough: a check that ends
  with any budget ends with the budget that `Graph.check`
  gives it, and with the same verdict.

  A check of a value asks for checks of the value itself, of
  absent values and of values inside it.  On one value only
  the validator and the stripping can change, so the checks
  that end on it stop growing after twice as many steps as
  there are validators.

  Main declarations:
    * `Inside`
    * `Graph.checkNode_transfer`
    * `Graph.checkWithin_mono`
    * `Graph.checkWithin_checkBudget`
    * `Graph.check_eq_some_iff`
-/

namespace SchemaGraph

------------------------------------------------------------
-- Verdicts in Lists
------------------------------------------------------------

/- A list of answers stays when every answer stays. -/
theorem mapM_eq_some_of_forall
    {α β : Type}
    {f f' : α → Option β}
    {xs : List α}
    {ys : List β}
    (hAll : xs.mapM f = some ys)
    (hEach :
      ∀ x ∈ xs, ∀ y, f x = some y → f' x = some y) :
    xs.mapM f' = some ys := by
  induction xs generalizing ys with
  | nil => simpa using hAll
  | cons x rest ih =>
      simp only [List.mapM_cons, Option.bind_eq_bind,
        Option.bind_eq_some_iff, Option.pure_def,
        Option.some.injEq] at hAll
      rcases hAll with ⟨y, hy, zs, hzs, rfl⟩
      have hTail : rest.mapM f' = some zs :=
        ih hzs (fun x' hx' =>
          hEach x' (List.mem_cons_of_mem x hx'))
      simp [hEach x List.mem_cons_self y hy, hTail]

/- Asking for the same answers in a list. -/
theorem mapM_congr
    {α β : Type}
    {f f' : α → Option β}
    {xs : List α}
    (hEach : ∀ x ∈ xs, f x = f' x) :
    xs.mapM f = xs.mapM f' := by
  induction xs with
  | nil => rfl
  | cons x rest ih =>
      have hRest := ih (fun y hMem =>
        hEach y (List.mem_cons_of_mem x hMem))
      simp only [List.mapM_cons, hEach x List.mem_cons_self, hRest]

/- A list whose answers are known. -/
theorem mapM_eq_some_map
    {α β : Type}
    {f : α → Option β}
    {answer : α → β}
    {xs : List α}
    (hEach : ∀ x ∈ xs, f x = some (answer x)) :
    xs.mapM f = some (xs.map answer) := by
  induction xs with
  | nil => rfl
  | cons x rest ih =>
      have hRest := ih (fun y hMem =>
        hEach y (List.mem_cons_of_mem x hMem))
      simp [List.mapM_cons, hEach x List.mem_cons_self, hRest]

/- The answers in a list, one by one. -/
theorem map_eq_of_mapM
    {α β : Type}
    {f : α → Option β}
    {xs : List α}
    {ys : List β}
    (hAll : xs.mapM f = some ys) :
    xs.map f = ys.map some := by
  induction xs generalizing ys with
  | nil =>
      cases hAll
      rfl
  | cons x rest ih =>
      simp only [List.mapM_cons, Option.bind_eq_bind,
        Option.bind_eq_some_iff, Option.pure_def,
        Option.some.injEq] at hAll
      rcases hAll with ⟨y, hy, zs, hzs, rfl⟩
      rw [List.map_cons, List.map_cons, hy, ih hzs]

/- Every element of a list has an answer. -/
theorem exists_answer_of_mapM
    {α β : Type}
    {f : α → Option β}
    {xs : List α}
    {ys : List β}
    {x : α}
    (hAll : xs.mapM f = some ys)
    (hMem : x ∈ xs) :
    ∃ y ∈ ys, f x = some y := by
  have hAnswer : f x ∈ ys.map some := by
    rw [← map_eq_of_mapM hAll]
    exact List.mem_map_of_mem hMem
  rcases List.mem_map.mp hAnswer with ⟨y, hy, hSame⟩
  exact ⟨y, hy, hSame.symm⟩

/- Every answer is that of an element of the list. -/
theorem exists_element_of_mapM
    {α β : Type}
    {f : α → Option β}
    {xs : List α}
    {ys : List β}
    {y : β}
    (hAll : xs.mapM f = some ys)
    (hMem : y ∈ ys) :
    ∃ x ∈ xs, f x = some y := by
  have hAnswer : some y ∈ xs.map f := by
    rw [map_eq_of_mapM hAll]
    exact List.mem_map_of_mem hMem
  exact List.mem_map.mp hAnswer

------------------------------------------------------------
-- Values inside a Value
------------------------------------------------------------

namespace Json

/- An item is less deep than its array. -/
theorem depth_lt_of_mem_items
    {items : List Json}
    {x : Json}
    (hMem : x ∈ items) :
    x.depth < (array items).depth := by
  have hLe : x.depth ≤ depthItems items := by
    induction items with
    | nil => cases hMem
    | cons y rest ih =>
        simp only [depthItems]
        rcases List.mem_cons.mp hMem with rfl | hRest
        · exact Nat.le_max_left _ _
        · exact Nat.le_trans (ih hRest) (Nat.le_max_right _ _)
  simpa [depth] using Nat.lt_succ_of_le hLe

/- A member's value is less deep than its object. -/
theorem depth_lt_of_mem_members
    {members : List (String × Json)}
    {name : String}
    {x : Json}
    (hMem : (name, x) ∈ members) :
    x.depth < (object members).depth := by
  have hLe : x.depth ≤ depthMembers members := by
    induction members with
    | nil => cases hMem
    | cons m rest ih =>
        rcases m with ⟨other, y⟩
        simp only [depthMembers]
        rcases List.mem_cons.mp hMem with hHead | hRest
        · cases hHead
          exact Nat.le_max_left _ _
        · exact Nat.le_trans (ih hRest) (Nat.le_max_right _ _)
  simpa [depth] using Nat.lt_succ_of_le hLe

end Json

/-
  What a check of a value at a path may ask for: an absent
  value anywhere, the value itself at its path, or a value
  that is less deep.
-/
def Inside
    (value : Json)
    (path : String) : Option Json → String → Prop
  | none, _ => True
  | some inner, place =>
      (inner = value ∧ place = path) ∨ inner.depth < value.depth

------------------------------------------------------------
-- Transfer between Checkers
------------------------------------------------------------

/-
  On everything that a check of the value may ask for, the
  verdicts of one checker are verdicts of the other.
-/
def Carries
    (inner outer : Checker)
    (value : Json)
    (path : String) : Prop :=
  ∀ id asked place options verdict,
    Inside value path asked place →
      inner id asked place options = some verdict →
        outer id asked place options = some verdict

namespace Graph

variable {inner outer : Checker}
variable {value : Json}
variable {path : String}
variable {options : CheckOptions}

/- Verdicts on objects carry over. -/
theorem checkObject_transfer
    {rule : ObjectRule}
    {verdict : Verdict}
    (hCarries : Carries inner outer value path)
    (hCheck :
      checkObject inner rule value path options =
        some verdict) :
    checkObject outer rule value path options =
      some verdict := by
  cases value with
  | object members =>
      simp only [checkObject, Option.bind_eq_bind,
        Option.bind_eq_some_iff] at hCheck ⊢
      rcases hCheck with
        ⟨declared, hDeclared, unknown, hUnknown, hVerdict⟩
      refine ⟨declared, ?_, unknown, ?_, hVerdict⟩
      · apply mapM_eq_some_of_forall hDeclared
        rintro ⟨name, id⟩ _ entry hEntry
        simp only [Option.map_eq_some_iff] at hEntry ⊢
        rcases hEntry with ⟨found, hFound, rfl⟩
        refine ⟨found, hCarries _ _ _ _ _ ?_ hFound, rfl⟩
        cases hMember : members.lookup name with
        | none => trivial
        | some x =>
            exact Or.inr (Json.depth_lt_of_mem_members
              (mem_of_lookup_eq_some hMember))
      · apply mapM_eq_some_of_forall hUnknown
        rintro ⟨name, x⟩ hMem entry hEntry
        simp only [Option.map_eq_some_iff] at hEntry ⊢
        rcases hEntry with ⟨found, hFound, rfl⟩
        refine ⟨found, ?_, rfl⟩
        have hInside :
            Inside (.object members) path (some x)
              (Violation.memberPath path name) :=
          Or.inr (Json.depth_lt_of_mem_members
            (List.mem_of_mem_filter hMem))
        unfold unknownVerdict at hFound ⊢
        cases hPolicy : rule.unknown with
        | schema id =>
            simp only [hPolicy] at hFound
            exact hCarries _ _ _ _ _ hInside hFound
        | reject => simpa [hPolicy] using hFound
        | ignore => simpa [hPolicy] using hFound
        | allow => simpa [hPolicy] using hFound
  | null => exact hCheck
  | bool b => exact hCheck
  | number n => exact hCheck
  | string s => exact hCheck
  | array xs => exact hCheck

/- Verdicts on arrays carry over. -/
theorem checkArray_transfer
    {rule : ArrayRule}
    {verdict : Verdict}
    (hCarries : Carries inner outer value path)
    (hCheck :
      checkArray inner rule value path options =
        some verdict) :
    checkArray outer rule value path options =
      some verdict := by
  cases value with
  | array items =>
      simp only [checkArray, Option.bind_eq_bind,
        Option.bind_eq_some_iff] at hCheck ⊢
      rcases hCheck with ⟨verdicts, hItems, hVerdict⟩
      refine ⟨verdicts, ?_, hVerdict⟩
      apply mapM_eq_some_of_forall hItems
      rintro ⟨x, i⟩ hMem found hFound
      have hItem : x ∈ items := by
        have hGet := (List.mk_mem_zipIdx_iff_getElem?).mp hMem
        exact List.mem_of_getElem? hGet
      unfold itemVerdict at hFound ⊢
      cases hRule : rule.items with
      | none => simpa [hRule] using hFound
      | some id =>
          simp only [hRule] at hFound
          exact hCarries _ _ _ _ _
            (Or.inr (Json.depth_lt_of_mem_items hItem)) hFound
  | null => exact hCheck
  | bool b => exact hCheck
  | number n => exact hCheck
  | string s => exact hCheck
  | object members => exact hCheck

/- Verdicts on alternatives carry over. -/
theorem checkAlternatives_transfer
    {branches : List ValidatorId}
    {verdict : Verdict}
    (hCarries : Carries inner outer value path)
    (hCheck :
      checkAlternatives inner value path options branches =
        some verdict) :
    checkAlternatives outer value path options branches =
      some verdict := by
  induction branches with
  | nil => exact hCheck
  | cons id rest ih =>
      have hSelf : Inside value path (some value) path :=
        Or.inl ⟨rfl, rfl⟩
      simp only [checkAlternatives] at hCheck ⊢
      cases hInner : inner id (some value) path options with
      | none => simp [hInner] at hCheck
      | some found =>
          rw [hCarries _ _ _ _ _ hSelf hInner]
          cases found with
          | ok accepted => simpa [hInner] using hCheck
          | error vs =>
              simp only [hInner] at hCheck
              exact ih hCheck

/- Violations of a part of an intersection carry over. -/
theorem branchViolations_transfer
    {branch : Branch}
    {vs : List Violation}
    (hCarries : Carries inner outer value path)
    (hCheck :
      branchViolations inner value path options branch =
        some vs) :
    branchViolations outer value path options branch =
      some vs := by
  have hSelf : Inside value path (some value) path :=
    Or.inl ⟨rfl, rfl⟩
  unfold branchViolations at hCheck ⊢
  simp only [Option.bind_eq_bind,
    Option.bind_eq_some_iff] at hCheck ⊢
  rcases hCheck with ⟨chosen, hChosen, hRest⟩
  refine ⟨chosen, ?_, ?_⟩
  · cases branch with
    | schema id => exact hChosen
    | conditional test pass fail =>
        simp only [effective, Option.map_eq_some_iff]
          at hChosen ⊢
        rcases hChosen with ⟨found, hFound, hSide⟩
        exact
          ⟨found, hCarries _ _ _ _ _ hSelf hFound, hSide⟩
  · cases chosen with
    | none => exact hRest
    | some id =>
        simp only [Option.bind_eq_some_iff] at hRest ⊢
        rcases hRest with ⟨found, hFound, hVs⟩
        exact
          ⟨found, hCarries _ _ _ _ _ hSelf hFound, hVs⟩

/- Verdicts on intersections carry over. -/
theorem checkAll_transfer
    {branches : List Branch}
    {verdict : Verdict}
    (hCarries : Carries inner outer value path)
    (hCheck :
      checkAll inner branches value path = some verdict) :
    checkAll outer branches value path = some verdict := by
  simp only [checkAll, Option.bind_eq_bind,
    Option.bind_eq_some_iff] at hCheck ⊢
  rcases hCheck with ⟨vs, hVs, hVerdict⟩
  refine ⟨vs, ?_, hVerdict⟩
  apply mapM_eq_some_of_forall hVs
  intro branch _ found hFound
  exact branchViolations_transfer hCarries hFound

variable {g : Graph}
variable {now : Calendar.Instant}

/- Verdicts of rules carry over. -/
theorem checkRule_transfer
    {rule : Rule}
    {verdict : Verdict}
    (hCarries : Carries inner outer value path)
    (hCheck :
      g.checkRule now inner rule value path options =
        some verdict) :
    g.checkRule now outer rule value path options =
      some verdict := by
  cases rule with
  | object rule => exact checkObject_transfer hCarries hCheck
  | array rule => exact checkArray_transfer hCarries hCheck
  | alternatives branches =>
      exact checkAlternatives_transfer hCarries hCheck
  | all branches => exact checkAll_transfer hCarries hCheck
  | deferred c =>
      simp only [checkRule] at hCheck ⊢
      cases hCell : g.cell? c with
      | none => simpa [hCell] using hCheck
      | some target =>
          simp only [hCell] at hCheck
          exact hCarries _ _ _ _ _ (Or.inl ⟨rfl, rfl⟩) hCheck
  | any => exact hCheck
  | boolean => exact hCheck
  | number rule => exact hCheck
  | string rule => exact hCheck
  | email rule => exact hCheck
  | date rule => exact hCheck
  | time rule => exact hCheck
  | literal allowed => exact hCheck
  | custom type => exact hCheck

/- Verdicts of validators carry over. -/
theorem checkNode_transfer
    {id : ValidatorId}
    {verdict : Verdict}
    (hCarries : Carries inner outer value path)
    (hCheck :
      g.checkNode now inner id (some value) path options =
        some verdict) :
    g.checkNode now outer id (some value) path options =
      some verdict := by
  unfold checkNode at hCheck ⊢
  cases hNode : g.node? id with
  | none => simp [hNode] at hCheck
  | some v =>
      simp only [hNode] at hCheck ⊢
      by_cases hForbidden : v.presence = .forbidden
      · simpa [hForbidden] using hCheck
      · simp only [hForbidden, if_false] at hCheck ⊢
        split at hCheck
        · exact hCheck
        · exact checkRule_transfer hCarries hCheck

/- Absent values are judged without asking further. -/
theorem checkNode_none
    (g : Graph)
    (now : Calendar.Instant)
    (inner outer : Checker)
    (id : ValidatorId)
    (path : String)
    (options : CheckOptions) :
    g.checkNode now inner id none path options =
      g.checkNode now outer id none path options := by
  unfold checkNode
  cases g.node? id <;> rfl

------------------------------------------------------------
-- Larger Budgets
------------------------------------------------------------

/- One more step keeps every verdict. -/
theorem checkWithin_succ
    {budget : Nat}
    {id : ValidatorId}
    {asked : Option Json}
    {verdict : Verdict}
    (hCheck :
      g.checkWithin now budget id asked path options =
        some verdict) :
    g.checkWithin now (budget + 1) id asked path options =
      some verdict := by
  induction budget generalizing id asked path options verdict with
  | zero => cases hCheck
  | succ budget ih =>
      simp only [checkWithin] at hCheck
      rw [checkWithin]
      cases asked with
      | none =>
          rw [checkNode_none g now _ (g.checkWithin now budget)]
          exact hCheck
      | some value =>
          apply checkNode_transfer _ hCheck
          intro id asked place options verdict _ hInner
          exact ih hInner

/- A larger budget keeps every verdict. -/
theorem checkWithin_mono
    {budget more : Nat}
    {id : ValidatorId}
    {asked : Option Json}
    {verdict : Verdict}
    (hCheck :
      g.checkWithin now budget id asked path options =
        some verdict)
    (hMore : budget ≤ more) :
    g.checkWithin now more id asked path options =
      some verdict := by
  induction more, hMore using Nat.le_induction with
  | base => exact hCheck
  | succ more _ ih => exact checkWithin_succ ih

/- Two budgets that both end give the same verdict. -/
theorem checkWithin_unique
    {budget more : Nat}
    {id : ValidatorId}
    {asked : Option Json}
    {verdict other : Verdict}
    (hCheck :
      g.checkWithin now budget id asked path options =
        some verdict)
    (hOther :
      g.checkWithin now more id asked path options =
        some other) :
    verdict = other := by
  have hLeft := checkWithin_mono hCheck
    (Nat.le_max_left budget more)
  have hRight := checkWithin_mono hOther
    (Nat.le_max_right budget more)
  exact Option.some.inj (hLeft.symm.trans hRight)

/- A verdict comes from a validator of the graph. -/
theorem index_lt_of_checkWithin
    {budget : Nat}
    {id : ValidatorId}
    {asked : Option Json}
    {verdict : Verdict}
    (hCheck :
      g.checkWithin now budget id asked path options =
        some verdict) :
    id.index < g.size := by
  cases budget with
  | zero => cases hCheck
  | succ budget =>
      rw [checkWithin, checkNode] at hCheck
      cases hNode : g.node? id with
      | none => simp [hNode] at hCheck
      | some v =>
          rw [node?] at hNode
          exact (Array.getElem?_eq_some_iff.mp hNode).1

------------------------------------------------------------
-- Enough Budget
------------------------------------------------------------

/-
  The validators, with stripping or without, that have a
  verdict on a value within a budget.
-/
def settled
    (g : Graph)
    (now : Calendar.Instant)
    (value : Json)
    (path : String)
    (budget : Nat) : Finset (Fin g.size × Bool) :=
  Finset.univ.filter (fun s =>
    (g.checkWithin now budget ⟨s.1⟩ (some value) path
      ⟨s.2⟩).isSome)

/- A validator is settled by any budget that ends. -/
theorem mem_settled_of_checkWithin
    {budget : Nat}
    {id : ValidatorId}
    {verdict : Verdict}
    (hCheck :
      g.checkWithin now budget id (some value) path options =
        some verdict) :
    (⟨id.index, index_lt_of_checkWithin hCheck⟩,
      options.stripUnknown) ∈
        g.settled now value path budget := by
  simp [settled, hCheck]

/- A settled validator has a verdict. -/
theorem exists_of_mem_settled
    {budget : Nat}
    (id : ValidatorId)
    (options : CheckOptions)
    {hId : id.index < g.size}
    (hMem :
      (⟨id.index, hId⟩, options.stripUnknown) ∈
        g.settled now value path budget) :
    ∃ verdict,
      g.checkWithin now budget id (some value) path options =
        some verdict := by
  simpa [settled, Option.isSome_iff_exists] using hMem

/- More budget settles more. -/
theorem settled_mono
    {budget more : Nat}
    (hMore : budget ≤ more) :
    g.settled now value path budget ⊆
      g.settled now value path more := by
  rintro ⟨i, strip⟩ hMem
  rcases exists_of_mem_settled ⟨i⟩ ⟨strip⟩ hMem with
    ⟨verdict, hCheck⟩
  exact mem_settled_of_checkWithin
    (checkWithin_mono hCheck hMore)

/- No more is settled than there is to settle. -/
theorem card_settled_le
    (budget : Nat) :
    (g.settled now value path budget).card ≤ 2 * g.size := by
  calc
    (g.settled now value path budget).card
        ≤ (Finset.univ : Finset (Fin g.size × Bool)).card :=
      Finset.card_le_univ _
    _ = 2 * g.size := by
      simp [Fintype.card_prod, Nat.mul_comm]

/-
  When everything less deep is settled and one more step
  settles nothing new, no further step does.
-/
theorem settled_succ_eq
    {enough : Nat}
    (hDeeper :
      ∀ (inner : Json) id place options budget verdict,
        inner.depth < value.depth →
          g.checkWithin now budget id (some inner) place
              options = some verdict →
            g.checkWithin now enough id (some inner) place
              options = some verdict)
    (hPos : 0 < enough)
    (hStill :
      g.settled now value path enough =
        g.settled now value path (enough + 1)) :
    g.settled now value path (enough + 1) =
      g.settled now value path (enough + 2) := by
  have hCarries :
      Carries (g.checkWithin now (enough + 1))
        (g.checkWithin now enough) value path := by
    intro id asked place options verdict hInside hCheck
    cases asked with
    | none =>
        rcases Nat.exists_eq_succ_of_ne_zero hPos.ne' with
          ⟨less, rfl⟩
        rw [Nat.succ_eq_add_one, checkWithin]
        rw [checkWithin] at hCheck
        rw [checkNode_none g now _
          (g.checkWithin now (less + 1))]
        exact hCheck
    | some inner =>
        rcases hInside with ⟨rfl, rfl⟩ | hDepth
        · have hMem := mem_settled_of_checkWithin hCheck
          rw [← hStill] at hMem
          rcases exists_of_mem_settled id options hMem with
            ⟨other, hOther⟩
          rw [hOther, checkWithin_unique hCheck hOther]
        · exact hDeeper inner id place options _ verdict
            hDepth hCheck
  apply Finset.Subset.antisymm
    (settled_mono (Nat.le_succ _))
  rintro ⟨i, strip⟩ hMem
  rcases exists_of_mem_settled ⟨i⟩ ⟨strip⟩ hMem with
    ⟨verdict, hCheck⟩
  have hEarlier :
      g.checkWithin now (enough + 1) ⟨i⟩ (some value) path
        ⟨strip⟩ = some verdict :=
    checkNode_transfer hCarries hCheck
  exact mem_settled_of_checkWithin hEarlier

/-
  When everything less deep is settled, twice as many steps
  as there are validators settle everything that ever will be.
-/
theorem settled_stabilises
    {base : Nat}
    (hDeeper :
      ∀ (inner : Json) id place options budget verdict,
        inner.depth < value.depth →
          g.checkWithin now budget id (some inner) place
              options = some verdict →
            g.checkWithin now base id (some inner) place
              options = some verdict)
    (hPos : 0 < base)
    (more : Nat) :
    g.settled now value path (base + 2 * g.size) =
      g.settled now value path (base + (2 * g.size + more)) := by
  let count := fun extra =>
    (g.settled now value path (base + extra)).card
  have hMono : Monotone count := by
    intro less extra hMore
    exact Finset.card_le_card
      (settled_mono (Nat.add_le_add_left hMore base))
  -- Once nothing new is settled, nothing new ever is.
  have hStep :
      ∀ extra, count extra = count (extra + 1) →
        count (extra + 1) = count (extra + 2) := by
    intro extra hSame
    have hStill :
        g.settled now value path (base + extra) =
          g.settled now value path (base + extra + 1) :=
      Finset.eq_of_subset_of_card_le
        (settled_mono (Nat.le_succ (base + extra)))
        (Nat.le_of_eq hSame.symm)
    have hEnough : 0 < base + extra := by omega
    apply congrArg Finset.card
    apply settled_succ_eq _ hEnough hStill
    intro inner id place options budget verdict hLess hInner
    apply checkWithin_mono
      (hDeeper inner id place options budget verdict hLess hInner)
    exact Nat.le_add_right base extra
  apply Finset.eq_of_subset_of_card_le
  · exact settled_mono (by omega)
  · exact Nat.le_of_eq
      (Nat.stabilises_of_monotone hMono
        (fun extra => card_settled_le _) hStep
        (Nat.le_add_right (2 * g.size) more))

/-
  A check of a present value that ends at all ends within
  its budget.
-/
theorem checkWithin_checkBudget
    {budget : Nat}
    {id : ValidatorId}
    {verdict : Verdict}
    (hCheck :
      g.checkWithin now budget id (some value) path options =
        some verdict) :
    g.checkWithin now (g.checkBudget (some value)) id
      (some value) path options = some verdict := by
  induction hDepth : value.depth using Nat.strong_induction_on
    generalizing value path options id verdict budget with
  | _ depth ih =>
      subst hDepth
      let base := value.depth * (2 * g.size) + 1
      have hBudget :
          g.checkBudget (some value) = base + 2 * g.size := by
        simp only [checkBudget, base]
        ring
      have hDeeper :
          ∀ (inner : Json) id place options budget verdict,
            inner.depth < value.depth →
              g.checkWithin now budget id (some inner) place
                  options = some verdict →
                g.checkWithin now base id (some inner) place
                  options = some verdict := by
        intro inner id place options budget verdict hLess hInner
        apply checkWithin_mono
          (ih inner.depth hLess hInner rfl)
        simp only [checkBudget, base]
        exact Nat.succ_le_succ (Nat.mul_le_mul_right _ hLess)
      have hFinal :
          g.settled now value path (base + 2 * g.size) =
            g.settled now value path
              (base + (2 * g.size + budget)) :=
        settled_stabilises hDeeper (Nat.succ_pos _) budget
      have hLarger : budget ≤ base + (2 * g.size + budget) := by
        omega
      have hMem :=
        mem_settled_of_checkWithin
          (checkWithin_mono hCheck hLarger)
      rw [← hFinal] at hMem
      rcases exists_of_mem_settled id options hMem with
        ⟨other, hOther⟩
      rw [hBudget, hOther, checkWithin_unique hCheck hOther]

/-
  A check has a verdict exactly when it ends with that
  verdict within some budget.
-/
theorem check_eq_some_iff
    {id : ValidatorId}
    {asked : Option Json}
    {verdict : Verdict} :
    g.check now id asked path options = some verdict ↔
      ∃ budget,
        g.checkWithin now budget id asked path options =
          some verdict := by
  constructor
  · intro hCheck
    exact ⟨_, hCheck⟩
  · rintro ⟨budget, hCheck⟩
    cases asked with
    | some value => exact checkWithin_checkBudget hCheck
    | none =>
        cases budget with
        | zero => cases hCheck
        | succ budget =>
            rw [checkWithin] at hCheck
            rw [check, checkBudget, checkWithin,
              checkNode_none g now _
                (g.checkWithin now budget)]
            exact hCheck

/-
  Two checks agree when each verdict of one is, within some
  budget, a verdict of the other.
-/
theorem check_congr
    {id other : ValidatorId}
    {asked wanted : Option Json}
    {place : String}
    {choice : CheckOptions}
    (hForth :
      ∀ budget verdict,
        g.checkWithin now budget id asked path options =
            some verdict →
          ∃ more,
            g.checkWithin now more other wanted place choice =
              some verdict)
    (hBack :
      ∀ budget verdict,
        g.checkWithin now budget other wanted place choice =
            some verdict →
          ∃ more,
            g.checkWithin now more id asked path options =
              some verdict) :
    g.check now id asked path options =
      g.check now other wanted place choice := by
  apply Option.ext
  intro verdict
  rw [check_eq_some_iff,
    check_eq_some_iff]
  constructor
  · rintro ⟨budget, hCheck⟩
    exact hForth budget verdict hCheck
  · rintro ⟨budget, hCheck⟩
    exact hBack budget verdict hCheck

end Graph

end SchemaGraph
