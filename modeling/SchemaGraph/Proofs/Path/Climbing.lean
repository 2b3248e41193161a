import Mathlib
import SchemaGraph.Proofs.Path.Normal

/-
  What normalizing leaves of a path.  A normal form is the
  root, if the path is absolute, then one `..` for each time
  that the path climbs above where it starts, then names.
  There is no `.` in it; there is a `..` in it exactly if the
  path climbs, be it above the root.

  A path that continues an absolute one is absolute, and so
  are its normal form and the directory that it lies in.

  Main declarations:
    * `Path.climbs`
    * `Path.isAbsolute_iff`
    * `Path.exists_components_normalize`
    * `Path.parent_mem_normalize_iff`
    * `Path.isAbsolute_normalize`
    * `Path.isAbsolute_join`
    * `Path.isAbsolute_of_parent?`
-/

namespace SchemaGraph

namespace Path

------------------------------------------------------------
-- Absolute Paths
------------------------------------------------------------

/- No part stands for the root. -/
theorem root_not_mem_filterMap
    (parts : List String) :
    .root ∉ parts.filterMap ofPart := by
  intro hMem
  rcases List.mem_filterMap.mp hMem with ⟨part, _, hRead⟩
  unfold ofPart at hRead
  split at hRead
  case isTrue => cases hRead
  case isFalse => split at hRead <;> cases hRead

/- A path is absolute if its text starts with a slash. -/
theorem isAbsolute_eq_decide
    (p : Path) :
    p.isAbsolute = decide (p.text.toList.head? = some '/') := by
  unfold isAbsolute
  split
  case h_1 cs hText => simp [hText]
  case h_2 hOther =>
    cases hText : p.text.toList with
    | nil => simp
    | cons c cs =>
        have hSlash : c ≠ '/' := by
          rintro rfl
          exact hOther cs hText
        simp [hSlash]

/- The first of several parts is empty in absolute paths only. -/
theorem isAbsolute_of_slashParts
    {p : Path}
    {next : String}
    {rest : List String}
    (hParts : Pointer.slashParts p.text = "" :: next :: rest) :
    p.isAbsolute = true := by
  rw [Pointer.slashParts] at hParts
  rw [isAbsolute_eq_decide, decide_eq_true_eq]
  cases hText : p.text.toList with
  | nil =>
      rw [hText, List.splitOn_nil] at hParts
      simp at hParts
  | cons c cs =>
      by_cases hSlash : c = '/'
      · simp [hSlash]
      · rw [hText, List.splitOn_cons_eq_if_modifyHead,
          if_neg (by simpa using hSlash)] at hParts
        rcases List.exists_cons_of_ne_nil
          (List.splitOn_ne_nil '/' cs) with ⟨first, more, hSplit⟩
        simp [hSplit] at hParts

/- The parts of an absolute path. -/
theorem exists_slashParts_of_isAbsolute
    {p : Path}
    (hAbsolute : p.isAbsolute = true) :
    ∃ next rest,
      Pointer.slashParts p.text = "" :: next :: rest := by
  unfold isAbsolute at hAbsolute
  split at hAbsolute
  case h_1 cs hText =>
    have hSplit : p.text = "/" ++ String.ofList cs := by
      rw [← String.toList_inj, hText]
      simp
    rw [hSplit, slashParts_slash]
    rcases List.exists_cons_of_ne_nil
      (List.splitOn_ne_nil '/' (String.ofList cs).toList) with
      ⟨first, more, hMore⟩
    exact ⟨String.ofList first, more.map String.ofList,
      by rw [Pointer.slashParts, hMore, List.map_cons]⟩
  case h_2 => cases hAbsolute

/- Only an absolute path has the root, and only in front. -/
theorem components_cases
    (p : Path) :
    (p.isAbsolute = true ∧
        ∃ rest, p.components = .root :: rest ∧ .root ∉ rest) ∨
      (p.isAbsolute = false ∧ .root ∉ p.components) := by
  cases hAbsolute : p.isAbsolute with
  | true =>
      rcases exists_slashParts_of_isAbsolute hAbsolute with
        ⟨next, rest, hParts⟩
      refine Or.inl ⟨rfl, ("" :: next :: rest).filterMap ofPart, ?_,
        root_not_mem_filterMap _⟩
      simp only [components, hParts]
  | false =>
      refine Or.inr ⟨rfl, ?_⟩
      unfold components
      split
      case h_1 next rest hParts =>
        rw [isAbsolute_of_slashParts hParts] at hAbsolute
        cases hAbsolute
      case h_2 rest _ =>
        intro hMem
        rcases List.mem_cons.mp hMem with hFirst | hRest
        · cases hFirst
        · exact root_not_mem_filterMap rest hRest
      case h_3 => exact root_not_mem_filterMap _

/- A path is absolute if the root is one of its components. -/
theorem isAbsolute_iff
    {p : Path} :
    p.isAbsolute = true ↔ .root ∈ p.components := by
  rcases components_cases p with
    ⟨hAbsolute, rest, hRoot, _⟩ | ⟨hRelative, hNone⟩
  · simp [hAbsolute, hRoot]
  · simp [hRelative, hNone]

------------------------------------------------------------
-- Climbing
------------------------------------------------------------

/-
  Walk along a component, with how often the walk climbed
  above its start and how many names it is below that.
-/
def climbStep : Nat × Nat → Component → Nat × Nat
  | (climbed, depth), .name _ => (climbed, depth + 1)
  | (climbed, 0), .parent => (climbed + 1, 0)
  | (climbed, depth + 1), .parent => (climbed, depth)
  | walk, _ => walk

/- How often the path climbs above where it starts. -/
def climbs
    (p : Path) : Nat :=
  (p.components.foldl climbStep (0, 0)).1

/- The components that are left of a walk, behind a beginning. -/
def Traces
    (start done : List Component)
    (walk : Nat × Nat) : Prop :=
  ∃ names : List String,
    names.length = walk.2 ∧
      done =
        start ++ List.replicate walk.1 .parent
          ++ names.map Component.name

/- A normalizing step leaves what a step of the walk leaves. -/
theorem Traces.step
    {start done : List Component}
    {walk : Nat × Nat}
    {c : Component}
    (hStart : ∀ d ∈ start, d = .root)
    (hTraces : Traces start done walk)
    (hC : c ≠ .root) :
    Traces start (normalizeStep done c) (climbStep walk c) := by
  rcases walk with ⟨climbed, depth⟩
  rcases hTraces with ⟨names, hLength, rfl⟩
  cases c with
  | root => exact absurd rfl hC
  | current => exact ⟨names, hLength, rfl⟩
  | name text =>
      exact ⟨names ++ [text], by simpa [climbStep] using hLength,
        by simp [normalizeStep, climbStep]⟩
  | parent =>
      cases names using List.reverseRecOn with
      | nil =>
          cases hLength
          refine ⟨[], rfl, ?_⟩
          simp only [List.map_nil, List.append_nil, normalizeStep,
            climbStep, List.replicate_succ', ← List.append_assoc]
          split
          case h_1 text hLast =>
            -- There is no name yet that could be dropped.
            rcases List.mem_append.mp (List.mem_of_getLast? hLast)
              with hFirst | hClimb
            · cases hStart _ hFirst
            · cases List.eq_of_mem_replicate hClimb
          case h_2 => rfl
      | append_singleton rest last =>
          simp only [List.length_append, List.length_cons,
            List.length_nil, Nat.zero_add] at hLength
          refine ⟨rest, ?_, ?_⟩
          · simp only [climbStep, ← hLength]
          · simp [normalizeStep, climbStep, ← hLength,
              ← List.append_assoc]

/- Normalizing leaves what walking leaves. -/
theorem Traces.foldl
    {start done cs : List Component}
    {walk : Nat × Nat}
    (hStart : ∀ d ∈ start, d = .root)
    (hTraces : Traces start done walk)
    (hRoot : .root ∉ cs) :
    Traces start (cs.foldl normalizeStep done)
      (cs.foldl climbStep walk) := by
  induction cs generalizing done walk with
  | nil => exact hTraces
  | cons c rest ih =>
      rw [List.mem_cons, not_or] at hRoot
      exact ih (hTraces.step hStart (Ne.symm hRoot.1)) hRoot.2

/- The components of a normal form. -/
theorem exists_components_normalize
    (p : Path) :
    ∃ names : List String,
      p.normalize.components =
        (if p.isAbsolute then [.root] else [])
          ++ List.replicate p.climbs .parent
          ++ names.map Component.name := by
  rw [components_normalize, normalizeComponents, climbs]
  rcases components_cases p with
    ⟨hAbsolute, rest, hComponents, hRest⟩ | ⟨hRelative, hNone⟩
  · have hTraces : Traces [.root] [.root] (0, 0) := ⟨[], rfl, rfl⟩
    rcases hTraces.foldl (by simp) hRest with ⟨names, _, hDone⟩
    exact ⟨names, by
      rw [hComponents, if_pos hAbsolute]
      exact hDone⟩
  · have hTraces : Traces [] [] (0, 0) := ⟨[], rfl, rfl⟩
    rcases hTraces.foldl (by simp) hNone with ⟨names, _, hDone⟩
    exact ⟨names, by simpa [hRelative] using hDone⟩

/- There is no `.` in a normal form. -/
theorem current_not_mem_normalize
    (p : Path) :
    .current ∉ p.normalize.components := by
  rcases p.exists_components_normalize with ⟨names, hSame⟩
  rw [hSame]
  split <;> simp

/- There is a `..` in a normal form exactly if the path climbs. -/
theorem parent_mem_normalize_iff
    {p : Path} :
    .parent ∈ p.normalize.components ↔ p.climbs ≠ 0 := by
  rcases p.exists_components_normalize with ⟨names, hSame⟩
  rw [hSame]
  split <;> simp

------------------------------------------------------------
-- Continued Paths
------------------------------------------------------------

/- A normal form is absolute if the path is. -/
@[simp] theorem isAbsolute_normalize
    (p : Path) :
    p.normalize.isAbsolute = p.isAbsolute := by
  rcases p.exists_components_normalize with ⟨names, hSame⟩
  rw [Bool.eq_iff_iff, isAbsolute_iff, hSame]
  cases p.isAbsolute <;> simp

/- A path that is continued is absolute if it or the other one is. -/
theorem isAbsolute_join
    (base p : Path) :
    (base.join p).isAbsolute = (p.isAbsolute || base.isAbsolute) := by
  unfold join
  cases hAbsolute : p.isAbsolute with
  | true => simp [hAbsolute]
  | false =>
      rw [if_neg (by simp), Bool.false_or, isAbsolute_eq_decide base]
      cases hBase : base.text.toList with
      | nil => simpa using hAbsolute
      | cons c cs =>
          split
          case h_1 hLast => simp at hLast
          case h_2 => simp [isAbsolute_eq_decide, hBase]
          case h_3 => simp [isAbsolute_eq_decide, hBase]

/- Behind an empty first part, idle parts are dropped. -/
theorem dropIdle_empty
    (parts : List String) :
    dropIdle "" ("" :: parts) =
      "" :: (parts.reverse.dropWhile
        (fun s => s = "" || s = ".")).reverse := by
  unfold dropIdle
  rw [List.reverse_cons, List.dropWhile_append]
  cases hKept :
      parts.reverse.dropWhile (fun s => s = "" || s = ".") with
  | nil => simp
  | cons part rest => simp

/- Idle parts stand for no component. -/
theorem filterMap_ofPart_of_idle
    {parts : List String}
    (hIdle : ∀ part ∈ parts, part = "" ∨ part = ".") :
    parts.filterMap ofPart = [] := by
  rw [List.filterMap_eq_nil_iff]
  intro part hMem
  simp [ofPart, hIdle part hMem]

/- The directory that an absolute path lies in is absolute. -/
theorem isAbsolute_of_parent?
    {p dir : Path}
    (hAbsolute : p.isAbsolute = true)
    (hParent : p.parent? = some dir) :
    dir.isAbsolute = true := by
  rcases exists_slashParts_of_isAbsolute hAbsolute with
    ⟨next, rest, hParts⟩
  unfold parent? at hParent
  split at hParent
  case h_1 => cases hParent
  case h_2 => cases hParent
  case h_3 c hNotRoot hLast =>
    simp only [hParts, List.headD_cons, dropIdle_empty] at hParent
    cases hKept :
        ((next :: rest).reverse.dropWhile
          (fun s => s = "" || s = ".")).reverse with
    | nil =>
        -- Then the root is the only component.
        rw [List.reverse_eq_nil_iff, List.dropWhile_eq_nil_iff]
          at hKept
        have hIdle :
            ∀ part ∈ "" :: next :: rest, part = "" ∨ part = "." := by
          intro part hMem
          rcases List.mem_cons.mp hMem with rfl | hLater
          · exact Or.inl rfl
          · simpa using hKept part (List.mem_reverse.mpr hLater)
        have hRoot : p.components = [.root] := by
          simp only [components, hParts,
            filterMap_ofPart_of_idle hIdle]
        rw [hRoot] at hLast
        cases hLast
        exact absurd rfl hNotRoot
    | cons part more =>
        rw [hKept, List.dropLast_cons_cons, dropIdle_empty] at hParent
        split at hParent
        case h_1 =>
          rw [if_pos hAbsolute] at hParent
          cases hParent
          rfl
        case h_2 hMany =>
          cases hLeft :
              ((part :: more).dropLast.reverse.dropWhile
                (fun s => s = "" || s = ".")).reverse with
          | nil => exact absurd (by rw [hLeft]) hMany
          | cons first others =>
              rw [hLeft] at hParent
              cases hParent
              simp [isAbsolute_eq_decide]

end Path

end SchemaGraph
