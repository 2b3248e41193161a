import Mathlib
import SchemaGraph.Proofs.Path.Moves

/-
  Paths of the entries of a directory.  A path that is
  continued with a name has the components of the path and
  then the name, however the path is written, and it lies in
  the directory with the components of the path.

  Main declarations:
    * `Path.IsEntryName`
    * `Path.components_join_name`
    * `Path.parent?_join_name`
    * `Path.below`
    * `Path.components_below`
    * `Path.exists_parent?_below`
    * `Path.components_intercalate`
    * `Path.eq_of_intercalate_eq`
-/

namespace SchemaGraph

namespace Path

/- The name of an entry of a directory. -/
def IsEntryName
    (name : String) : Prop :=
  (Component.name name).Plain

instance
    (name : String) :
    Decidable (IsEntryName name) := by
  unfold IsEntryName Component.Plain
  infer_instance

------------------------------------------------------------
-- Written Parts
------------------------------------------------------------

/- What stands before the names, if there is more than one part. -/
def leading
    (parts : List String) : List Component :=
  match parts.head? with
  | some "." => [.current]
  | some "" => [.root]
  | _ => []

/- A single empty part stands for nothing. -/
theorem components_of_slashParts
    {p : Path}
    {first : String}
    {rest : List String}
    (hParts : Pointer.slashParts p.text = first :: rest)
    (hMore : first = "" → rest ≠ []) :
    p.components =
      leading (first :: rest) ++ (first :: rest).filterMap ofPart := by
  unfold components
  simp only [hParts]
  split
  case h_1 next more hRoot =>
    cases hRoot
    rfl
  case h_2 more hPoint =>
    cases hPoint
    rfl
  case h_3 hNotRoot hNotPoint =>
    have hNothing : leading (first :: rest) = [] := by
      unfold leading
      split
      case h_1 hPoint =>
        cases hPoint
        exact absurd rfl (hNotPoint rest)
      case h_2 hEmpty =>
        cases hEmpty
        rcases List.exists_cons_of_ne_nil (hMore rfl) with
          ⟨next, more, rfl⟩
        exact absurd rfl (hNotRoot next more)
      case h_3 => rfl
    rw [hNothing, List.nil_append]

section Names

variable {name : String}

/- A name is not idle. -/
theorem IsEntryName.ofPart_eq
    (hName : IsEntryName name) :
    ofPart name = some (.name name) :=
  hName.1

/- A name is no absolute path. -/
theorem IsEntryName.isAbsolute_eq
    (hName : IsEntryName name) :
    (⟨name⟩ : Path).isAbsolute = false := by
  have hSlash : '/' ∉ name.toList := hName.2
  rw [isAbsolute_eq_decide, decide_eq_false_iff_not]
  intro hFirst
  exact hSlash (List.mem_of_mem_head? hFirst)

/- A name has one part. -/
theorem IsEntryName.slashParts_eq
    (hName : IsEntryName name) :
    Pointer.slashParts name = [name] := by
  have hOne :=
    Pointer.slashParts_intercalate [name] (by simp)
      (fun part hPart => List.mem_singleton.mp hPart ▸ hName.2)
  simpa using hOne

/-
  The parts before a name that continues a path: they stand
  for the components of the path.
-/
theorem exists_slashParts_join
    (base : Path)
    (hName : IsEntryName name) :
    ∃ front,
      Pointer.slashParts (base.join ⟨name⟩).text = front ++ [name] ∧
        base.components = leading front ++ front.filterMap ofPart := by
  have hOne := hName.slashParts_eq
  unfold join
  rw [if_neg (by simp [hName.isAbsolute_eq])]
  split
  case h_1 hLast =>
    have hEmpty : base.text = "" := by
      rw [← String.toList_inj]
      simpa using hLast
    refine ⟨[], hOne, ?_⟩
    have hBase : base = ⟨""⟩ := congrArg Path.mk hEmpty
    rw [hBase]
    decide
  case h_2 hLast =>
    rcases List.getLast?_eq_some_iff.mp hLast with ⟨cs, hBase⟩
    have hText : base.text = String.ofList cs ++ "/" ++ "" := by
      rw [← String.toList_inj, hBase]
      simp
    have hParts : Pointer.slashParts base.text =
        Pointer.slashParts (String.ofList cs) ++ [""] := by
      rw [hText, slashParts_append]
      rfl
    rcases List.exists_cons_of_ne_nil
      (l := Pointer.slashParts (String.ofList cs))
      (by simp [Pointer.slashParts, List.splitOn_ne_nil]) with
      ⟨first, rest, hFront⟩
    rw [hFront] at hParts
    refine ⟨first :: rest, ?_, ?_⟩
    · rw [hText, String.append_empty, slashParts_append, hFront, hOne]
    · have hSame :
          ((first :: rest) ++ [""]).filterMap ofPart =
            (first :: rest).filterMap ofPart :=
        List.filterMap_append.trans (List.append_nil _)
      rw [← hSame]
      exact components_of_slashParts hParts (by simp)
  case h_3 hLast =>
    rcases List.exists_cons_of_ne_nil
      (l := Pointer.slashParts base.text)
      (by simp [Pointer.slashParts, List.splitOn_ne_nil]) with
      ⟨first, rest, hFront⟩
    refine ⟨first :: rest, ?_, ?_⟩
    · rw [slashParts_append, hFront, hOne]
    · refine components_of_slashParts hFront ?_
      rintro rfl rfl
      have hEmpty : base.text.toList = [] := by
        have hJoined :
            ['/'].intercalate (base.text.toList.splitOn '/') =
              base.text.toList :=
          List.intercalate_splitOn '/'
        rcases List.map_eq_cons_iff.mp hFront with
          ⟨part, others, hSplit, hPart, hOthers⟩
        rw [hSplit, List.map_eq_nil_iff.mp hOthers] at hJoined
        rw [← hJoined]
        simpa using congrArg String.toList hPart
      rw [hEmpty] at hLast
      cases hLast

------------------------------------------------------------
-- Continuing with a Name
------------------------------------------------------------

/- A name is added to the components. -/
theorem components_join_name
    (base : Path)
    (hName : IsEntryName name) :
    (base.join ⟨name⟩).components =
      base.components ++ [.name name] := by
  rcases exists_slashParts_join base hName with
    ⟨front, hParts, hBase⟩
  have hRead :
      (front ++ [name]).filterMap ofPart =
        front.filterMap ofPart ++ [.name name] := by
    rw [List.filterMap_append, List.filterMap_cons, hName.ofPart_eq]
    rfl
  rw [hBase, List.append_assoc, ← hRead]
  cases front with
  | nil =>
      have hIdle : name ≠ "" ∧ name ≠ "." := text_ne_of_plain hName
      have hNothing : leading [name] = [] := by
        unfold leading
        split
        case h_1 hPoint => exact absurd (Option.some.inj hPoint) hIdle.2
        case h_2 hEmpty => exact absurd (Option.some.inj hEmpty) hIdle.1
        case h_3 => rfl
      rw [components_of_slashParts hParts
        (fun hEmpty => absurd hEmpty hIdle.1)]
      exact congrArg (· ++ [name].filterMap ofPart) hNothing
  | cons first rest =>
      exact components_of_slashParts hParts (by simp)

/- Nothing is dropped in front of a name. -/
theorem dropIdle_concat
    (first : String)
    (front : List String)
    (hName : IsEntryName name) :
    dropIdle first (front ++ [name]) = front ++ [name] := by
  have hIdle : name ≠ "" ∧ name ≠ "." := text_ne_of_plain hName
  unfold dropIdle
  rw [List.reverse_concat, List.dropWhile_cons_of_neg (by simp [hIdle]),
    List.reverse_cons, List.reverse_reverse]
  cases front <;> rfl

/- The parts without the idle ones at their end. -/
def active
    (parts : List String) : List String :=
  (parts.reverse.dropWhile (fun s => s = "" || s = ".")).reverse

/- Idle parts are dropped behind the first part, which is kept. -/
theorem dropIdle_cons
    (first : String)
    (rest : List String) :
    dropIdle first (first :: rest) = first :: active rest := by
  unfold dropIdle active
  rw [List.reverse_cons, List.dropWhile_append]
  cases hKept :
      rest.reverse.dropWhile (fun s => s = "" || s = ".") with
  | nil => by_cases hIdle : first = "" ∨ first = "." <;> simp [hIdle]
  | cons part others => simp

/- What is dropped at the end stands for nothing. -/
theorem filterMap_active
    (parts : List String) :
    (active parts).filterMap ofPart = parts.filterMap ofPart := by
  let idle := parts.reverse.takeWhile (fun s => s = "" || s = ".")
  have hParts : parts = active parts ++ idle.reverse := by
    rw [← List.reverse_inj, active, List.reverse_append,
      List.reverse_reverse, List.reverse_reverse]
    exact List.takeWhile_append_dropWhile.symm
  have hIdle : idle.reverse.filterMap ofPart = [] := by
    apply filterMap_ofPart_of_idle
    intro part hMem
    simpa using List.mem_takeWhile_imp (List.mem_reverse.mp hMem)
  rw [hParts, List.filterMap_append, hIdle, List.append_nil, ← hParts]

/- The parts that are left were there. -/
theorem mem_of_mem_active
    {parts : List String}
    {part : String}
    (hMem : part ∈ active parts) :
    part ∈ parts :=
  List.mem_reverse.mp
    (List.dropWhile_suffix _ |>.subset (List.mem_reverse.mp hMem))

/- What continues a path with a name lies in the path. -/
theorem parent?_join_name
    (base : Path)
    (hName : IsEntryName name) :
    ∃ dir,
      (base.join ⟨name⟩).parent? = some dir ∧ dir.Same base := by
  rcases exists_slashParts_join base hName with
    ⟨front, hParts, hBase⟩
  have hLast :
      (base.join ⟨name⟩).components.getLast? = some (.name name) := by
    rw [components_join_name base hName, List.getLast?_concat]
  unfold parent?
  rw [hLast]
  dsimp only
  rw [hParts, dropIdle_concat _ _ hName, List.dropLast_concat]
  cases front with
  | nil =>
      have hIdle : name ≠ "" ∧ name ≠ "." := text_ne_of_plain hName
      refine ⟨⟨""⟩, ?_, ?_⟩
      · simp [dropIdle, hIdle]
      · rw [Same, hBase]
        decide
  | cons first rest =>
      rw [List.cons_append, List.headD_cons]
      rw [dropIdle_cons]
      by_cases hRoot : first = "" ∧ active rest = []
      · rcases hRoot with ⟨rfl, hRest⟩
        have hAbsolute : (base.join ⟨name⟩).isAbsolute = true := by
          cases rest with
          | nil => exact isAbsolute_of_slashParts hParts
          | cons next others => exact isAbsolute_of_slashParts hParts
        have hNone : ("" :: rest).filterMap ofPart = [] := by
          rw [List.filterMap_cons_none rfl, ← filterMap_active, hRest]
          rfl
        have hSlash : (⟨"/"⟩ : Path).components = [.root] := by decide
        refine ⟨⟨"/"⟩, ?_, ?_⟩
        · rw [hRest]
          exact if_pos hAbsolute
        · rw [Same, hBase, hNone, hSlash]
          rfl
      · have hMore : first = "" → active rest ≠ [] :=
          fun hEmpty hRest => hRoot ⟨hEmpty, hRest⟩
        have hWritten :
            Pointer.slashParts
                (String.intercalate "/" (first :: active rest)) =
              first :: active rest := by
          apply Pointer.slashParts_intercalate _ (by simp)
          intro part hPart
          have hMem :
              part ∈ Pointer.slashParts (base.join ⟨name⟩).text := by
            rw [hParts]
            rcases List.mem_cons.mp hPart with rfl | hLater
            · exact List.mem_cons_self
            · exact List.mem_cons_of_mem _
                (List.mem_append_left _ (mem_of_mem_active hLater))
          exact Pointer.not_mem_of_mem_slashParts hMem
        refine ⟨⟨String.intercalate "/" (first :: active rest)⟩, ?_,
          ?_⟩
        · split
          case h_1 hSingle =>
            rw [List.cons.injEq] at hSingle
            exact absurd hSingle hRoot
          case h_2 => rfl
        · have hRead :
              (first :: active rest).filterMap ofPart =
                (first :: rest).filterMap ofPart := by
            rw [List.filterMap_cons, List.filterMap_cons,
              filterMap_active]
          exact (components_of_slashParts hWritten hMore).trans
            (hRead ▸ hBase.symm)

end Names

------------------------------------------------------------
-- Paths below a Directory
------------------------------------------------------------

/- The path of what some names lead to from a directory. -/
def below
    (directory : Path)
    (names : List String) : Path :=
  names.foldl (fun p name => p.join ⟨name⟩) directory

/- The components of a path below a directory. -/
theorem components_below
    (directory : Path)
    {names : List String}
    (hNames : ∀ name ∈ names, IsEntryName name) :
    (directory.below names).components =
      directory.components ++ names.map .name := by
  induction names generalizing directory with
  | nil => exact (List.append_nil _).symm
  | cons name rest ih =>
      have hRest := ih (directory.join ⟨name⟩)
        (fun other hMem => hNames other (List.mem_cons_of_mem _ hMem))
      rw [components_join_name _ (hNames name List.mem_cons_self),
        List.append_assoc] at hRest
      exact hRest

/- What names lead to lies where all of them but the last one lead to. -/
theorem exists_parent?_below
    (directory : Path)
    {names : List String}
    (hSome : names ≠ [])
    (hNames : ∀ name ∈ names, IsEntryName name) :
    ∃ dir,
      (directory.below names).parent? = some dir ∧
        dir.Same (directory.below names.dropLast) := by
  rcases List.eq_nil_or_concat names with hNone | ⟨front, last, hAll⟩
  · exact absurd hNone hSome
  · rw [List.concat_eq_append] at hAll
    rw [hAll] at hNames ⊢
    rw [List.dropLast_concat, below, List.foldl_append]
    exact parent?_join_name (directory.below front)
      (hNames last (by simp))

/- Names are known from the components that they are. -/
theorem map_name_inj
    {names others : List String} :
    names.map Component.name = others.map .name ↔ names = others := by
  have hName : Function.Injective Component.name :=
    fun _ _ hSame => Component.name.inj hSame
  exact (List.map_injective_iff.mpr hName).eq_iff

/- Names with slashes between them are a path of these names. -/
theorem components_intercalate
    {names : List String}
    (hNames : ∀ name ∈ names, IsEntryName name) :
    (⟨String.intercalate "/" names⟩ : Path).components =
      names.map .name := by
  have hNormal : NormalComponents (names.map .name) :=
    normalComponents_of_plain (List.forall_mem_map.mpr hNames)
  have hTexts : (names.map Component.name).map Component.text = names :=
    (List.map_map).trans (List.map_id names)
  have hText :
      ofComponents (names.map .name) =
        ⟨String.intercalate "/"
          ((names.map Component.name).map Component.text)⟩ := by
    cases names <;> rfl
  rw [← components_ofComponents hNormal, hText, hTexts]

/- Names are known from the text with slashes between them. -/
theorem eq_of_intercalate_eq
    {names others : List String}
    (hNames : ∀ name ∈ names, IsEntryName name)
    (hOthers : ∀ name ∈ others, IsEntryName name)
    (hText :
      String.intercalate "/" names = String.intercalate "/" others) :
    names = others := by
  rw [← map_name_inj, ← components_intercalate hNames, hText,
    components_intercalate hOthers]

end Path

end SchemaGraph
