import Mathlib
import SchemaGraph.Loader
import SchemaGraph.Proofs.Path.Climbing

/-
  Paths as walks.  The components of a path are moves; a `.`
  is no move, and a `..` right behind a name takes the name
  back.  Two paths make the same moves if what is left of
  them without idle and taken back moves is the same, and
  this is what normalizing leaves.

  So it does not matter whether a path is normalized before
  it is continued, and documents that are kept by normal
  forms are found under every path that makes the same moves.

  Main declarations:
    * `Path.Shortens`
    * `Path.SameMoves`
    * `Path.sameMoves_iff`
    * `Path.normalize_normalize`
    * `Path.normalize_join`
    * `Loader.lastAt?_eq_some_iff`
    * `Loader.load_memory_eq_some_iff`
    * `Path.normalize_exact`
-/

namespace SchemaGraph

namespace Path

------------------------------------------------------------
-- Moves
------------------------------------------------------------

/- Leave out one idle move, or a name that is taken back. -/
inductive Shortens : List Component → List Component → Prop where
  | idle
      (before after : List Component) :
      Shortens (before ++ .current :: after) (before ++ after)
  | back
      (before after : List Component)
      (name : String) :
      Shortens (before ++ .name name :: .parent :: after)
        (before ++ after)

/- Leave out idle moves and names that are taken back. -/
abbrev ShortensTo : List Component → List Component → Prop :=
  Relation.ReflTransGen Shortens

/-
  The paths make the same moves, idle ones and those that are
  taken back aside.
-/
def SameMoves
    (p q : Path) : Prop :=
  Relation.EqvGen Shortens p.components q.components

/- A normalizing step leaves out nothing but what may be left out. -/
theorem shortensTo_step
    (done rest : List Component)
    (c : Component) :
    ShortensTo (done ++ c :: rest) (normalizeStep done c ++ rest) := by
  cases c with
  | root => simpa [normalizeStep] using Relation.ReflTransGen.refl
  | name text => simpa [normalizeStep] using Relation.ReflTransGen.refl
  | current => exact .single (.idle done rest)
  | parent =>
      unfold normalizeStep
      simp only
      split
      case h_1 text hLast =>
        rcases List.getLast?_eq_some_iff.mp hLast with
          ⟨before, rfl⟩
        rw [List.dropLast_concat, List.append_assoc]
        exact .single (.back before rest text)
      case h_2 => simpa using Relation.ReflTransGen.refl

/- Normalizing leaves out nothing but what may be left out. -/
theorem shortensTo_foldl
    (done cs : List Component) :
    ShortensTo (done ++ cs) (cs.foldl normalizeStep done) := by
  induction cs generalizing done with
  | nil => simpa using Relation.ReflTransGen.refl
  | cons c rest ih =>
      exact (shortensTo_step done rest c).trans
        (ih (normalizeStep done c))

/- What may be left out does not change the normal form. -/
theorem normalizeComponents_of_shortens
    {cs ds : List Component}
    (hShortens : Shortens cs ds) :
    normalizeComponents cs = normalizeComponents ds := by
  unfold normalizeComponents
  cases hShortens with
  | idle before after =>
      rw [List.foldl_append, List.foldl_append, List.foldl_cons]
      rfl
  | back before after name =>
      rw [List.foldl_append, List.foldl_append, List.foldl_cons,
        List.foldl_cons]
      congr 1
      simp [normalizeStep]

/- Moves that are the same have one normal form. -/
theorem normalizeComponents_of_eqvGen
    {cs ds : List Component}
    (hSame : Relation.EqvGen Shortens cs ds) :
    normalizeComponents cs = normalizeComponents ds := by
  induction hSame with
  | rel cs ds hShortens =>
      exact normalizeComponents_of_shortens hShortens
  | refl cs => rfl
  | symm cs ds _ ih => exact ih.symm
  | trans cs ds es _ _ ihFirst ihSecond =>
      exact ihFirst.trans ihSecond

/- Normalizing makes the moves of the path. -/
theorem shortensTo_normalize
    (p : Path) :
    ShortensTo p.components p.normalize.components := by
  rw [components_normalize]
  exact shortensTo_foldl [] p.components

/- A normal form makes the same moves as the path. -/
theorem sameMoves_normalize
    (p : Path) :
    p.normalize.SameMoves p :=
  .symm _ _
    (Relation.EqvGen.reflTransGen_le_eqvGen Shortens _ _
      (shortensTo_normalize p))

/- Normal forms are the same if their components are. -/
theorem normalize_eq_iff
    {p q : Path} :
    p.normalize = q.normalize ↔
      normalizeComponents p.components =
        normalizeComponents q.components := by
  rw [← components_normalize, ← components_normalize]
  constructor
  · intro hSame
    rw [hSame]
  · intro hSame
    exact (normal_normalize p).eq_of_same (normal_normalize q) hSame

/- Paths make the same moves exactly if their normal forms agree. -/
theorem sameMoves_iff
    {p q : Path} :
    p.SameMoves q ↔ p.normalize = q.normalize := by
  constructor
  · intro hSame
    rw [normalize_eq_iff]
    exact normalizeComponents_of_eqvGen hSame
  · intro hSame
    have hP := sameMoves_normalize p
    rw [hSame] at hP
    exact .trans _ _ _ (.symm _ _ hP) (sameMoves_normalize q)

------------------------------------------------------------
-- Normal Forms of Normal Forms
------------------------------------------------------------

/- A normal form is its own normal form. -/
@[simp] theorem normalize_normalize
    (p : Path) :
    p.normalize.normalize = p.normalize :=
  sameMoves_iff.mp (sameMoves_normalize p)

------------------------------------------------------------
-- Continued Paths
------------------------------------------------------------

/- The parts of two texts with a slash between them. -/
theorem slashParts_append
    (first second : String) :
    Pointer.slashParts (first ++ "/" ++ second) =
      Pointer.slashParts first ++ Pointer.slashParts second := by
  have hText :
      (first ++ "/" ++ second).toList =
        first.toList ++ '/' :: second.toList := by
    simp
  rw [Pointer.slashParts, hText, List.splitOn_append_cons_self,
    List.map_append]
  rfl

/- The moves that a path starts with, before those of its parts. -/
def rootMoves
    (p : Path) : List Component :=
  if p.isAbsolute then [.root] else []

/- Normalizing adds what the parts stand for to the root. -/
theorem normalizeComponents_parts
    (p : Path) :
    normalizeComponents p.components =
      ((Pointer.slashParts p.text).filterMap ofPart).foldl
        normalizeStep p.rootMoves := by
  unfold normalizeComponents rootMoves components
  split
  case h_1 next rest hParts =>
    rw [isAbsolute_of_slashParts hParts, List.foldl_cons]
    rfl
  case h_2 rest hParts =>
    have hRelative : ¬ p.isAbsolute = true := by
      intro hAbsolute
      rcases exists_slashParts_of_isAbsolute hAbsolute with
        ⟨next, more, hOther⟩
      rw [hParts] at hOther
      simp at hOther
    rw [if_neg hRelative, hParts, List.foldl_cons,
      List.filterMap_cons]
    rfl
  case h_3 hOther _ =>
    have hRelative : ¬ p.isAbsolute = true := by
      intro hAbsolute
      rcases exists_slashParts_of_isAbsolute hAbsolute with
        ⟨next, more, hParts⟩
      exact hOther next more hParts
    rw [if_neg hRelative]

/- The empty text has no parts that stand for a component. -/
theorem filterMap_slashParts_empty :
    (Pointer.slashParts "").filterMap ofPart = [] := by
  decide

/- A relative path adds its parts to those of the path it continues. -/
theorem filterMap_slashParts_join
    {base p : Path}
    (hRelative : p.isAbsolute = false) :
    (Pointer.slashParts (base.join p).text).filterMap ofPart =
      (Pointer.slashParts base.text).filterMap ofPart
        ++ (Pointer.slashParts p.text).filterMap ofPart := by
  unfold join
  rw [if_neg (by simp [hRelative])]
  split
  case h_1 hLast =>
    have hEmpty : base.text = "" := by
      rw [← String.toList_inj]
      simpa using hLast
    rw [hEmpty, filterMap_slashParts_empty, List.nil_append]
  case h_2 hLast =>
    rcases List.getLast?_eq_some_iff.mp hLast with ⟨cs, hBase⟩
    have hText : base.text = String.ofList cs ++ "/" := by
      rw [← String.toList_inj, hBase]
      simp
    have hSplit := slashParts_append (String.ofList cs) ""
    rw [String.append_empty, ← hText] at hSplit
    rw [hSplit]
    simp only [hText, slashParts_append, List.filterMap_append,
      filterMap_slashParts_empty, List.append_nil]
  case h_3 =>
    simp only [slashParts_append, List.filterMap_append]

/- A relative path adds its moves to those of the path it continues. -/
theorem normalizeComponents_join
    {base p : Path}
    (hRelative : p.isAbsolute = false) :
    normalizeComponents (base.join p).components =
      ((Pointer.slashParts p.text).filterMap ofPart).foldl
        normalizeStep (normalizeComponents base.components) := by
  have hRoot : (base.join p).rootMoves = base.rootMoves := by
    unfold rootMoves
    rw [isAbsolute_join, hRelative, Bool.false_or]
  rw [normalizeComponents_parts, normalizeComponents_parts base,
    filterMap_slashParts_join hRelative, List.foldl_append, hRoot]

/- A path may be normalized before it is continued. -/
theorem normalize_join
    (base p : Path) :
    (base.join p).normalize = (base.normalize.join p).normalize := by
  cases hAbsolute : p.isAbsolute with
  | true => simp only [join, hAbsolute, if_true]
  | false =>
      rw [normalize_eq_iff, normalizeComponents_join hAbsolute,
        normalizeComponents_join hAbsolute,
        normalize_eq_iff.mp (normalize_normalize base)]

end Path

------------------------------------------------------------
-- Documents under Normal Forms
------------------------------------------------------------

namespace Loader

/- What is kept last under the components of a path. -/
theorem lastAt?_eq_some_iff
    {α : Type}
    {entries : List (Path × α)}
    {p : Path}
    {a : α} :
    lastAt? entries p = some a ↔
      ∃ before q after,
        entries = before ++ (q, a) :: after ∧
          q.Same p ∧ ∀ e ∈ after, ¬ e.1.Same p := by
  unfold lastAt?
  rw [Option.map_eq_some_iff]
  constructor
  · rintro ⟨⟨q, b⟩, hFound, rfl⟩
    rcases List.find?_eq_some_iff_append.mp hFound with
      ⟨hSame, after, before, hEntries, hAfter⟩
    refine ⟨before.reverse, q, after.reverse, ?_, by simpa using hSame,
      ?_⟩
    · rw [← List.reverse_inj, hEntries]
      simp
    · intro e hMem
      simpa using hAfter e (List.mem_reverse.mp hMem)
  · rintro ⟨before, q, after, rfl, hSame, hAfter⟩
    refine ⟨(q, a), List.find?_eq_some_iff_append.mpr
      ⟨by simpa using hSame, after.reverse, before.reverse, by simp,
        ?_⟩, rfl⟩
    intro e hMem
    simpa using hAfter e (List.mem_reverse.mp hMem)

/- Nothing is kept under the components of a path. -/
theorem lastAt?_eq_none_iff
    {α : Type}
    {entries : List (Path × α)}
    {p : Path} :
    lastAt? entries p = none ↔ ∀ e ∈ entries, ¬ e.1.Same p := by
  unfold lastAt?
  rw [Option.map_eq_none_iff, List.find?_eq_none]
  simp

/- Normal forms with the same components are the same. -/
theorem same_normalize_iff
    {p q : Path} :
    p.normalize.Same q.normalize ↔ p.normalize = q.normalize := by
  constructor
  · intro hSame
    exact (Path.normal_normalize p).eq_of_same
      (Path.normal_normalize q) hSame
  · intro hSame
    rw [hSame]
    rfl

variable {documents : List (Path × Json)}
variable {p : Path}

/-
  Under a path there is the document that was put last under
  a path with the same normal form.
-/
theorem load_memory_eq_some_iff
    {d : Json} :
    (memory documents).load p = .ok (some d) ↔
      ∃ before q after,
        documents = before ++ (q, d) :: after ∧
          q.normalize = p.normalize ∧
          ∀ e ∈ after, e.1.normalize ≠ p.normalize := by
  simp only [memory, Except.ok.injEq, lastAt?_eq_some_iff]
  constructor
  · rintro ⟨kept, normal, later, hKept, hSame, hLater⟩
    rcases List.map_eq_append_iff.mp hKept with
      ⟨before, others, rfl, rfl, hOthers⟩
    rcases List.map_eq_cons_iff.mp hOthers with
      ⟨⟨q, _⟩, after, rfl, hEntry, rfl⟩
    cases hEntry
    refine ⟨before, q, after, rfl, same_normalize_iff.mp hSame, ?_⟩
    intro e hMem hOther
    exact hLater _ (List.mem_map_of_mem hMem)
      (same_normalize_iff.mpr hOther)
  · rintro ⟨before, q, after, rfl, hSame, hAfter⟩
    refine ⟨_, _, _, List.map_append.trans
      (congrArg _ List.map_cons), same_normalize_iff.mpr hSame, ?_⟩
    intro e hMem hOther
    rcases List.mem_map.mp hMem with ⟨entry, hEntry, rfl⟩
    exact hAfter entry hEntry (same_normalize_iff.mp hOther)

/- Under a path there is nothing if nothing was put there. -/
theorem load_memory_eq_none_iff :
    (memory documents).load p = .ok none ↔
      ∀ e ∈ documents, e.1.normalize ≠ p.normalize := by
  simp only [memory, Except.ok.injEq, lastAt?_eq_none_iff,
    List.forall_mem_map, same_normalize_iff]

end Loader

------------------------------------------------------------
-- Normal Forms
------------------------------------------------------------

/-
  The normal form of a path is its root, if it has one, then
  one `..` for each time that it climbs above where it
  starts, then names; it makes the moves of the path, with
  idle ones and names that are taken back left out, and is
  its own normal form.  Paths have one normal form exactly if
  they make the same moves.  A path may be normalized before
  it is continued.  Hence documents that are kept in memory
  are found under every path with the same normal form, the
  one that was put there last.
-/
theorem Path.normalize_exact
    (p : Path) :
    .current ∉ p.normalize.components ∧
      (∃ names : List String,
        p.normalize.components =
          (if p.isAbsolute then [.root] else [])
            ++ List.replicate p.climbs .parent
            ++ names.map Path.Component.name) ∧
      p.normalize.isAbsolute = p.isAbsolute ∧
      Path.ShortensTo p.components p.normalize.components ∧
      (∀ q, p.SameMoves q ↔ p.normalize = q.normalize) ∧
      p.normalize.normalize = p.normalize ∧
      (∀ q, (p.join q).normalize = (p.normalize.join q).normalize) ∧
      ∀ documents : List (Path × Json),
        (∀ d,
          (Loader.memory documents).load p = .ok (some d) ↔
            ∃ before q after,
              documents = before ++ (q, d) :: after ∧
                q.normalize = p.normalize ∧
                ∀ e ∈ after, e.1.normalize ≠ p.normalize) ∧
          ((Loader.memory documents).load p = .ok none ↔
            ∀ e ∈ documents, e.1.normalize ≠ p.normalize) :=
  ⟨p.current_not_mem_normalize, p.exists_components_normalize,
    p.isAbsolute_normalize, p.shortensTo_normalize,
    fun _ => Path.sameMoves_iff, p.normalize_normalize,
    p.normalize_join,
    fun _ =>
      ⟨fun _ => Loader.load_memory_eq_some_iff,
        Loader.load_memory_eq_none_iff⟩⟩

end SchemaGraph
