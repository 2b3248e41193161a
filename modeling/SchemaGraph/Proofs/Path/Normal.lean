import Mathlib
import SchemaGraph.Path

/-
  Normalized paths are determined by their components: a
  normalized path is written from a normalized list of
  components, and reading it gives that list again.

  Hence two spellings of one file have one normal form, and
  a loader that is asked for normal forms only is asked for
  each file under one path.

  Main declarations:
    * `Pointer.slashParts_intercalate`
    * `Path.Normal`
    * `Path.components_ofComponents`
    * `Path.normal_normalize`
    * `Path.Normal.eq_of_same`
-/

namespace SchemaGraph

------------------------------------------------------------
-- Parts between Slashes
------------------------------------------------------------

/- No part of a split text contains the separator. -/
theorem not_mem_of_mem_splitOn
    (sep : Char)
    (cs part : List Char)
    (hPart : part ∈ cs.splitOn sep) :
    sep ∉ part := by
  induction cs generalizing part with
  | nil =>
      rw [List.splitOn_nil] at hPart
      simp_all
  | cons c cs ih =>
      rw [List.splitOn_cons_eq_if_modifyHead] at hPart
      by_cases hSep : (c == sep) = true
      · rw [if_pos hSep] at hPart
        rcases List.mem_cons.mp hPart with rfl | hRest
        · simp
        · exact ih part hRest
      · rw [if_neg hSep] at hPart
        rcases List.exists_cons_of_ne_nil
          (List.splitOn_ne_nil sep cs) with ⟨first, rest, hSplit⟩
        rw [hSplit, List.modifyHead_cons] at hPart
        rw [hSplit] at ih
        have hOther : sep ≠ c := by
          rintro rfl
          simp at hSep
        rcases List.mem_cons.mp hPart with rfl | hRest
        · have hFirst := ih first (by simp)
          simp [hOther, hFirst]
        · exact ih part (by simp [hRest])

namespace Pointer

/- No part between slashes contains a slash. -/
theorem not_mem_of_mem_slashParts
    {text part : String}
    (hPart : part ∈ slashParts text) :
    '/' ∉ part.toList := by
  rcases List.mem_map.mp hPart with ⟨cs, hMem, rfl⟩
  rw [String.toList_ofList]
  exact not_mem_of_mem_splitOn '/' _ cs hMem

/- The parts of a text that was written with slashes. -/
theorem slashParts_intercalate
    (parts : List String)
    (hParts : parts ≠ [])
    (hPlain : ∀ part ∈ parts, '/' ∉ part.toList) :
    slashParts (String.intercalate "/" parts) = parts := by
  have hLists : ∀ cs ∈ parts.map String.toList, '/' ∉ cs := by
    intro cs hMem
    rcases List.mem_map.mp hMem with ⟨part, hPart, rfl⟩
    exact hPlain part hPart
  have hText :
      (String.intercalate "/" parts).toList =
        ['/'].intercalate (parts.map String.toList) := by
    simp
  rw [slashParts, hText,
    List.splitOn_intercalate '/' hLists (by simpa using hParts)]
  simp

end Pointer

namespace Path

------------------------------------------------------------
-- Normal Lists of Components
------------------------------------------------------------

/- The component is a name or `..`, and is read from its text. -/
def Component.Plain
    (c : Component) : Prop :=
  ofPart c.text = some c ∧ '/' ∉ c.text.toList

/- Neither the root nor idle, after a root or not. -/
def NormalComponents : List Component → Prop
  | .root :: rest => ∀ c ∈ rest, c.Plain
  | cs => ∀ c ∈ cs, c.Plain

/- A path that is written from a normal list of components. -/
def Normal
    (p : Path) : Prop :=
  ∃ cs, NormalComponents cs ∧ p = ofComponents cs

/- The root is not plain. -/
theorem not_plain_root : ¬ Component.Plain .root := by
  rintro ⟨hRead, _⟩
  simp [ofPart, Component.text] at hRead

/- A normal list is plain, or plain behind a root. -/
theorem normalComponents_cases
    {cs : List Component}
    (hNormal : NormalComponents cs) :
    (∃ rest, cs = .root :: rest ∧ ∀ c ∈ rest, c.Plain) ∨
      ∀ c ∈ cs, c.Plain := by
  cases cs with
  | nil => exact Or.inr hNormal
  | cons c rest =>
      cases c with
      | root => exact Or.inl ⟨rest, rfl, hNormal⟩
      | current => exact Or.inr hNormal
      | parent => exact Or.inr hNormal
      | name text => exact Or.inr hNormal

/- A plain list is normal. -/
theorem normalComponents_of_plain
    {cs : List Component}
    (hPlain : ∀ c ∈ cs, c.Plain) :
    NormalComponents cs := by
  cases cs with
  | nil => exact hPlain
  | cons c rest =>
      cases c with
      | root => exact absurd (hPlain .root (by simp)) not_plain_root
      | current => exact hPlain
      | parent => exact hPlain
      | name text => exact hPlain

/- Plain components are read from their texts. -/
theorem filterMap_ofPart_text
    {cs : List Component}
    (hPlain : ∀ c ∈ cs, c.Plain) :
    (cs.map Component.text).filterMap ofPart = cs := by
  induction cs with
  | nil => rfl
  | cons c rest ih =>
      rw [List.map_cons, List.filterMap_cons,
        (hPlain c (by simp)).1,
        ih (fun d hd => hPlain d (by simp [hd]))]

/- The texts of plain components contain no slash. -/
theorem not_mem_text
    {cs : List Component}
    (hPlain : ∀ c ∈ cs, c.Plain) :
    ∀ part ∈ cs.map Component.text, '/' ∉ part.toList := by
  intro part hPart
  rcases List.mem_map.mp hPart with ⟨c, hMem, rfl⟩
  exact (hPlain c hMem).2

/- The text of a plain component is neither empty nor a point. -/
theorem text_ne_of_plain
    {c : Component}
    (hPlain : c.Plain) :
    c.text ≠ "" ∧ c.text ≠ "." := by
  constructor <;> intro hText <;>
    simp [Component.Plain, hText, ofPart] at hPlain

------------------------------------------------------------
-- Writing and Reading
------------------------------------------------------------

/- A path that starts with a slash has the parts of what follows. -/
theorem slashParts_slash
    (text : String) :
    Pointer.slashParts ("/" ++ text) =
      "" :: Pointer.slashParts text := by
  have hText : ("/" ++ text).toList = '/' :: text.toList := by simp
  have hSplit :=
    List.splitOn_append_cons_self (a := '/') [] text.toList
  rw [List.nil_append, List.splitOn_nil] at hSplit
  simp [Pointer.slashParts, hText, hSplit]

/- Reading a path that was written from normal components. -/
theorem components_ofComponents
    {cs : List Component}
    (hNormal : NormalComponents cs) :
    (ofComponents cs).components = cs := by
  rcases normalComponents_cases hNormal with
    ⟨rest, rfl, hPlain⟩ | hPlain
  · have hRead := filterMap_ofPart_text hPlain
    unfold components ofComponents
    simp only [slashParts_slash]
    cases rest with
    | nil => decide
    | cons c more =>
        rw [Pointer.slashParts_intercalate _ (by simp)
          (not_mem_text hPlain)]
        simp only [List.map_cons]
        rw [← List.map_cons, List.filterMap_cons, hRead]
        simp [ofPart]
  · cases cs with
    | nil => decide
    | cons c more =>
        have hRead := filterMap_ofPart_text hPlain
        have hFirst := text_ne_of_plain (hPlain c (by simp))
        have hText :
            ofComponents (c :: more) =
              ⟨String.intercalate "/"
                ((c :: more).map Component.text)⟩ := by
          cases c with
          | root =>
              exact absurd (hPlain .root (by simp)) not_plain_root
          | current => rfl
          | parent => rfl
          | name text => rfl
        rw [hText]
        unfold components
        simp only [Pointer.slashParts_intercalate
          ((c :: more).map Component.text) (by simp)
          (not_mem_text hPlain)]
        rw [List.map_cons] at hRead ⊢
        split
        case h_1 hParts => simp_all
        case h_2 hParts => simp_all
        case h_3 => exact hRead

------------------------------------------------------------
-- Normalization
------------------------------------------------------------

/- What a part stands for is plain. -/
theorem plain_of_ofPart
    {part : String}
    {c : Component}
    (hRead : ofPart part = some c)
    (hSlash : '/' ∉ part.toList) :
    c.Plain := by
  unfold ofPart at hRead
  split at hRead
  case isTrue => cases hRead
  case isFalse hIdle =>
    split at hRead
    case isTrue => cases hRead; exact ⟨by decide, by decide⟩
    case isFalse hParent =>
      cases hRead
      exact ⟨by simp [Component.text, ofPart, hIdle, hParent],
        hSlash⟩

/- A normalizing step keeps a list normal. -/
theorem normalComponents_step
    {done : List Component}
    {c : Component}
    (hDone : NormalComponents done)
    (hStep : c.Plain ∨ c = .current) :
    NormalComponents (normalizeStep done c) := by
  have hAppend :
      ∀ d : Component, d.Plain → NormalComponents (done ++ [d]) := by
    intro d hPlain
    rcases normalComponents_cases hDone with
      ⟨rest, rfl, hRest⟩ | hRest
    · intro e he
      rcases List.mem_append.mp he with hOld | hNew
      · exact hRest e hOld
      · rw [List.mem_singleton.mp hNew]
        exact hPlain
    · apply normalComponents_of_plain
      intro e he
      rcases List.mem_append.mp he with hOld | hNew
      · exact hRest e hOld
      · rw [List.mem_singleton.mp hNew]
        exact hPlain
  have hDrop : NormalComponents done.dropLast := by
    rcases normalComponents_cases hDone with
      ⟨rest, rfl, hRest⟩ | hRest
    · cases rest with
      | nil => exact fun d hd => by cases hd
      | cons d more =>
          exact fun e he => hRest e (List.mem_of_mem_dropLast he)
    · exact normalComponents_of_plain
        (fun d hd => hRest d (List.mem_of_mem_dropLast hd))
  rcases hStep with hPlain | rfl
  · cases c with
    | root => exact absurd hPlain not_plain_root
    | current => exact hDone
    | parent =>
        unfold normalizeStep
        simp only
        split
        case h_1 => exact hDrop
        case h_2 => exact hAppend .parent hPlain
    | name text => exact hAppend (.name text) hPlain
  · exact hDone

/- Normalizing a normal start with plain or idle components. -/
theorem normalComponents_foldl
    {done cs : List Component}
    (hDone : NormalComponents done)
    (hSteps : ∀ c ∈ cs, c.Plain ∨ c = .current) :
    NormalComponents (cs.foldl normalizeStep done) := by
  induction cs generalizing done with
  | nil => exact hDone
  | cons c rest ih =>
      exact ih
        (normalComponents_step hDone (hSteps c (by simp)))
        (fun d hd => hSteps d (by simp [hd]))

/- Normalizing gives a normal list. -/
theorem normalComponents_normalize
    (p : Path) :
    NormalComponents (normalizeComponents p.components) := by
  have hParts :
      ∀ parts : List String,
        (∀ part ∈ parts, '/' ∉ part.toList) →
          ∀ c ∈ parts.filterMap ofPart, c.Plain ∨ c = .current := by
    intro parts hSlash c hMem
    rcases List.mem_filterMap.mp hMem with ⟨part, hPart, hRead⟩
    exact Or.inl (plain_of_ofPart hRead (hSlash part hPart))
  have hSlash :
      ∀ part ∈ Pointer.slashParts p.text, '/' ∉ part.toList :=
    fun part hPart => Pointer.not_mem_of_mem_slashParts hPart
  unfold normalizeComponents components
  split
  case h_1 =>
    rw [List.foldl_cons]
    exact normalComponents_foldl
      (fun c hc => by cases hc) (hParts _ hSlash)
  case h_2 rest hText =>
    apply normalComponents_foldl (fun c hc => by cases hc)
    intro c hMem
    rcases List.mem_cons.mp hMem with rfl | hRest
    · exact Or.inr rfl
    · exact hParts rest
        (fun part hPart => hSlash part (by rw [hText]; simp [hPart]))
        c hRest
  case h_3 =>
    exact normalComponents_foldl
      (fun c hc => by cases hc) (hParts _ hSlash)

/- The normal form of a path is normal. -/
theorem normal_normalize
    (p : Path) :
    p.normalize.Normal :=
  ⟨_, normalComponents_normalize p, rfl⟩

/- The normal form is read as it was normalized. -/
theorem components_normalize
    (p : Path) :
    p.normalize.components = normalizeComponents p.components :=
  components_ofComponents (normalComponents_normalize p)

/- A path that is seen from a working directory is normal. -/
theorem normal_absolutize
    (p workingDir : Path) :
    (p.absolutize workingDir).Normal := by
  unfold absolutize
  split
  case isTrue => exact normal_normalize p
  case isFalse => exact normal_normalize _

/- Two normal paths with the same components are the same path. -/
theorem Normal.eq_of_same
    {p q : Path}
    (hP : p.Normal)
    (hQ : q.Normal)
    (hSame : p.Same q) :
    p = q := by
  rcases hP with ⟨cs, hCs, rfl⟩
  rcases hQ with ⟨ds, hDs, rfl⟩
  unfold Same at hSame
  rw [components_ofComponents hCs, components_ofComponents hDs]
    at hSame
  rw [hSame]

end Path

end SchemaGraph
