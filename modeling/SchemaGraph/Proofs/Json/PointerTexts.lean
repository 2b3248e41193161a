import Mathlib
import SchemaGraph.Violation
import SchemaGraph.Proofs.Json.Positions
import SchemaGraph.Proofs.Path.Normal

/-
  Written pointers lead where they were written for.  A name
  that was escaped is read as itself, whatever characters it
  is made of, and an escaped name has no slash, so that the
  parts of a text are its segments again.

  The paths of violations are such texts: a member and an
  item each add one segment.

  Main declarations:
    * `Pointer.unescape_escape`
    * `Pointer.slashParts_text`
    * `Pointer.ofText?_text`
    * `Json.findText?_text`
    * `Violation.memberPath_append_text`
    * `Violation.itemPath_append_text`
-/

namespace SchemaGraph

namespace Pointer

------------------------------------------------------------
-- Segments
------------------------------------------------------------

/- What was escaped is read as it was. -/
theorem unescapeChars_escapeChars
    (cs : List Char) :
    unescapeChars (escapeChars cs) = cs := by
  induction cs with
  | nil => rfl
  | cons c rest ih =>
      rw [escapeChars, List.flatMap_cons, escapeChar]
      rw [escapeChars] at ih
      by_cases hTilde : c = '~'
      · simp [hTilde, unescapeChars, ih]
      · by_cases hSlash : c = '/'
        · simp [hSlash, unescapeChars, ih]
        · simp [hTilde, hSlash, unescapeChars, ih]

/- A written segment is read as it was. -/
@[simp] theorem unescape_escape
    (segment : String) :
    unescape (escape segment) = segment := by
  simp [unescape, escape, unescapeChars_escapeChars]

/- There is no slash in a written segment. -/
theorem not_mem_escape
    (segment : String) :
    '/' ∉ (escape segment).toList := by
  rw [escape, String.toList_ofList, escapeChars, List.mem_flatMap]
  rintro ⟨c, _, hMem⟩
  rw [escapeChar] at hMem
  split at hMem
  case isTrue => simp at hMem
  case isFalse =>
    split at hMem
    case isTrue => simp at hMem
    case isFalse hSlash =>
      exact hSlash (List.mem_singleton.mp hMem).symm

/- Nothing in an index is escaped. -/
@[simp] theorem escape_indexSegment
    (i : Nat) :
    escape (indexSegment i) = indexSegment i := by
  have hPlain : ∀ c ∈ Nat.toDigits 10 i, escapeChar c = [c] := by
    intro c hMem
    have hDigit : c.isDigit = true :=
      Nat.isDigit_of_mem_toDigits (by omega) (by omega) hMem
    have hTilde : c ≠ '~' := by
      rintro rfl
      exact absurd hDigit (by decide)
    have hSlash : c ≠ '/' := by
      rintro rfl
      exact absurd hDigit (by decide)
    simp [escapeChar, hTilde, hSlash]
  rw [escape, indexSegment, String.toList_ofList, escapeChars,
    List.flatMap_congr hPlain, List.flatMap_singleton']

------------------------------------------------------------
-- Pointers
------------------------------------------------------------

/- The text of a pointer, segment by segment. -/
theorem text_cons
    (segment : String)
    (rest : List String) :
    text ⟨segment :: rest⟩ = "/" ++ escape segment ++ text ⟨rest⟩ := by
  simp [text]

/- A pointer is written with a slash before every segment. -/
theorem text_eq_intercalate
    (p : Pointer) :
    p.text = String.intercalate "/" ("" :: p.segments.map escape) := by
  rcases p with ⟨segments⟩
  rw [← String.toList_inj]
  induction segments with
  | nil => rfl
  | cons segment rest ih =>
      rw [text_cons]
      cases rest with
      | nil => simp [text]
      | cons next more =>
          simp_all

/- The parts of a written pointer are its segments. -/
theorem slashParts_text
    (p : Pointer) :
    slashParts p.text = "" :: p.segments.map escape := by
  rw [text_eq_intercalate]
  apply slashParts_intercalate _ (by simp)
  intro part hPart
  rcases List.mem_cons.mp hPart with rfl | hSegment
  · simp
  · rcases List.mem_map.mp hSegment with ⟨segment, _, rfl⟩
    exact not_mem_escape segment

/- A written pointer is read as it was. -/
@[simp] theorem ofText?_text
    (p : Pointer) :
    ofText? p.text = some p := by
  rcases p with ⟨segments⟩
  rw [ofText?, slashParts_text]
  cases segments with
  | nil => rfl
  | cons segment rest => simp [Function.comp_def]

end Pointer

/- A written pointer leads where the pointer leads. -/
@[simp] theorem Json.findText?_text
    (value : Json)
    (p : Pointer) :
    value.findText? p.text = value.find? p := by
  simp [findText?]

------------------------------------------------------------
-- Paths of Violations
------------------------------------------------------------

namespace Violation

/- The path of a member, continued by a pointer. -/
theorem memberPath_append_text
    (path name : String)
    (rest : List String) :
    memberPath path name ++ Pointer.text ⟨rest⟩ =
      path ++ Pointer.text ⟨name :: rest⟩ := by
  simp [memberPath, Pointer.text_cons, String.append_assoc]

/- The path of an item, continued by a pointer. -/
theorem itemPath_append_text
    (path : String)
    (i : Nat)
    (rest : List String) :
    itemPath path i ++ Pointer.text ⟨rest⟩ =
      path ++ Pointer.text ⟨Pointer.indexSegment i :: rest⟩ := by
  simp [itemPath, Pointer.text_cons, String.append_assoc]

/- The path of a member is the pointer to it. -/
theorem memberPath_text
    (p : Pointer)
    (name : String) :
    memberPath p.text name = (p.child name).text := by
  simp [memberPath, Pointer.text, Pointer.child, String.append_assoc]

end Violation

end SchemaGraph
