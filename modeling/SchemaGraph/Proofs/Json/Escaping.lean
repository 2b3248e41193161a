import Mathlib
import SchemaGraph.Proofs.Json.Routes

/-
  Escaping takes segments to written segments, one to one.
  A segment is written by putting `~0` in place of every `~`
  and then `~1` in place of every `/`.  It is read by taking
  back the two replacements, the last one first: so `~01` is
  read as `~1`, and not as `/`.  What is written that way are
  the texts without a slash in which `0` or `1` follows every
  `~`.

  Hence names are known from the pointer that they lead
  along, and from the path of a violation there.

  Main declarations:
    * `Pointer.replaceAll`
    * `Pointer.Written`
    * `Pointer.escape_eq_replaceAll`
    * `Pointer.unescape_eq_replaceAll`
    * `Pointer.written_iff`
    * `Pointer.escape_exact`
-/

namespace SchemaGraph

namespace Pointer

------------------------------------------------------------
-- Replacements
------------------------------------------------------------

/-
  Put a text in place of every occurrence of a part that is
  not empty, from left to right.
-/
def replaceChars
    (part new : List Char) : List Char → List Char
  | [] => []
  | c :: cs =>
      if part.isPrefixOf (c :: cs) then
        new ++ replaceChars part new (cs.drop (part.length - 1))
      else
        c :: replaceChars part new cs
termination_by cs => cs.length
decreasing_by
  · simp only [List.length_drop, List.length_cons]
    omega
  · simp

/- Put a text in place of every occurrence of a part. -/
def replaceAll
    (part new text : String) : String :=
  String.ofList (replaceChars part.toList new.toList text.toList)

variable {part new cs rest : List Char}
variable {c : Char}

/- An occurrence at the start is replaced. -/
theorem replaceChars_append
    (hPart : part ≠ []) :
    replaceChars part new (part ++ rest) =
      new ++ replaceChars part new rest := by
  rcases List.exists_cons_of_ne_nil hPart with ⟨first, more, rfl⟩
  rw [List.cons_append, replaceChars, ← List.cons_append, if_pos]
  · simp
  · exact List.isPrefixOf_iff_prefix.mpr (List.prefix_append _ _)

/- A character that starts no occurrence stays. -/
theorem replaceChars_cons
    (hPart : ¬ part <+: c :: cs) :
    replaceChars part new (c :: cs) = c :: replaceChars part new cs := by
  rw [replaceChars, if_neg]
  rwa [List.isPrefixOf_iff_prefix]

/- A single character is replaced on its own. -/
theorem replaceChars_singleton
    (old : Char)
    (new cs : List Char) :
    replaceChars [old] new cs =
      cs.flatMap (fun c => if c = old then new else [c]) := by
  induction cs with
  | nil => rw [replaceChars]; rfl
  | cons c cs ih =>
      rw [List.flatMap_cons]
      by_cases hOld : c = old
      · subst hOld
        have hFirst :
            replaceChars [c] new (c :: cs) =
              new ++ replaceChars [c] new cs :=
          replaceChars_append (List.cons_ne_nil c [])
        rw [hFirst, ih, if_pos rfl]
      · have hOther : ¬ [old] <+: c :: cs := by
          rw [List.cons_prefix_cons]
          exact fun hSame => hOld hSame.1.symm
        rw [replaceChars_cons hOther, ih, if_neg hOld]
        rfl

------------------------------------------------------------
-- Writing and Reading as Replacements
------------------------------------------------------------

/- Every character is written on its own. -/
theorem escapeChars_cons
    (c : Char)
    (cs : List Char) :
    escapeChars (c :: cs) = escapeChar c ++ escapeChars cs :=
  List.flatMap_cons

/- First every `~` is replaced, then every `/`. -/
theorem escapeChars_eq_replaceChars
    (cs : List Char) :
    escapeChars cs =
      replaceChars ['/'] ['~', '1']
        (replaceChars ['~'] ['~', '0'] cs) := by
  rw [replaceChars_singleton, replaceChars_singleton,
    List.flatMap_assoc, escapeChars]
  apply List.flatMap_congr
  intro c _
  unfold escapeChar
  by_cases hTilde : c = '~'
  · simp [hTilde]
  · by_cases hSlash : c = '/'
    · simp [hSlash]
    · simp [hTilde, hSlash]

/- A segment is written by two replacements. -/
theorem escape_eq_replaceAll
    (segment : String) :
    escape segment =
      replaceAll "/" "~1" (replaceAll "~" "~0" segment) := by
  rw [escape, escapeChars_eq_replaceChars]
  simp [replaceAll]

/-
  Where slashes were put in, a digit is at the start only if
  it was there before.
-/
theorem head?_replaceChars_slash
    (hDigit :
      (replaceChars ['~', '1'] ['/'] cs).head? = some '0') :
    cs.head? = some '0' := by
  cases cs with
  | nil => simp [replaceChars] at hDigit
  | cons c rest =>
      by_cases hSlash : ['~', '1'] <+: c :: rest
      · rcases hSlash with ⟨more, hMore⟩
        rw [← hMore, replaceChars_append (by simp)] at hDigit
        simp at hDigit
      · rw [replaceChars_cons hSlash] at hDigit
        exact hDigit

/- Reading takes the replacements back, the last one first. -/
theorem unescapeChars_eq_replaceChars
    (cs : List Char) :
    unescapeChars cs =
      replaceChars ['~', '0'] ['~']
        (replaceChars ['~', '1'] ['/'] cs) := by
  -- What is read next: a `/`, a `~`, any other character, the end.
  induction cs using unescapeChars.induct with
  | case1 cs ih =>
      have hInner :
          replaceChars ['~', '1'] ['/'] ('~' :: '1' :: cs) =
            '/' :: replaceChars ['~', '1'] ['/'] cs :=
        replaceChars_append (List.cons_ne_nil _ _)
      rw [hInner, replaceChars_cons (by simp), ← ih, unescapeChars]
  | case2 cs ih =>
      have hInner :
          replaceChars ['~', '1'] ['/'] ('~' :: '0' :: cs) =
            ['~', '0'] ++ replaceChars ['~', '1'] ['/'] cs := by
        rw [replaceChars_cons (by simp), replaceChars_cons (by simp)]
        rfl
      rw [hInner, replaceChars_append (List.cons_ne_nil _ _), ← ih,
        unescapeChars]
      rfl
  | case3 c cs hNoSlash hNoTilde ih =>
      have hInner : ¬ ['~', '1'] <+: c :: cs := by
        rintro ⟨more, hMore⟩
        cases hMore
        exact hNoSlash more rfl rfl
      -- The first replacement brings no `0` behind a `~`.
      have hOuter :
          ¬ ['~', '0'] <+: c :: replaceChars ['~', '1'] ['/'] cs := by
        rintro ⟨more, hMore⟩
        rw [List.cons_append, List.cons.injEq] at hMore
        have hDigit : cs.head? = some '0' :=
          head?_replaceChars_slash (by rw [← hMore.2]; rfl)
        rcases List.head?_eq_some_iff.mp hDigit with ⟨after, rfl⟩
        exact hNoTilde after hMore.1.symm rfl
      rw [replaceChars_cons hInner, replaceChars_cons hOuter, ← ih,
        unescapeChars]
      · exact hNoSlash
      · exact hNoTilde
  | case4 => simp [unescapeChars, replaceChars]

/- A segment is read by two replacements. -/
theorem unescape_eq_replaceAll
    (text : String) :
    unescape text =
      replaceAll "~0" "~" (replaceAll "~1" "/" text) := by
  rw [unescape, unescapeChars_eq_replaceChars]
  simp [replaceAll]

/- The digit behind a `~` that was replaced makes no slash. -/
example : unescape "~01" = "~1" := by
  decide

------------------------------------------------------------
-- Written Segments
------------------------------------------------------------

/- There is no slash, and `0` or `1` follows every `~`. -/
def WrittenChars
    (cs : List Char) : Prop :=
  '/' ∉ cs ∧
    ∀ i, cs[i]? = some '~' →
      cs[i + 1]? = some '0' ∨ cs[i + 1]? = some '1'

/- A text that a segment can be written as. -/
def Written
    (text : String) : Prop :=
  WrittenChars text.toList

/- What follows the first character is written as well. -/
theorem WrittenChars.tail
    (hWritten : WrittenChars (c :: cs)) :
    WrittenChars cs := by
  rcases hWritten with ⟨hPlain, hMarked⟩
  refine ⟨fun hMem => hPlain (List.mem_cons_of_mem c hMem), ?_⟩
  intro i hTilde
  exact hMarked (i + 1) hTilde

/- A digit follows a `~` at the start. -/
theorem WrittenChars.digit
    (hWritten : WrittenChars ('~' :: cs)) :
    cs.head? = some '0' ∨ cs.head? = some '1' := by
  rw [List.head?_eq_getElem?]
  exact hWritten.2 0 rfl

/- Any other character may be put in front. -/
theorem WrittenChars.cons
    (hWritten : WrittenChars cs)
    (hSlash : c ≠ '/')
    (hTilde : c = '~' → cs.head? = some '0' ∨ cs.head? = some '1') :
    WrittenChars (c :: cs) := by
  rcases hWritten with ⟨hPlain, hMarked⟩
  refine ⟨by simp [hSlash.symm, hPlain], ?_⟩
  intro i hAt
  cases i with
  | zero =>
      rw [List.getElem?_cons_zero, Option.some.injEq] at hAt
      simpa [List.head?_eq_getElem?] using hTilde hAt
  | succ i => exact hMarked i hAt

/- A written segment is one. -/
theorem writtenChars_escapeChars
    (cs : List Char) :
    WrittenChars (escapeChars cs) := by
  induction cs with
  | nil => simp [WrittenChars, escapeChars]
  | cons c cs ih =>
      rw [escapeChars_cons, escapeChar]
      by_cases hTilde : c = '~'
      · rw [if_pos hTilde]
        exact (ih.cons (by decide) (by simp)).cons (by decide)
          (fun _ => Or.inl rfl)
      · by_cases hSlash : c = '/'
        · rw [if_neg hTilde, if_pos hSlash]
          exact (ih.cons (by decide) (by simp)).cons (by decide)
            (fun _ => Or.inr rfl)
        · rw [if_neg hTilde, if_neg hSlash]
          exact ih.cons hSlash (fun hSame => absurd hSame hTilde)

/- What was read from a written segment is written as it was. -/
theorem escapeChars_unescapeChars
    (hWritten : WrittenChars cs) :
    escapeChars (unescapeChars cs) = cs := by
  induction cs using unescapeChars.induct with
  | case1 cs ih =>
      rw [unescapeChars, escapeChars_cons, ih hWritten.tail.tail]
      rfl
  | case2 cs ih =>
      rw [unescapeChars, escapeChars_cons, ih hWritten.tail.tail]
      rfl
  | case3 c cs hNoSlash hNoTilde ih =>
      have hSlash : c ≠ '/' := by
        rintro rfl
        exact hWritten.1 List.mem_cons_self
      have hTilde : c ≠ '~' := by
        rintro rfl
        rcases hWritten.digit with hDigit | hDigit
        · rcases List.head?_eq_some_iff.mp hDigit with ⟨more, rfl⟩
          exact hNoTilde more rfl rfl
        · rcases List.head?_eq_some_iff.mp hDigit with ⟨more, rfl⟩
          exact hNoSlash more rfl rfl
      rw [unescapeChars, escapeChars_cons, ih hWritten.tail, escapeChar,
        if_neg hTilde, if_neg hSlash]
      · rfl
      · exact hNoSlash
      · exact hNoTilde
  | case4 => rfl

/- The written segments are what is written as it is read. -/
theorem written_iff
    {text : String} :
    Written text ↔ escape (unescape text) = text := by
  have hChars :
      (escape (unescape text)).toList =
        escapeChars (unescapeChars text.toList) := by
    simp [escape, unescape]
  rw [← String.toList_inj, hChars]
  constructor
  · exact escapeChars_unescapeChars
  · intro hSame
    rw [Written, ← hSame]
    exact writtenChars_escapeChars _

end Pointer

------------------------------------------------------------
-- Sequences of Names
------------------------------------------------------------

/- The names that lead to a member are added to the pointer. -/
theorem NodeKey.foldl_child
    (key : NodeKey)
    (names : List String) :
    names.foldl NodeKey.child key =
      ⟨key.doc, ⟨key.pointer.segments ++ names⟩⟩ := by
  induction names generalizing key with
  | nil => simp
  | cons name rest ih =>
      rw [List.foldl_cons, ih]
      simp [NodeKey.child, Pointer.child]

/- The path of a member continues with the pointer to it. -/
theorem Violation.foldl_memberPath
    (path : String)
    (names : List String) :
    names.foldl Violation.memberPath path =
      path ++ Pointer.text ⟨names⟩ := by
  induction names generalizing path with
  | nil => simp [Pointer.text]
  | cons name rest ih =>
      rw [List.foldl_cons, ih, Violation.memberPath_append_text]

/-
  Segments are written by putting `~0` in place of every `~`
  and then `~1` in place of every `/`, and read by taking
  this back in the opposite order.  What was written is read
  as it was, and has no slash.  The texts that are written as
  they are read are those without a slash in which `0` or `1`
  follows every `~`.  Hence names are known from the text of
  the pointer that they lead along, whichever pointer they
  start from, and from the path of a member behind any path.
-/
theorem Pointer.escape_exact :
    (∀ segment : String,
      escape segment =
          replaceAll "/" "~1" (replaceAll "~" "~0" segment) ∧
        unescape segment =
          replaceAll "~0" "~" (replaceAll "~1" "/" segment)) ∧
      (∀ segment : String,
        unescape (escape segment) = segment ∧
          '/' ∉ (escape segment).toList) ∧
      (∀ text : String,
        Written text ↔ escape (unescape text) = text) ∧
      (∀ (pointer : Pointer) (doc other : DocId)
          (names others : List String),
        (names.foldl NodeKey.child ⟨doc, pointer⟩).pointer.text =
            (others.foldl NodeKey.child
              ⟨other, pointer⟩).pointer.text ↔
          names = others) ∧
      ∀ (path : String) (names others : List String),
        names.foldl Violation.memberPath path =
            others.foldl Violation.memberPath path ↔
          names = others := by
  refine ⟨fun segment =>
      ⟨escape_eq_replaceAll segment, unescape_eq_replaceAll segment⟩,
    fun segment => ⟨unescape_escape segment, not_mem_escape segment⟩,
    fun text => written_iff, ?_, ?_⟩
  · intro pointer doc other names others
    simp only [NodeKey.foldl_child, text_inj, Pointer.mk.injEq,
      List.append_cancel_left_eq]
  · intro path names others
    simp only [Violation.foldl_memberPath, String.append_right_inj,
      text_inj, Pointer.mk.injEq]

end SchemaGraph
