import Mathlib
import SchemaGraph.Proofs.Compile.Transparency

/-
  References that start with `#` stay in the document that
  they are written in.  The registry is asked for them, too,
  under the names `#` and the empty one, so this holds where
  no document is registered under these two names.

  Main declarations:
    * `IsLocal`
    * `Options.Unmarked`
    * `knownDocument?_of_isLocal`
    * `Leads.doc_eq_of_isLocal`
    * `Lineage.staysLocal`
    * `Step.keepsLocal`
    * `compile_local_reference`
-/

namespace SchemaGraph

variable {setting : Setting}
variable {source : Source}
variable {workingDir : Path}
variable {s t : State}
variable {doc : DocId}
variable {reference : String}

------------------------------------------------------------
-- Local References
------------------------------------------------------------

/- The reference starts with `#`. -/
def IsLocal
    (reference : String) : Prop :=
  reference.toList.head? = some '#'

instance
    (reference : String) :
    Decidable (IsLocal reference) :=
  inferInstanceAs
    (Decidable (reference.toList.head? = some '#'))

/- No document is registered under `#` or the empty name. -/
def Options.Unmarked
    (options : Options) : Prop :=
  options.subSchema? "#" = none ∧ options.subSchema? "" = none

/- All of a local reference but its `#` is its pointer. -/
theorem splitReference_of_isLocal
    (hLocal : IsLocal reference) :
    (splitReference reference).1 = "#" := by
  unfold IsLocal at hLocal
  cases hText : reference.toList with
  | nil =>
      rw [hText] at hLocal
      cases hLocal
  | cons c rest =>
      rw [hText] at hLocal
      cases hLocal
      simp [splitReference, hText]

/- These are the names that the registry is asked for. -/
theorem registeredName?_mark_eq_none_iff
    {options : Options} :
    registeredName? options "#" = none ↔ options.Unmarked := by
  have hBare : withoutMark "#" = "" := by decide +kernel
  simp [registeredName?, registryName?, hBare, Options.Unmarked]

/- A local reference means its own document, which is known. -/
theorem knownDocument?_of_isLocal
    (hUnmarked : setting.options.Unmarked)
    (hLocal : IsLocal reference)
    (store : Store) :
    knownDocument? setting store doc reference = some doc := by
  simp only [knownDocument?, splitReference_of_isLocal hLocal,
    registeredName?_mark_eq_none_iff.mpr hUnmarked, filePath?,
    if_true]

/- The node that a pointer leads to is one of the document. -/
theorem doc_eq_of_targetIn
    {pointer : Option String}
    {target : NodeKey}
    (hTarget : targetIn s doc pointer = some target) :
    target.doc = doc := by
  cases pointer with
  | none =>
      cases hTarget
      rfl
  | some text =>
      rcases Option.bind_eq_some_iff.mp hTarget with ⟨d, _, hWalk⟩
      rcases Option.map_eq_some_iff.mp hWalk with ⟨p, _, rfl⟩
      rfl

/- A local reference leads into its own document. -/
theorem Leads.doc_eq_of_isLocal
    {target : NodeKey}
    (hLeads : Leads setting s doc reference target)
    (hUnmarked : setting.options.Unmarked)
    (hLocal : IsLocal reference) :
    target.doc = doc := by
  rcases hLeads with ⟨found, hKnown, hTarget⟩
  rw [knownDocument?_of_isLocal hUnmarked hLocal] at hKnown
  cases hKnown
  exact doc_eq_of_targetIn hTarget

/-
  Followed with its document on top of the scope, a local
  reference means the node of the document that its pointer
  leads to.
-/
theorem followReference_run_of_isLocal
    (hUnmarked : setting.options.Unmarked)
    (hLocal : IsLocal reference)
    (hScope : s.scope.head? = some doc) :
    ∃ t,
      StoreGrows setting s.store t.store ∧
        followReference setting reference s =
          match targetIn t doc (splitReference reference).2 with
          | some target =>
              .ok target
                (t.note
                  (.followed (some doc) reference (some target)))
          | none =>
              .error (.referenceNotFound reference)
                (t.note (.followed (some doc) reference none)) := by
  rcases followReference_run setting reference hScope with
    ⟨found, t, hLocated, hSteps⟩
  have hFound : found = doc := by
    have hKnown := hLocated.isKnown
    rw [knownDocument?_of_isLocal hUnmarked hLocal] at hKnown
    exact (Option.some.inj hKnown).symm
  subst hFound
  exact ⟨t, hLocated.grows, hSteps⟩

/-
  Followed with its document on top of the scope, a local
  reference ends in the document, or nowhere.
-/
theorem followReference_of_isLocal
    (hUnmarked : setting.options.Unmarked)
    (hLocal : IsLocal reference)
    (hScope : s.scope.head? = some doc) :
    (∃ target t,
        followReference setting reference s = .ok target t ∧
          target.doc = doc) ∨
      ∃ t,
        followReference setting reference s =
          .error (.referenceNotFound reference) t := by
  rcases followReference_run_of_isLocal hUnmarked hLocal hScope with
    ⟨t, _, hSteps⟩
  cases hTarget : targetIn t doc (splitReference reference).2 with
  | some target =>
      rw [hTarget] at hSteps
      exact Or.inl ⟨target, _, hSteps, doc_eq_of_targetIn hTarget⟩
  | none =>
      rw [hTarget] at hSteps
      exact Or.inr ⟨_, hSteps⟩

/-
  In a document, whatever is below it in the scope, a local
  reference ends in the document, or nowhere.
-/
theorem inDocument_followReference_of_isLocal
    (hUnmarked : setting.options.Unmarked)
    (hLocal : IsLocal reference)
    (s : State)
    (doc : DocId) :
    (∃ target t,
        inDocument doc (followReference setting reference) s =
            .ok target t ∧
          target.doc = doc) ∨
      ∃ t,
        inDocument doc (followReference setting reference) s =
          .error (.referenceNotFound reference) t := by
  unfold inDocument
  by_cases hScope : s.scope.head? = some doc
  · rw [if_pos hScope]
    exact followReference_of_isLocal hUnmarked hLocal hScope
  · rw [if_neg hScope]
    rcases followReference_of_isLocal
      (s := { s with scope := doc :: s.scope }) hUnmarked hLocal rfl
      with ⟨target, t, hSteps, hDoc⟩ | ⟨t, hSteps⟩
    · rw [hSteps]
      exact Or.inl ⟨target, _, rfl, hDoc⟩
    · rw [hSteps]
      exact Or.inr ⟨_, rfl⟩

------------------------------------------------------------
-- Links
------------------------------------------------------------

/-
  From one ancestor to the next, local links lead to a node
  of the document that the link is written in.
-/
def StaysLocal
    (s : State) : NodeKey → List Level → Prop
  | _, [] => True
  | key, ancestor :: above =>
      (∀ reference,
        linkReference? s (key.child "extends") =
            some (.string reference) →
          IsLocal reference →
            ancestor.key.doc = key.doc) ∧
        StaysLocal s ancestor.key above

/- Chains of ancestors follow local links in their documents. -/
theorem Lineage.staysLocal
    {key : NodeKey}
    {visited : List NodeKey}
    {ancestors : List Level}
    (hLineage : Lineage setting s key visited ancestors)
    (hUnmarked : setting.options.Unmarked) :
    StaysLocal s key ancestors := by
  induction hLineage with
  | stop => trivial
  | again => trivial
  | climb key ancestor visited above reference hLink hLeads _ _ _
      ih =>
      refine ⟨?_, ih⟩
      intro other hOther hLocal
      rw [hLink] at hOther
      cases hOther
      exact hLeads.doc_eq_of_isLocal hUnmarked hLocal

------------------------------------------------------------
-- Runs
------------------------------------------------------------

/-
  Every local reference that was followed is written in the
  document that was on top of the scope, and it was followed
  to a node of this document, if to any.
-/
def State.KeepsLocal
    (s : State) : Prop :=
  ∀ scope reference target,
    Event.followed scope reference target ∈ s.journal →
      IsLocal reference →
        ∃ doc,
          scope = some doc ∧
            s.Writes doc reference ∧
            ∀ key, target = some key → key.doc = doc

/- What is written stays written. -/
theorem State.Writes.mono
    (hWrites : s.Writes doc reference)
    (hGrows : Grows setting s t) :
    t.Writes doc reference := by
  rcases hWrites with ⟨key, node, hDoc, hNode, hText⟩
  exact ⟨key, node, hDoc, hGrows.node? hNode, hText⟩

/- Without a new reference nothing has to be kept anew. -/
theorem State.KeepsLocal.mono
    (hKeeps : s.KeepsLocal)
    (hGrows : Grows setting s t)
    (hJournal :
      ∀ scope reference target,
        Event.followed scope reference target ∈ t.journal →
          Event.followed scope reference target ∈ s.journal) :
    t.KeepsLocal := by
  intro scope reference target hMem hLocal
  rcases hKeeps scope reference target (hJournal _ _ _ hMem) hLocal
    with ⟨doc, hScope, hWrites, hTarget⟩
  exact ⟨doc, hScope, hWrites.mono hGrows, hTarget⟩

/- Every step follows local references in their documents. -/
theorem Step.keepsLocal
    (hStep : Step setting s t)
    (hUnmarked : setting.options.Unmarked)
    (hKeeps : s.KeepsLocal) :
    t.KeepsLocal := by
  have hGrows := hStep.grows
  cases hStep with
  | followed doc found d reference _ _ hWrites hKnown =>
      intro scope other target hMem hLocal
      rcases List.mem_cons.mp hMem with hNew | hOld
      · cases hNew
        rw [knownDocument?_of_isLocal hUnmarked hLocal] at hKnown
        cases hKnown
        exact ⟨doc, rfl, hWrites.mono hGrows,
          fun key hTarget => doc_eq_of_targetIn hTarget⟩
      · rcases hKeeps scope other target hOld hLocal with
          ⟨own, hScope, hOther, hTarget⟩
        exact ⟨own, hScope, hOther.mono hGrows, hTarget⟩
  | _ =>
      -- No other step follows a reference.
      apply hKeeps.mono hGrows
      intro scope reference target hMem
      simpa [State.note] using hMem

/- Steps follow local references in their documents. -/
theorem Reaches.keepsLocal
    (hReaches : Reaches setting s t)
    (hUnmarked : setting.options.Unmarked)
    (hKeeps : s.KeepsLocal) :
    t.KeepsLocal := by
  induction hReaches with
  | refl => exact hKeeps
  | tail _ hStep ih => exact hStep.keepsLocal hUnmarked ih

/-
  A compilation ends where storing the document of its source
  fails, or in a state that steps from the stored document
  lead to, but for the stacks.
-/
theorem compileWith_cases
    (setting : Setting)
    (workingDir : Path)
    (source : Source) :
    let final := (compileWith setting workingDir source).final
    (∃ e,
      loadRoot setting workingDir source State.initial =
        .error e final) ∨
      ∃ doc r u earlier,
        loadRoot setting workingDir source State.initial =
            .ok doc r ∧
          Rooted setting source doc r ∧
          Reaches setting r u ∧
          final = State.unwound earlier u := by
  have hRoot := loadRoot_outcome setting workingDir source
  unfold compileWith compileWatched compileSteps
  cases hLoad : loadRoot setting workingDir source State.initial with
  | error e r =>
      rw [bind_of_error hLoad]
      exact Or.inl ⟨e, rfl⟩
  | ok doc r =>
      rw [hLoad] at hRoot
      rw [bind_of_ok hLoad]
      have hRooted : Rooted setting source doc r := hRoot
      have hEnsures :=
        resolveWithin_resolves setting Watch.never source
          (setting.budget + 1) (NodeKey.root doc) r hRooted.roomy
          hRooted.asks hRooted.present
      right
      cases hRun :
          resolveWithin setting Watch.never (setting.budget + 1)
            (NodeKey.root doc) r with
      | error e t =>
          rcases hEnsures.error hRun with ⟨u, hReaches, _, hLast⟩
          exact ⟨doc, r, u, r, rfl, hRooted, hReaches, hLast⟩
      | ok id t =>
          exact ⟨doc, r, t, t, rfl, hRooted,
            (hEnsures.ok hRun).1.reaches, rfl⟩

/-
  A compilation ends without having followed anything, or in
  a state that steps from the stored root lead to, but for
  the stacks.
-/
theorem compileWith_final
    (setting : Setting)
    (workingDir : Path)
    (source : Source) :
    let final := (compileWith setting workingDir source).final
    (final.resolved = [] ∧ final.Unfollowed) ∨
      ∃ doc r u earlier,
        Rooted setting source doc r ∧
          Reaches setting r u ∧
          final = State.unwound earlier u := by
  have hRoot := loadRoot_outcome setting workingDir source
  rcases compileWith_cases setting workingDir source with
    ⟨e, hLoad⟩ | ⟨doc, r, u, earlier, _, hSteps⟩
  · rw [hLoad] at hRoot
    exact Or.inl hRoot.2.2
  · exact Or.inr ⟨doc, r, u, earlier, hSteps⟩

/- Other stacks change neither nodes nor what is known of them. -/
theorem State.grows_unwound
    (setting : Setting)
    (earlier u : State) :
    Grows setting u (earlier.unwound u) :=
  .of_same rfl rfl rfl rfl (List.suffix_refl _)

/-
  In the last state of a compilation, local references were
  followed in their documents, and what is remembered of a
  node is a reply for it.
-/
theorem compileWith_keepsLocal
    (hUnmarked : setting.options.Unmarked)
    (workingDir : Path)
    (source : Source) :
    let final := (compileWith setting workingDir source).final
    final.KeepsLocal ∧
      ∀ key id, final.resolved.lookup key = some id →
        Reply setting final key id := by
  intro final
  rcases compileWith_final setting workingDir source with
    ⟨hNothing, hUnfollowed⟩ |
      ⟨doc, r, u, earlier, hRooted, hReaches, hUnwound⟩
  · constructor
    · intro scope reference target hMem
      exact absurd hMem (hUnfollowed scope reference target)
    · intro key id hResolved
      rw [show final.resolved = [] from hNothing] at hResolved
      cases hResolved
  · have hFinal : final = earlier.unwound u := hUnwound
    have hGrows := State.grows_unwound setting earlier u
    rw [← hFinal] at hGrows
    have hStart : r.KeepsLocal := by
      intro scope reference target hMem
      exact absurd hMem (hRooted.unfollowed scope reference target)
    have hSound := Reaches.sound hReaches hRooted.sound
    have hResolved : final.resolved = u.resolved := by
      rw [hFinal]
      rfl
    have hJournal : final.journal = u.journal := by
      rw [hFinal]
      rfl
    constructor
    · apply (hReaches.keepsLocal hUnmarked hStart).mono hGrows
      intro scope reference target hMem
      rw [← hJournal]
      exact hMem
    · intro key id hHeld
      rw [hResolved] at hHeld
      exact (hSound.truthful.replies key id hHeld).mono hGrows

/-
  Local references stay local, unless a document is
  registered under `#` or the empty name.

  In a document, whatever is below it in the scope, such a
  reference ends in the document or is not found.  All that
  a compilation follows, also one that fails, is followed in
  the document that it is written in.  So a reference node
  stands for a node of its own document, and the ancestors
  of an object are reached from one to the next within the
  document of the link, where the link is local.
-/
theorem compile_local_reference
    (hUnmarked : setting.options.Unmarked)
    (workingDir : Path)
    (source : Source) :
    let final := (compileWith setting workingDir source).final
    (∀ reference, IsLocal reference →
      ∀ s doc,
        (∃ target t,
            inDocument doc (followReference setting reference) s =
                .ok target t ∧
              target.doc = doc) ∨
          ∃ t,
            inDocument doc (followReference setting reference) s =
              .error (.referenceNotFound reference) t) ∧
      final.KeepsLocal ∧
      (∀ key id text,
        final.resolved.lookup key = some id →
          final.reference? key = some text →
            IsLocal text →
              ∃ target declared wanted,
                final.Cites setting key target ∧
                  target.doc = key.doc ∧
                  final.StandsFor target declared ∧
                  final.graph.Derives (Validator.orNull wanted)
                    declared id) ∧
      ∀ key id node,
        final.resolved.lookup key = some id →
          final.node? key = some node →
            classify node = .ok (.typed (.string "object")) →
              ∃ v rule ancestors,
                final.graph.node? id = some v ∧
                  v.rule = .object rule ∧
                  Lineage setting final key [key] ancestors ∧
                  StaysLocal final key ancestors ∧
                  ∀ properties, rule.properties = some properties →
                    Provides final
                      (provision? ⟨key, node⟩ ancestors)
                      properties := by
  intro final
  rcases compileWith_keepsLocal hUnmarked workingDir source with
    ⟨hKeeps, hReplies⟩
  refine ⟨?_, hKeeps, ?_, ?_⟩
  · intro reference hLocal s doc
    exact inDocument_followReference_of_isLocal hUnmarked hLocal s
      doc
  · intro key id text hResolved hText hLocal
    rcases hReplies key id hResolved with ⟨node, kind, v, hReply⟩
    have hKind : kind = .reference text := by
      rcases State.reference?_eq_some_iff.mp hText with
        ⟨other, hNode, hOther⟩
      rw [hReply.found] at hNode
      cases hNode
      rw [hReply.classified] at hOther
      cases hOther
      rfl
    rcases hReply.reference text hKind with
      ⟨target, declared, hLeads, hStands, hDerives⟩
    exact ⟨target, declared, _, ⟨text, hText, hLeads⟩,
      hLeads.doc_eq_of_isLocal hUnmarked hLocal, hStands, hDerives⟩
  · intro key id node hResolved hNode hKind
    rcases hReplies key id hResolved with ⟨other, kind, v, hReply⟩
    have hSame := hReply.found
    rw [hNode] at hSame
    cases hSame
    have hObject := hReply.classified
    rw [hKind] at hObject
    cases hObject
    rcases hReply.object rfl with ⟨rule, hRule, hMerged⟩
    have hProvided := hMerged
    rcases hMerged with ⟨ancestors, hLineage, _⟩
    exact ⟨v, rule, ancestors, hReply.validator, hRule, hLineage,
      hLineage.staysLocal hUnmarked,
      (hProvided.of_lineage hLineage).2⟩

------------------------------------------------------------
-- Two Documents
------------------------------------------------------------

/- A document with a local reference and a local link. -/
def Json.withLocals : Json :=
  .object
    [("base", .object
      [("properties", .object [("known", .object [])])]),
    ("flag", .object [("type", .string "boolean")]),
    ("linking", .object
      [("extends", .object [("$ref", .string "#/base")]),
      ("type", .string "object")]),
    ("referring", .object [("$ref", .string "#/flag")])]

/- A schema that uses the document and has a flag of its own. -/
def Json.usingLocals : Json :=
  .object
    [("flag", .object [("type", .string "string")]),
    ("properties", .object
      [("first", .object [("$ref", .string "locals#/referring")]),
      ("second", .object [("$ref", .string "locals#/linking")])]),
    ("type", .string "object")]

/- The document is registered under a name. -/
def Setting.withLocals : Setting :=
  { Setting.alone with
    options :=
      { subSchemas := [("locals", Json.withLocals)] } }

/-
  The reference and the link of the registered document are
  followed within it, and not in the schema that uses it.
-/
theorem compile_local_reference_withLocals :
    let final :=
      (compileWith Setting.withLocals ⟨"/"⟩
        (.value Json.usingLocals)).final
    let locals := NodeKey.root ⟨1⟩
    Event.followed (some ⟨1⟩) "#/flag" (some (locals.child "flag")) ∈
        final.journal ∧
      Event.followed (some ⟨1⟩) "#/base"
          (some (locals.child "base")) ∈
        final.journal ∧
      final.Writes ⟨1⟩ "#/flag" ∧
      final.Writes ⟨1⟩ "#/base" ∧
      ∃ target,
        final.Cites Setting.withLocals (locals.child "referring")
            target ∧
          target.doc = ⟨1⟩ := by
  intro final locals
  have hUnmarked : Setting.withLocals.options.Unmarked :=
    ⟨rfl, rfl⟩
  rcases compile_local_reference hUnmarked ⟨"/"⟩
    (.value Json.usingLocals) with ⟨_, hKeeps, hReferences, _⟩
  have hFlag :
      Event.followed (some ⟨1⟩) "#/flag"
          (some (locals.child "flag")) ∈
        final.journal := by
    decide +kernel
  have hBase :
      Event.followed (some ⟨1⟩) "#/base"
          (some (locals.child "base")) ∈
        final.journal := by
    decide +kernel
  have hText :
      final.reference? (locals.child "referring") =
        some "#/flag" := by
    decide +kernel
  have hResolved :
      (final.resolved.lookup (locals.child "referring")).isSome := by
    decide +kernel
  rcases Option.isSome_iff_exists.mp hResolved with ⟨id, hHeld⟩
  rcases hKeeps _ _ _ hFlag (by decide +kernel) with
    ⟨doc, hDoc, hWritesFlag, _⟩
  cases hDoc
  rcases hKeeps _ _ _ hBase (by decide +kernel) with
    ⟨doc, hDoc, hWritesBase, _⟩
  cases hDoc
  rcases hReferences _ id _ hHeld hText (by decide +kernel) with
    ⟨target, _, _, hCites, hSame, _, _⟩
  exact ⟨hFlag, hBase, hWritesFlag, hWritesBase, target, hCites,
    hSame⟩

end SchemaGraph
