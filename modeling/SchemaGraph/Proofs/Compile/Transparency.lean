import Mathlib
import SchemaGraph.Proofs.Check.Deferral
import SchemaGraph.Proofs.Compile.Resolve

/-
  What a finished compilation says about answers and
  references.  On present values every answer that was ever
  given for a node judges as the validator remembered for
  it, and a reference judges as its target, except that it
  may accept `null`.

  Absent values are another matter.  A validator that defers
  to the cell of a node never requires a value; apart from
  that, a value is required wherever the node requires it.

  Main declarations:
    * `Settled`
    * `Settled.sameOnPresent`
    * `Settled.check_reference`
    * `compile_transparent_on_present`
    * `State.Refers`
    * `compile_requires_iff`
-/

namespace SchemaGraph

variable {setting : Setting}
variable {source : Source}
variable {workingDir : Path}
variable {s : State}

------------------------------------------------------------
-- Finished Compilations
------------------------------------------------------------

/- Nothing is in progress any more. -/
structure Settled
    (setting : Setting)
    (source : Source)
    (s : State) : Prop where
  sound : Sound setting source s
  idle : s.progress = []

/- A compilation that succeeds ends settled, with its graph. -/
theorem settled_of_compileWith
    {schema : Compiled}
    {final : State}
    (hCompiled :
      compileWith setting workingDir source = ⟨.ok schema, final⟩) :
    Settled setting source final ∧ final.graph = schema.graph := by
  unfold compileWith compileWatched at hCompiled
  split at hCompiled
  case h_1 id t hSteps =>
    cases hCompiled
    rcases compileSteps_ok hSteps with ⟨doc, r, hRooted, hRun, _⟩
    refine ⟨⟨hRun.reaches.sound hRooted.sound, ?_⟩, rfl⟩
    rw [hRun.progress, hRooted.progress]
  case h_2 => cases hCompiled

/- A setting without other documents. -/
def Setting.alone : Setting :=
  ⟨{}, Loader.broken "", .expanding, 30⟩

/- Compile a schema that mentions no other document. -/
def compileAlone
    (schema : Json) : Compilation :=
  compileWith Setting.alone ⟨"/"⟩ (.value schema)

/- A compilation that succeeds has a schema. -/
theorem Compilation.exists_eq_of_isOk
    {c : Compilation}
    (hOk : c.result.isOk = true) :
    ∃ schema, c = ⟨.ok schema, c.final⟩ := by
  rcases c with ⟨result, final⟩
  cases result with
  | error e => cases hOk
  | ok schema => exact ⟨schema, rfl⟩

------------------------------------------------------------
-- Present Values
------------------------------------------------------------

/- The validator of a reply permits values. -/
theorem Reply.permits
    {key : NodeKey}
    {id : ValidatorId}
    (hReply : Reply setting s key id) :
    s.graph.Permits id := by
  rcases hReply with ⟨_, _, v, hOf⟩
  exact ⟨v, hOf.validator, hOf.permits⟩

/- Forwarding passes validators that permit values. -/
theorem Sound.permits_of_forwards
    {id next : ValidatorId}
    (hSound : Sound setting source s)
    (hId : s.graph.Permits id)
    (hPath : Relation.ReflTransGen s.graph.Forwards id next) :
    s.graph.Permits next := by
  cases hPath with
  | refl => exact hId
  | tail _ hStep =>
      rcases hStep with ⟨c, _, hContent⟩
      rcases hSound.celled.content c next hContent with
        ⟨key, _, hResolved⟩
      exact (hSound.truthful.replies key next hResolved).permits

/- What stands for a node permits values. -/
theorem Sound.permits_of_standsFor
    {key : NodeKey}
    {id : ValidatorId}
    (hSound : Sound setting source s)
    (hStands : s.StandsFor key id) :
    s.graph.Permits id := by
  rcases hStands with hResolved | ⟨c, _, hNode⟩
  · exact (hSound.truthful.replies key id hResolved).permits
  · exact ⟨_, hNode, by simp⟩

/-
  What stands for a node judges present values as the
  validator that is remembered.  If the cell of the node is
  empty, that validator leads back to it, and both accept
  everything.
-/
theorem Settled.sameOnPresent
    {key : NodeKey}
    {id : ValidatorId}
    (hSettled : Settled setting source s)
    (hStands : s.StandsFor key id) :
    ∃ held,
      s.resolved.lookup key = some held ∧
        s.graph.SameOnPresent id held := by
  have hSound := hSettled.sound
  have hPermits := hSound.permits_of_standsFor hStands
  rcases hStands with hResolved | ⟨c, hCell, hNode⟩
  · exact ⟨id, hResolved, Graph.SameOnPresent.refl s.graph id⟩
  · rcases hSound.celled.pending key c hCell with
      ⟨hOpen, _⟩ | ⟨held, hResolved, hHolds | ⟨hEmpty, hLeads⟩⟩
    · rw [hSettled.idle] at hOpen
      cases hOpen
    · exact ⟨held, hResolved,
        Graph.check_deferred hNode (by simp) hHolds⟩
    · have hHeld :=
        (hSound.truthful.replies key held hResolved).permits
      have hBack : s.graph.LeadsBack id c :=
        ⟨id, .refl, by simp [Graph.deferredCell?, hNode]⟩
      refine ⟨held, hResolved, ?_⟩
      intro now value path options
      rw [Graph.check_leadsBack hBack hEmpty
          (fun _ hPath => hSound.permits_of_forwards hPermits hPath),
        Graph.check_leadsBack hLeads hEmpty
          (fun _ hPath => hSound.permits_of_forwards hHeld hPath)]

------------------------------------------------------------
-- References
------------------------------------------------------------

/-
  Two validators judge present values alike, except that the
  first accepts `null` if that is wanted.
-/
def Graph.SameExceptNull
    (g : Graph)
    (wanted : Bool)
    (id other : ValidatorId) : Prop :=
  (wanted = true →
    ∀ now path options,
      g.check now id (some .null) path options =
        some (Verdict.accept .null)) ∧
    ∀ now value path options,
      value ≠ .null ∨ wanted = false →
        g.check now id (some value) path options =
          g.check now other (some value) path options

/-
  What is remembered for a reference is a copy of what
  stands for its target.
-/
theorem Sound.derives_of_reference
    {key : NodeKey}
    {node : Json}
    {text : String}
    {id : ValidatorId}
    (hSound : Sound setting source s)
    (hNode : s.node? key = some node)
    (hKind : classify node = .ok (.reference text))
    (hResolved : s.resolved.lookup key = some id) :
    ∃ target declared,
      Leads setting s key.doc text target ∧
        s.StandsFor target declared ∧
        s.graph.Derives (Validator.orNull (allowsNull node))
          declared id := by
  rcases (hSound.truthful.replies key id hResolved).of_kind hNode
    hKind with ⟨v, hOf⟩
  exact hOf.reference text rfl

/-
  A remembered reference node judges present values as the
  validator that is remembered for its target, but accepts
  `null` if it says so.
-/
theorem Settled.check_reference
    {key target : NodeKey}
    {node : Json}
    {text : String}
    {id : ValidatorId}
    (hSettled : Settled setting source s)
    (hNode : s.node? key = some node)
    (hKind : classify node = .ok (.reference text))
    (hResolved : s.resolved.lookup key = some id)
    (hLeads : Leads setting s key.doc text target) :
    ∃ held,
      s.resolved.lookup target = some held ∧
        s.graph.SameExceptNull (allowsNull node) id held := by
  rcases hSettled.sound.derives_of_reference hNode hKind hResolved
    with ⟨other, declared, hOther, hStands, hDerives⟩
  have hSame := hOther.unique hLeads
  subst hSame
  have hPermits := hSettled.sound.permits_of_standsFor hStands
  rcases hSettled.sameOnPresent hStands with ⟨held, hHeld, hAlike⟩
  refine ⟨held, hHeld, ?_, ?_⟩
  · intro hAllows now path options
    rw [hAllows] at hDerives
    exact Graph.check_orNull_null hDerives hPermits now path options
  · intro now value path options hOrdinary
    rw [Graph.check_orNull hDerives hPermits hOrdinary]
    exact hAlike now value path options

/-
  Deferring and remembering are invisible on present values.
  After a compilation that succeeds, every node that was ever
  asked for is remembered, and every validator that was
  answered for it, at whatever moment, judges present values
  as the remembered one.  A reference judges them as the
  validator remembered for the node that it is followed to,
  except for `null` where the reference allows it.
-/
theorem compile_transparent_on_present
    {schema : Compiled}
    {final : State}
    (hCompiled :
      compileWith setting workingDir source = ⟨.ok schema, final⟩) :
    (∀ key id,
      Event.answered key id ∈ final.history →
        ∃ held,
          final.resolved.lookup key = some held ∧
            schema.graph.SameOnPresent id held) ∧
      ∀ key node text id,
        final.node? key = some node →
          classify node = .ok (.reference text) →
            final.resolved.lookup key = some id →
              ∃ target held,
                (∃ t,
                  followReference setting text
                      { final with scope := [key.doc] } =
                    .ok target t) ∧
                  (∀ other,
                    Event.followed (some key.doc) text (some other) ∈
                        final.history →
                      other = target) ∧
                  final.resolved.lookup target = some held ∧
                  schema.graph.SameExceptNull (allowsNull node) id
                    held := by
  rcases settled_of_compileWith hCompiled with ⟨hSettled, hGraph⟩
  have hTruthful := hSettled.sound.truthful
  rw [← hGraph]
  constructor
  · intro key id hAnswered
    exact hSettled.sameOnPresent
      (hTruthful.answers key id (List.mem_reverse.mp hAnswered))
  · intro key node text id hNode hKind hResolved
    rcases hSettled.sound.derives_of_reference hNode hKind hResolved
      with ⟨target, _, hLeads, _, _⟩
    rcases hSettled.check_reference hNode hKind hResolved hLeads
      with ⟨held, hHeld, hCheck⟩
    rcases State.Present.stored ⟨node, hNode⟩ with ⟨d, hDoc⟩
    refine ⟨target, held, ?_, ?_, hHeld, hCheck⟩
    · exact hLeads.exists_followReference hDoc rfl rfl
    · intro other hFollowed
      exact
        (hTruthful.follows key.doc text other
          (List.mem_reverse.mp hFollowed)).2.unique hLeads

/- An object with a part that extends the object. -/
def Json.selfExtending : Json :=
  .object
    [("properties", .object
      [("again", .object
        [("$ref", .string "#"), ("allowNull", .bool true)]),
      ("part", .object
        [("extends", .object [("$ref", .string "#")]),
          ("type", .string "object")])]),
    ("type", .string "object")]

/-
  The part is asked for while it is in progress, and the
  deferring answer judges present values as the later one.
-/
theorem compile_transparent_on_present_selfExtending :
    ∃ schema,
      (compileAlone Json.selfExtending).result = .ok schema ∧
        schema.graph.SameOnPresent ⟨2⟩ ⟨3⟩ ∧
        schema.graph.SameExceptNull true ⟨1⟩ ⟨4⟩ := by
  let properties := (NodeKey.root ⟨0⟩).child "properties"
  let final := (compileAlone Json.selfExtending).final
  rcases Compilation.exists_eq_of_isOk
    (c := compileAlone Json.selfExtending) (by decide +kernel) with
    ⟨schema, hCompiled⟩
  rcases compile_transparent_on_present hCompiled with
    ⟨hAnswers, hReferences⟩
  refine ⟨schema, by rw [hCompiled], ?_, ?_⟩
  · have hAnswered :
        Event.answered (properties.child "part") ⟨2⟩ ∈
          final.history := by
      decide +kernel
    have hPart :
        final.resolved.lookup (properties.child "part") =
          some ⟨3⟩ := by
      decide +kernel
    rcases hAnswers _ _ hAnswered with ⟨held, hHeld, hSame⟩
    rw [hPart] at hHeld
    cases hHeld
    exact hSame
  · have hText :
        final.reference? (properties.child "again") = some "#" := by
      decide +kernel
    have hAllows :
        (final.node? (properties.child "again")).map allowsNull =
          some true := by
      decide +kernel
    have hAgain :
        final.resolved.lookup (properties.child "again") =
          some ⟨1⟩ := by
      decide +kernel
    have hFollowed :
        Event.followed (some ⟨0⟩) "#" (some (NodeKey.root ⟨0⟩)) ∈
          final.history := by
      decide +kernel
    have hRoot :
        final.resolved.lookup (NodeKey.root ⟨0⟩) = some ⟨4⟩ := by
      decide +kernel
    rcases State.reference?_eq_some_iff.mp hText with
      ⟨node, hNode, hKind⟩
    rcases hReferences _ node "#" ⟨1⟩ hNode hKind hAgain with
      ⟨target, held, _, hTarget, hHeld, hSame⟩
    rw [← hTarget _ hFollowed, hRoot] at hHeld
    cases hHeld
    rw [hNode] at hAllows
    rw [← Option.some.inj hAllows]
    exact hSame

------------------------------------------------------------
-- Absent Values
------------------------------------------------------------

/- The validator refuses an absent value as missing. -/
def Graph.Requires
    (g : Graph)
    (id : ValidatorId) : Prop :=
  ∀ now path options,
    g.check now id none path options =
      some (Verdict.refuse path .required)

/- A validator requires a value if its presence says so. -/
theorem Graph.requires_iff
    {g : Graph}
    {id : ValidatorId}
    {v : Validator}
    (hNode : g.node? id = some v) :
    g.Requires id ↔ v.presence = .required := by
  constructor
  · intro hRequires
    have hCheck := hRequires ⟨0, ⟨0, 0⟩⟩ "" {}
    rw [check_none hNode] at hCheck
    by_contra hPresence
    rw [if_neg hPresence] at hCheck
    cases hCheck
  · intro hPresence now path options
    rw [check_none hNode, if_pos hPresence]

/- A validator that defers to the cell of a node. -/
def State.DefersTo
    (s : State)
    (key : NodeKey)
    (id : ValidatorId) : Prop :=
  ∃ c,
    s.cells.lookup key = some c ∧ s.graph.deferredCell? id = some c

/-
  What stands for a node requires a value if the remembered
  validator does, unless it defers to the cell of the node.
-/
theorem Sound.requires_of_standsFor_iff
    {key : NodeKey}
    {id held : ValidatorId}
    (hSound : Sound setting source s)
    (hStands : s.StandsFor key id)
    (hHeld : s.resolved.lookup key = some held) :
    s.graph.Requires id ↔
      s.graph.Requires held ∧ ¬ s.DefersTo key id := by
  rcases hStands with hResolved | ⟨c, hCell, hNode⟩
  · rw [hHeld] at hResolved
    cases hResolved
    rcases hSound.truthful.replies key id hHeld with
      ⟨_, _, v, hOf⟩
    refine ⟨?_, And.left⟩
    intro hRequires
    refine ⟨hRequires, ?_⟩
    rintro ⟨c, _, hDefers⟩
    rcases Graph.deferredCell?_eq_some_iff.mp hDefers with
      ⟨w, hOther, hRule⟩
    rw [hOf.validator] at hOther
    cases hOther
    exact
      hOf.firm ((Graph.requires_iff hOf.validator).mp hRequires) c
        hRule
  · have hDefers : s.DefersTo key id :=
      ⟨c, hCell, Graph.deferredCell?_eq_some_iff.mpr
        ⟨_, hNode, rfl⟩⟩
    rw [Graph.requires_iff hNode]
    constructor
    · intro hPresence
      cases hPresence
    · rintro ⟨_, hFirm⟩
      exact absurd hDefers hFirm

/-
  A validator that refers to a node: one that was answered
  for it, or one that is remembered for a reference that was
  followed to it.
-/
inductive State.Refers
    (s : State)
    (target : NodeKey) : ValidatorId → Prop where
  | answered
      (id : ValidatorId)
      (hAnswered : Event.answered target id ∈ s.history) :
      Refers s target id
  | followed
      (key : NodeKey)
      (text : String)
      (id : ValidatorId)
      (hText : s.reference? key = some text)
      (hFollowed :
        Event.followed (some key.doc) text (some target) ∈
          s.history)
      (hResolved : s.resolved.lookup key = some id) :
      Refers s target id

/-
  A validator that refers to a node has the presence and the
  deferral of one that stands for it.
-/
theorem Sound.exists_standsFor_of_refers
    {target : NodeKey}
    {id : ValidatorId}
    (hSound : Sound setting source s)
    (hRefers : s.Refers target id) :
    ∃ declared,
      s.StandsFor target declared ∧
        (s.graph.Requires id ↔ s.graph.Requires declared) ∧
        (s.DefersTo target id ↔ s.DefersTo target declared) := by
  cases hRefers with
  | answered id hAnswered =>
      exact
        ⟨id,
          hSound.truthful.answers target id
            (List.mem_reverse.mp hAnswered),
          Iff.rfl, Iff.rfl⟩
  | followed key text id hText hFollowed hResolved =>
      rcases State.reference?_eq_some_iff.mp hText with
        ⟨node, hNode, hKind⟩
      rcases hSound.derives_of_reference hNode hKind hResolved with
        ⟨other, declared, hOther, hStands, hDerives⟩
      have hCells := hDerives.deferredCell?_eq (fun _ => rfl)
      rcases hDerives with ⟨v, hOld, hCopy⟩
      have hLeads :=
        (hSound.truthful.follows key.doc text target
          (List.mem_reverse.mp hFollowed)).2
      have hSame := hOther.unique hLeads
      subst hSame
      refine ⟨declared, hStands, ?_, ?_⟩
      · rw [Graph.requires_iff hOld, Graph.requires_iff hCopy]
        rfl
      · simp only [State.DefersTo, hCells]

/-
  When an absent value is required.  After a compilation
  that succeeds, a validator that refers to a node requires
  a value exactly if the validator remembered for the node
  does and the reference does not close a cycle.  So two
  references to a node that requires a value treat absent
  values alike exactly if both close a cycle or neither does.
-/
theorem compile_requires_iff
    {schema : Compiled}
    {final : State}
    {target : NodeKey}
    {held : ValidatorId}
    (hCompiled :
      compileWith setting workingDir source = ⟨.ok schema, final⟩)
    (hHeld : final.resolved.lookup target = some held) :
    (∀ id, final.Refers target id →
      (schema.graph.Requires id ↔
        schema.graph.Requires held ∧ ¬ final.DefersTo target id)) ∧
      ∀ first second,
        final.Refers target first → final.Refers target second →
          ((schema.graph.Requires first ↔
              schema.graph.Requires second) ↔
            (schema.graph.Requires held →
              (final.DefersTo target first ↔
                final.DefersTo target second))) := by
  rcases settled_of_compileWith hCompiled with ⟨hSettled, hGraph⟩
  rw [← hGraph]
  have hRefers :
      ∀ id, final.Refers target id →
        (final.graph.Requires id ↔
          final.graph.Requires held ∧
            ¬ final.DefersTo target id) := by
    intro id hId
    rcases hSettled.sound.exists_standsFor_of_refers hId with
      ⟨declared, hStands, hRequires, hDefers⟩
    rw [hRequires, hDefers]
    exact hSettled.sound.requires_of_standsFor_iff hStands hHeld
  refine ⟨hRefers, ?_⟩
  intro first second hFirst hSecond
  rw [hRefers first hFirst, hRefers second hSecond]
  tauto

/- A list whose rest is again a list, or a text at its end. -/
def Json.textChain : Json :=
  .object
    [("$ref", .string "#/definitions/chain"),
    ("definitions", .object
      [("chain", .object
        [("oneOf", .array
          [.object
            [("properties", .object
              [("next", .object
                [("$ref", .string "#/definitions/chain")])]),
            ("type", .string "object")],
          .object [("type", .string "string")]])])])]

/-
  The outer reference to the chain requires a value, as the
  chain does; the inner one closes a cycle and does not.
-/
theorem compile_requires_iff_textChain :
    ∃ schema,
      (compileAlone Json.textChain).result = .ok schema ∧
        schema.graph.Requires ⟨3⟩ ∧ ¬ schema.graph.Requires ⟨0⟩ := by
  let chain := ((NodeKey.root ⟨0⟩).child "definitions").child "chain"
  let next :=
    ((((chain.child "oneOf").index 0).child "properties").child
      "next")
  let final := (compileAlone Json.textChain).final
  rcases Compilation.exists_eq_of_isOk
    (c := compileAlone Json.textChain) (by decide +kernel) with
    ⟨schema, hCompiled⟩
  have hHeld : final.resolved.lookup chain = some ⟨3⟩ := by
    decide +kernel
  rcases compile_requires_iff hCompiled hHeld with ⟨hRequires, _⟩
  have hInner : final.Refers chain ⟨0⟩ :=
    .followed next "#/definitions/chain" ⟨0⟩ (by decide +kernel)
      (by decide +kernel) (by decide +kernel)
  have hDefers : final.DefersTo chain ⟨0⟩ :=
    ⟨⟨0⟩, by decide +kernel, by decide +kernel⟩
  have hPresence :
      (final.graph.node? ⟨3⟩).map Validator.presence =
        some .required := by
    decide +kernel
  rcases Option.map_eq_some_iff.mp hPresence with
    ⟨v, hNode, hRequired⟩
  have hGraph : final.graph = schema.graph :=
    (settled_of_compileWith hCompiled).2
  rw [hGraph] at hNode
  refine ⟨schema, by rw [hCompiled], ?_, ?_⟩
  · exact (Graph.requires_iff hNode).mpr hRequired
  · rw [hRequires ⟨0⟩ hInner]
    exact fun h => h.2 hDefers

end SchemaGraph
