import Mathlib
import SchemaGraph.Proofs.Compile.Congruence
import SchemaGraph.Proofs.Inheritance.Merge

/-
  Compiling nodes by their kinds.  Given a way to compile
  the nodes inside a node, a node of every kind compiles to
  a validator that mentions validators of the graph only and
  is what the node asks for.

  Main declarations:
    * `resolveBranches_ensures`
    * `resolveParts_ensures`
    * `typeRule_ensures`
    * `resolveReference_ensures`
    * `resolveKind_ensures`
-/

namespace SchemaGraph

variable {setting : Setting}
variable {watch : Watch}
variable {source : Source}
variable {s t : State}
variable {n : Nat}
variable {resolve : Resolver}
variable {key : NodeKey}
variable {node : Json}

------------------------------------------------------------
-- Validators of the Graph
------------------------------------------------------------

/- All validators of a list are in the graph. -/
def Graph.Contains
    (g : Graph)
    (ids : List ValidatorId) : Prop :=
  ∀ id ∈ ids, id.index < g.size

/- What the graph contains, a grown graph contains. -/
theorem Graph.Contains.mono
    {g h : Graph}
    {ids : List ValidatorId}
    (hContains : g.Contains ids)
    (hGrows : g.Extends h) :
    h.Contains ids :=
  fun id hMem => hGrows.lt_size (hContains id hMem)

/- A list is contained when its parts are. -/
theorem Graph.Contains.append
    {g : Graph}
    {ids more : List ValidatorId}
    (hIds : g.Contains ids)
    (hMore : g.Contains more) :
    g.Contains (ids ++ more) := by
  intro id hMem
  rcases List.mem_append.mp hMem with hFirst | hSecond
  · exact hIds id hFirst
  · exact hMore id hSecond

/- Compiling a node of another one gives what stands for it. -/
theorem Resolves.standsFor
    (hResolve : Resolves setting watch source n resolve)
    (hPoised : Poised setting source n s)
    (hPresent : s.Present key) :
    Ensures setting watch source s (resolve key)
      (fun id t => t.StandsFor key id) :=
  hResolve key s hPoised.toRoomy (hPoised.asks key) hPresent

/- Compiling one node, as far as its validator's place matters. -/
theorem Resolves.contains
    (hResolve : Resolves setting watch source n resolve)
    (hPoised : Poised setting source n s)
    (hPresent : s.Present key) :
    Ensures setting watch source s (resolve key)
      (fun id t => t.graph.Contains [id]) := by
  refine (hResolve.standsFor hPoised hPresent).mono ?_
  intro id t hRun hStands other hMem
  rw [List.mem_singleton.mp hMem]
  exact (hPoised.of_run hRun).sound.lt_size_of_standsFor hStands

------------------------------------------------------------
-- Branches
------------------------------------------------------------

/- Compiling the items of a list. -/
theorem resolveBranches_ensures
    {list : NodeKey}
    {start : Nat}
    {items : List Json}
    (hResolve : Resolves setting watch source n resolve)
    (hPoised : Poised setting source n s)
    (hItems :
      ∀ i, i < items.length → s.Present (list.index (start + i))) :
    Ensures setting watch source s
      (resolveBranches resolve list start items)
      (fun ids t => t.graph.Contains ids) := by
  induction items generalizing start s with
  | nil =>
      exact Ensures.pure (fun id hMem => by cases hMem)
  | cons item rest ih =>
      rw [resolveBranches]
      refine Ensures.bind
        (hResolve.contains hPoised (hItems 0 (by simp))) ?_
      intro id r hRun hId
      refine Ensures.bind (ih (hPoised.of_run hRun) ?_) ?_
      · intro i hLt
        have hNext := hItems (i + 1) (by simpa using hLt)
        rw [Nat.add_comm i 1, ← Nat.add_assoc] at hNext
        exact hRun.grows.present hNext
      · intro ids t hMore hIds
        exact Ensures.pure
          ((hId.mono hMore.grows.graph).append hIds)

/- Compiling one side of a condition. -/
theorem resolveSide_ensures
    (side : String)
    (hResolve : Resolves setting watch source n resolve)
    (hPoised : Poised setting source n s)
    (hNode : s.node? key = some node) :
    Ensures setting watch source s (resolveSide resolve key node side)
      (fun id t =>
        Option.Rel t.StandsFor (Slot.side? ⟨key, node⟩ side) id) := by
  unfold resolveSide Slot.side?
  cases hSide : node.keyword? side with
  | none => exact Ensures.pure .none
  | some value =>
      refine Ensures.bind (hResolve.standsFor hPoised
        (State.Present.member hNode
          (Json.member?_of_keyword? hSide))) ?_
      intro id t _ hId
      exact Ensures.pure (.some hId)

/- Compiling one part of an intersection. -/
theorem resolvePart_ensures
    (hResolve : Resolves setting watch source n resolve)
    (hPoised : Poised setting source n s)
    (hNode : s.node? key = some node) :
    Ensures setting watch source s (resolvePart resolve key node)
      (fun part t => t.PartFor ⟨key, node⟩ part) := by
  unfold resolvePart
  split
  case isTrue hTrue =>
    have hConditional := isConditional_iff.mp hTrue
    rcases Option.ne_none_iff_exists'.mp hConditional.1 with
      ⟨value, hIf⟩
    refine Ensures.bind (hResolve.standsFor hPoised
      (State.Present.member hNode
        (Json.member?_of_keyword? hIf))) ?_
    intro test r hRun hTest
    refine Ensures.bind
      (resolveSide_ensures "then" hResolve (hPoised.of_run hRun)
        (hRun.grows.node? hNode)) ?_
    intro pass q hMore hPass
    have hBoth := hRun.trans hMore
    refine Ensures.bind
      (resolveSide_ensures "else" hResolve (hPoised.of_run hBoth)
        (hBoth.grows.node? hNode)) ?_
    intro fail t hLast hFail
    exact Ensures.pure
      (.conditional test pass fail hConditional
        (hTest.mono (hMore.trans hLast).grows)
        (hLast.grows.side hPass) hFail)
  case isFalse hFalse =>
    refine Ensures.bind
      (hResolve.standsFor hPoised ⟨node, hNode⟩) ?_
    intro id t _ hId
    exact Ensures.pure
      (.schema id (fun h => hFalse (isConditional_iff.mpr h)) hId)

/- Compiling the parts of an intersection. -/
theorem resolveParts_ensures
    {list : NodeKey}
    {start : Nat}
    {items : List Json}
    (hResolve : Resolves setting watch source n resolve)
    (hPoised : Poised setting source n s)
    (hItems :
      ∀ i item, items[i]? = some item →
        s.node? (list.index (start + i)) = some item) :
    Ensures setting watch source s
      (resolveParts resolve list start items)
      (fun parts t =>
        List.Forall₂ t.PartFor (list.slotsFrom start items)
          parts) := by
  induction items generalizing start s with
  | nil => exact Ensures.pure .nil
  | cons item rest ih =>
      rw [resolveParts, NodeKey.slotsFrom_cons]
      refine Ensures.bind
        (resolvePart_ensures hResolve hPoised
          (hItems 0 item rfl)) ?_
      intro part r hRun hPart
      refine Ensures.bind (ih (hPoised.of_run hRun) ?_) ?_
      · intro i other hOther
        have hNext := hItems (i + 1) other (by simpa using hOther)
        rw [Nat.add_comm i 1, ← Nat.add_assoc] at hNext
        exact hRun.grows.node? hNext
      · intro parts t hMore hParts
        exact Ensures.pure (.cons (hPart.mono hMore.grows) hParts)

/- What stands for a side is in the graph. -/
theorem Sound.contains_of_side
    {key? : Option NodeKey}
    {id? : Option ValidatorId}
    (hSound : Sound setting source s)
    (hSide : Option.Rel s.StandsFor key? id?) :
    s.graph.Contains id?.toList := by
  intro id hMem
  cases hSide with
  | none => cases hMem
  | some hStands =>
      rw [List.mem_singleton.mp hMem]
      exact hSound.lt_size_of_standsFor hStands

/- The parts of slots mention validators of the graph. -/
theorem Sound.contains_of_parts
    {slots : List Slot}
    {parts : List Branch}
    (hSound : Sound setting source s)
    (hParts : List.Forall₂ s.PartFor slots parts) :
    s.graph.Contains (parts.flatMap Branch.references) := by
  induction hParts with
  | nil => exact fun id hMem => by cases hMem
  | cons hPart _ ih =>
      refine Graph.Contains.append ?_ ih
      cases hPart with
      | schema id _ hStands =>
          intro other hMem
          rw [List.mem_singleton.mp hMem]
          exact hSound.lt_size_of_standsFor hStands
      | conditional test pass fail _ hTest hPass hFail =>
          have hTestId : s.graph.Contains [test] := by
            intro other hMem
            rw [List.mem_singleton.mp hMem]
            exact hSound.lt_size_of_standsFor hTest
          exact (hTestId.append (hSound.contains_of_side hPass)).append
            (hSound.contains_of_side hFail)

------------------------------------------------------------
-- Rules
------------------------------------------------------------

/- The rule mentions no validators. -/
def Rule.Plain : Rule → Prop
  | .object _ => False
  | .array _ => False
  | .alternatives _ => False
  | .all _ => False
  | .deferred _ => False
  | .custom _ => False
  | _ => True

/- What compiling the type of a node ends with. -/
structure Formed
    (setting : Setting)
    (t : State)
    (key : NodeKey)
    (node type : Json)
    (rule : Rule) : Prop where
  below : t.graph.MentionsBelow t.graph.size rule
  fits : rule.Fits setting.options
  solid : ∀ c, rule ≠ .deferred c
  object :
    type = .string "object" →
      ∃ form, rule = .object form ∧
        Merged setting t ⟨key, node⟩ form.properties

/- A rule that mentions no validators. -/
theorem Formed.of_plain
    {type : Json}
    {rule : Rule}
    (hPlain : rule.Plain)
    (hType : type ≠ .string "object") :
    Formed setting t key node type rule := by
  refine ⟨?_, ?_, ?_, fun hObject => absurd hObject hType⟩
  · cases rule <;>
      first
      | exact hPlain.elim
      | exact fun id hMem => by cases hMem
  · apply Rule.fits_of_ne
    · rintro form rfl
      exact hPlain
    · rintro custom rfl
      exact hPlain
  · rintro c rfl
    exact hPlain

/- The rule of a string node mentions no validators. -/
theorem plain_of_stringRule
    {engine : Pattern.Engine}
    {rule : Rule}
    (hRule : stringRule engine node = .ok rule) :
    rule.Plain := by
  unfold stringRule at hRule
  split at hRule
  case h_1 =>
    cases hRule
    trivial
  case h_2 =>
    simp only [bind, Except.bind, pure, Except.pure] at hRule
    split at hRule
    case isTrue =>
      split at hRule
      case h_1 => cases hRule
      case h_2 =>
        split at hRule
        case h_1 => cases hRule
        case h_2 => cases hRule; trivial
    case isFalse =>
      split at hRule
      case isTrue =>
        split at hRule
        case h_1 => cases hRule
        case h_2 =>
          split at hRule
          case h_1 => cases hRule
          case h_2 => cases hRule; trivial
      case isFalse =>
        split at hRule
        case isTrue =>
          split at hRule
          case h_1 => cases hRule
          case h_2 =>
            split at hRule
            case h_1 => cases hRule
            case h_2 => cases hRule; trivial
        case isFalse =>
          cases hPlain : plainStringRule engine node with
          | error fault =>
              rw [hPlain] at hRule
              cases hRule
          | ok form =>
              rw [hPlain] at hRule
              cases hRule
              trivial

/- The counts of an array node are read after its items. -/
theorem arrayCounts_ensures
    {items : Option ValidatorId}
    (hNode : s.node? key = some node)
    (hItems : s.graph.Contains items.toList) :
    Ensures setting watch source s (arrayCounts key node items)
      (fun rule t =>
        Formed setting t key node (.string "array") rule) := by
  have hPresent : s.Present key := ⟨node, hNode⟩
  refine Ensures.bind (orFault_ensures _ hPresent) ?_
  rintro minItems _ _ ⟨rfl, _⟩
  refine Ensures.bind (orFault_ensures _ hPresent) ?_
  rintro maxItems _ _ ⟨rfl, _⟩
  refine Ensures.pure
    ⟨hItems, Rule.fits_of_ne (by simp) (by simp), ?_, ?_⟩
  · intro c hRule
    cases hRule
  · intro hType
    simp at hType

/- Compiling an array node. -/
theorem arrayRule_ensures
    (hResolve : Resolves setting watch source n resolve)
    (hPoised : Poised setting source n s)
    (hNode : s.node? key = some node) :
    Ensures setting watch source s (arrayRule resolve key node)
      (fun rule t =>
        Formed setting t key node (.string "array") rule) := by
  unfold arrayRule
  split
  case h_1 =>
    exact arrayCounts_ensures hNode (fun id hMem => by cases hMem)
  case h_2 =>
    exact arrayCounts_ensures hNode (fun id hMem => by cases hMem)
  case h_3 value hOther hMember =>
    refine Ensures.bind (hResolve.contains hPoised
      (State.Present.member hNode hMember)) ?_
    intro id t hRun hId
    exact arrayCounts_ensures (hRun.grows.node? hNode) hId

/- Compiling what an object node does with undeclared keys. -/
theorem unknownKeys_ensures
    (hResolve : Resolves setting watch source n resolve)
    (hPoised : Poised setting source n s)
    (hNode : s.node? key = some node) :
    Ensures setting watch source s (unknownKeys resolve key node)
      (fun unknown t =>
        ∀ id, unknown = .schema id → id.index < t.graph.size) := by
  unfold unknownKeys
  split
  case h_1 =>
    exact Ensures.pure (fun id hUnknown => by cases hUnknown)
  case h_2 members hMember =>
    refine Ensures.bind (hResolve.contains hPoised
      (State.Present.member hNode hMember)) ?_
    intro id t _ hId
    apply Ensures.pure
    intro other hUnknown
    cases hUnknown
    exact hId id (by simp)
  case h_3 =>
    split
    case isTrue =>
      exact Ensures.pure (fun id hUnknown => by cases hUnknown)
    case isFalse =>
      exact Ensures.pure (fun id hUnknown => by cases hUnknown)

/- Merged properties have validators of the graph. -/
theorem Merged.contains
    {own : Level}
    {properties : Option PropertyMap}
    (hMerged : Merged setting s own properties) :
    s.graph.Contains ((properties.getD []).map (fun e => e.2)) := by
  rcases hMerged with ⟨ancestors, _, hProperties⟩
  cases properties with
  | none =>
      intro id hMem
      cases hMem
  | some properties =>
      rcases hProperties with ⟨_, hProvides⟩
      intro id hMem
      rcases List.mem_map.mp hMem with ⟨entry, hEntry, rfl⟩
      exact hProvides.holds entry.1 entry.2
        (Members.lookup_of_mem hProvides.sorted hEntry)

/- Merged properties are in order. -/
theorem Merged.sorted
    {own : Level}
    {properties : PropertyMap}
    (hMerged : Merged setting s own (some properties)) :
    Members.Sorted properties := by
  rcases hMerged with ⟨_, _, _, hProvides⟩
  exact hProvides.sorted

/- Compiling an object node. -/
theorem objectRule_ensures
    (hResolve : Resolves setting watch source n resolve)
    (hPoised : Poised setting source n s)
    (hNode : s.node? key = some node) :
    Ensures setting watch source s
      (objectRule setting watch resolve key node)
      (fun rule t =>
        Formed setting t key node (.string "object") rule) := by
  unfold objectRule
  refine Ensures.bind
    (mergeProperties_ensures hResolve hPoised hNode) ?_
  intro properties r hRun hMerged
  have hHere := hRun.grows.node? hNode
  refine Ensures.bind
    (unknownKeys_ensures hResolve (hPoised.of_run hRun) hHere) ?_
  intro unknown t hMore hUnknown
  have hPresent : t.Present key := ⟨node, hMore.grows.node? hHere⟩
  have hMergedNow := hMerged.mono hMore.grows ⟨node, hHere⟩
  refine Ensures.bind (orFault_ensures _ hPresent) ?_
  rintro minProperties _ _ ⟨rfl, _⟩
  refine Ensures.bind (orFault_ensures _ hPresent) ?_
  rintro maxProperties _ _ ⟨rfl, _⟩
  refine Ensures.pure ⟨?_, ?_, ?_, ?_⟩
  · apply hMergedNow.contains.append
    cases unknown with
    | schema id =>
        intro other hMem
        rw [List.mem_singleton.mp hMem]
        exact hUnknown id rfl
    | reject => exact fun id hMem => by cases hMem
    | ignore => exact fun id hMem => by cases hMem
    | allow => exact fun id hMem => by cases hMem
  · constructor
    · rintro found rfl
      exact hMergedNow.sorted
    · intro custom hRule
      cases hRule
  · intro c hRule
    cases hRule
  · intro _
    exact ⟨_, rfl, hMergedNow⟩

/- Compiling the type of a node. -/
theorem typeRule_ensures
    {type : Json}
    (hResolve : Resolves setting watch source n resolve)
    (hPoised : s.Opened key → Poised setting source n s)
    (hNode : s.node? key = some node)
    (hType : node.member? "type" = some type) :
    Ensures setting watch source s
      (typeRule setting watch resolve key node type)
      (fun rule t => Formed setting t key node type rule) := by
  -- A node whose type is a text is opened.
  have hOpened :
      ∀ text, type = .string text → Poised setting source n s := by
    rintro text rfl
    exact hPoised ⟨node, "type", _, hNode, hType, rfl⟩
  unfold typeRule
  split
  case h_1 => exact arrayRule_ensures hResolve (hOpened _ rfl) hNode
  case h_2 =>
    exact Ensures.pure (.of_plain trivial (by simp))
  case h_3 =>
    exact Ensures.pure (.of_plain trivial (by simp))
  case h_4 =>
    exact Ensures.pure (.of_plain trivial (by simp))
  case h_5 =>
    exact objectRule_ensures hResolve (hOpened _ rfl) hNode
  case h_6 =>
    refine (orFault_ensures _ ⟨node, hNode⟩).mono ?_
    rintro rule _ _ ⟨rfl, hRule⟩
    exact .of_plain (plain_of_stringRule hRule) (by simp)
  case h_7 =>
    refine Ensures.pure ⟨?_, ?_, ?_, ?_⟩
    · intro id hMem
      cases hMem
    · constructor
      · intro properties hNone
        cases hNone
      · intro custom hRule
        cases hRule
    · intro c hRule
      cases hRule
    · intro hObject
      simp at hObject
  case h_8 hArray hBoolean hInteger hNumber hObject _ _ =>
    unfold customRule
    split
    case h_1 custom hLookup =>
      refine Ensures.pure ⟨?_, ?_, ?_, fun hText =>
        absurd hText hObject⟩
      · intro id hMem
        cases hMem
      · constructor
        · trivial
        · rintro _ ⟨⟩
          exact ⟨_, hLookup⟩
      · intro c hRule
        cases hRule
    case h_2 => exact Ensures.throw trivial

------------------------------------------------------------
-- References
------------------------------------------------------------

/-
  What stands for a node does not forbid values, and does
  not defer when it requires one.
-/
theorem Sound.firm_of_standsFor
    {id : ValidatorId}
    (hSound : Sound setting source s)
    (hStands : s.StandsFor key id) :
    ∃ v, s.graph.node? id = some v ∧
      v.presence ≠ .forbidden ∧
      (v.presence = .required → ∀ c, v.rule ≠ .deferred c) := by
  rcases hStands with hResolved | ⟨c, _, hNode⟩
  · rcases hSound.truthful.replies key id hResolved with
      ⟨_, _, v, hOf⟩
    exact ⟨v, hOf.validator, hOf.permits, hOf.firm⟩
  · refine ⟨_, hNode, ?_, ?_⟩
    · intro hPresence
      cases hPresence
    · intro hPresence
      cases hPresence

/- Accepting `null`, too, if the node wants it. -/
theorem orNull_ensures
    {id : ValidatorId}
    (wanted : Bool)
    (hId : id.index < s.graph.size) :
    Ensures setting watch source s
      (if wanted then allowNull id else return id)
      (fun copy t =>
        t.graph.Derives (Validator.orNull wanted) id copy) := by
  cases wanted with
  | true => exact allowNull_ensures hId
  | false =>
      apply Ensures.pure
      rcases Graph.exists_node?_of_lt hId with ⟨v, hNode⟩
      exact ⟨v, hNode, by rwa [Validator.orNull_false]⟩

/- The validator of a reference, once its target is answered. -/
theorem replyOf_reference
    {text : String}
    {target : NodeKey}
    {declared id : ValidatorId}
    (hSound : Sound setting source s)
    (hNode : s.node? key = some node)
    (hKind : classify node = .ok (.reference text))
    (hLeads : Leads setting s key.doc text target)
    (hStands : s.StandsFor target declared)
    (hDerives :
      s.graph.Derives (Validator.orNull (allowsNull node))
        declared id) :
    Reply setting s key id := by
  rcases hSound.firm_of_standsFor hStands with
    ⟨v, hDeclared, hPermits, hFirm⟩
  have hCopy := hDerives
  rcases hCopy with ⟨w, hSame, hChanged⟩
  rw [hDeclared] at hSame
  cases hSame
  refine ⟨node, .reference text, _, hNode, hKind, hChanged,
    hPermits, hFirm, Or.inl ⟨text, rfl⟩, ?_, ?_, ?_⟩
  · intro other hText
    cases hText
    exact ⟨target, declared, hLeads, hStands, hDerives⟩
  · intro hObject
    cases hObject
  · intro entries hEntries
    cases hEntries

/- Compiling a reference node. -/
theorem resolveReference_ensures
    {text : String}
    (hResolve : Resolves setting watch source n resolve)
    (hRoomy : Roomy setting source n s)
    (hNode : s.node? key = some node)
    (hKind : classify node = .ok (.reference text))
    (hScope : s.scope.head? = some key.doc)
    (hTop : s.progress.head? = some key) :
    Ensures setting watch source s
      (resolveReference setting watch resolve key node text)
      (fun id t => Reply setting t key id) := by
  have hWritten : node.member? "$ref" = some (.string text) :=
    writtenIn_of_classify hKind
  unfold resolveReference
  refine Ensures.bind
    (followWatched_ensures ⟨node, hNode⟩ hScope
      ⟨key, node, rfl, hNode, hWritten⟩) ?_
  rintro target r hRun ⟨hLeads, hTarget⟩
  unfold referTo
  have hReady := hRoomy.of_run hRun
  have hHere := hRun.grows.node? hNode
  -- The target is asked for by the reference on top.
  have hAsks : r.Asks setting target := by
    intro top hTopNow _
    rw [hRun.progress, hTop] at hTopNow
    cases hTopNow
    exact
      ⟨text, State.reference?_eq_some_iff.mpr ⟨node, hHere, hKind⟩,
        hLeads⟩
  -- Whatever stands for the target makes the reply.
  have hRest :
      ∀ declared q, Run setting r q → q.StandsFor target declared →
        Ensures setting watch source q (nullable node declared)
          (fun id t => Reply setting t key id) := by
    intro declared q hMore hStands
    have hSound := (hReady.of_run hMore).sound
    refine (orNull_ensures (allowsNull node)
      (hSound.lt_size_of_standsFor hStands)).mono ?_
    intro id t hLast hDerives
    have hGrown := (hMore.trans hLast).grows
    exact replyOf_reference
      (Reaches.sound hLast.reaches hSound)
      (hGrown.node? hHere) hKind
      (hGrown.leads ⟨node, hHere⟩ hLeads)
      (hStands.mono hLast.grows) hDerives
  apply Ensures.get
  by_cases hProgress : target ∈ r.progress
  · simp only [if_pos hProgress]
    exact (deferTo_ensures hReady.sound.celled hAsks
      hProgress).bind hRest
  · simp only [if_neg hProgress]
    exact (hResolve target r hReady hAsks hTarget).bind hRest

------------------------------------------------------------
-- Kinds
------------------------------------------------------------

/- Adding the validator of a node that is no reference. -/
theorem pushReply_ensures
    {kind : Discriminator}
    {v : Validator}
    (hNode : s.node? key = some node)
    (hKind : classify node = .ok kind)
    (hBelow : s.graph.MentionsBelow s.graph.size v.rule)
    (hFits : v.rule.Fits setting.options)
    (hPermits : v.presence ≠ .forbidden)
    (hSolid : ∀ c, v.rule ≠ .deferred c)
    (hReference : ∀ text, kind ≠ .reference text)
    (hObject :
      kind = .typed (.string "object") →
        ∃ form, v.rule = .object form ∧
          Merged setting s ⟨key, node⟩ form.properties)
    (hIntersection :
      ∀ entries, kind = .allOf entries →
        ∃ parts, v = { rule := .all parts } ∧
          List.Forall₂ s.PartFor (key.slots entries) parts) :
    Ensures setting watch source s (pushNode v)
      (fun id t => Reply setting t key id) := by
  refine (pushNode_ensures hBelow hFits).mono ?_
  intro id t hRun hAdded
  refine ⟨node, kind, v, hRun.grows.node? hNode, hKind, hAdded,
    hPermits, fun _ => hSolid, Or.inr hSolid, ?_, ?_, ?_⟩
  · intro text hText
    exact absurd hText (hReference text)
  · intro hTyped
    rcases hObject hTyped with ⟨form, hRule, hMerged⟩
    exact ⟨form, hRule, hMerged.mono hRun.grows ⟨node, hNode⟩⟩
  · intro entries hEntries
    rcases hIntersection entries hEntries with ⟨parts, hAll, hParts⟩
    exact ⟨parts, hAll,
      hParts.imp (fun _ _ hPart => hPart.mono hRun.grows)⟩

/- On top of those in progress a node that is no reference is poised. -/
theorem Roomy.poised
    {kind : Discriminator}
    (hRoomy : Roomy setting source n s)
    (hNode : s.node? key = some node)
    (hKind : classify node = .ok kind)
    (hTop : s.progress.head? = some key)
    (hOther : ∀ text, kind ≠ .reference text) :
    Poised setting source n s := by
  refine ⟨hRoomy, ?_⟩
  intro top hTopNow
  rw [hTop] at hTopNow
  cases hTopNow
  exact State.reference?_eq_none hNode hKind hOther

/- Compiling a node by its kind. -/
theorem resolveKind_ensures
    {kind : Discriminator}
    (hResolve : Resolves setting watch source n resolve)
    (hRoomy : s.Opened key → Roomy setting source n s)
    (hNode : s.node? key = some node)
    (hKind : classify node = .ok kind)
    (hScope : s.scope.head? = some key.doc)
    (hTop : s.progress.head? = some key) :
    Ensures setting watch source s
      (resolveKind setting watch resolve key node kind)
      (fun id t => Reply setting t key id) := by
  have hWritten := writtenIn_of_classify hKind
  -- A node that is no reference asks for any node.
  have hPoised :
      (∀ text, kind ≠ .reference text) → s.Opened key →
        Poised setting source n s :=
    fun hOther hOpened =>
      (hRoomy hOpened).poised hNode hKind hTop hOther
  -- A node with a list of branches is opened, and has them.
  have hList :
      ∀ name branches,
        node.member? name = some (.array branches) →
          s.Opened key ∧
            s.node? (key.child name) = some (.array branches) := by
    intro name branches hMember
    exact ⟨⟨node, name, _, hNode, hMember, rfl⟩,
      State.node?_member hNode hMember⟩
  have hItem :
      ∀ name branches,
        node.member? name = some (.array branches) →
          ∀ i, i < branches.length →
            s.Present ((key.child name).index (0 + i)) := by
    intro name branches hMember i hLt
    rw [Nat.zero_add]
    exact State.Present.item (hList name branches hMember).2
      (List.getElem?_eq_getElem hLt)
  cases kind with
  | typed type =>
      refine Ensures.bind
        (typeRule_ensures hResolve (hPoised (by simp)) hNode
          hWritten) ?_
      intro rule t hRun hFormed
      refine pushReply_ensures (hRun.grows.node? hNode) hKind
        hFormed.below hFormed.fits (by simp) hFormed.solid
        (by simp) ?_ (by simp)
      intro hObject
      cases hObject
      exact hFormed.object rfl
  | anyOf branches =>
      refine Ensures.bind
        (resolveBranches_ensures hResolve
          (hPoised (by simp) (hList _ _ hWritten).1)
          (hItem _ _ hWritten)) ?_
      intro ids t hRun hIds
      exact pushReply_ensures (hRun.grows.node? hNode) hKind hIds
        (Rule.fits_of_ne (by simp) (by simp)) (by simp) (by simp)
        (by simp) (by simp) (by simp)
  | oneOf branches =>
      refine Ensures.bind
        (resolveBranches_ensures hResolve
          (hPoised (by simp) (hList _ _ hWritten).1)
          (hItem _ _ hWritten)) ?_
      intro ids t hRun hIds
      exact pushReply_ensures (hRun.grows.node? hNode) hKind hIds
        (Rule.fits_of_ne (by simp) (by simp)) (by simp) (by simp)
        (by simp) (by simp) (by simp)
  | allOf branches =>
      rcases hList _ _ hWritten with ⟨hOpened, hBranches⟩
      have hHere := hPoised (by simp) hOpened
      refine Ensures.bind
        (resolveParts_ensures hResolve hHere ?_) ?_
      · intro i item hAt
        rw [Nat.zero_add]
        exact State.node?_item hBranches hAt
      · intro parts t hRun hParts
        have hSound := (hHere.of_run hRun).sound
        refine pushReply_ensures (hRun.grows.node? hNode) hKind
          (hSound.contains_of_parts hParts)
          (Rule.fits_of_ne (by simp) (by simp)) (by simp) (by simp)
          (by simp) (by simp) ?_
        intro entries hEntries
        cases hEntries
        exact ⟨parts, rfl, hParts⟩
  | reference text =>
      exact resolveReference_ensures hResolve
        (hRoomy ⟨node, "$ref", _, hNode, hWritten, rfl⟩) hNode
        hKind hScope hTop
  | listed values =>
      exact pushReply_ensures hNode hKind
        (fun id hMem => by cases hMem)
        (Rule.fits_of_ne (by simp) (by simp)) (by simp) (by simp)
        (by simp) (by simp) (by simp)
  | unrecognized =>
      exact pushReply_ensures hNode hKind
        (fun id hMem => by cases hMem)
        (Rule.fits_of_ne (by simp) (by simp)) (by simp) (by simp)
        (by simp) (by simp) (by simp)

end SchemaGraph
