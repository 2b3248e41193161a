import Mathlib
import SchemaGraph.Json.Value

/-
  Looking things up by their keys: what is found under a key
  in a list of pairs, and how setting the members of an
  object changes it.

  Main declarations:
    * `lookup_cons_eq_ite`
    * `mem_of_lookup_eq_some`
    * `sum_lookup_le`
    * `Members.lookup_insert`
    * `Members.sorted_insert`
    * `Members.lookup_of_mem`
    * `Members.eq_of_mem_iff`
    * `Members.insert_eq_map`
    * `Members.ofList_eq`
-/

namespace SchemaGraph

------------------------------------------------------------
-- Lists of Pairs
------------------------------------------------------------

section Pairs

variable {α β : Type}
variable [DecidableEq α]

/- The first pair is found under its own key only. -/
theorem lookup_cons_eq_ite
    (key other : α)
    (value : β)
    (pairs : List (α × β)) :
    ((key, value) :: pairs).lookup other =
      if other = key then some value else pairs.lookup other := by
  rw [List.lookup_cons]
  by_cases hSame : other = key
  · simp [hSame]
  · have hBeq : (other == key) = false := by simpa using hSame
    simp [hSame, hBeq]

/- A pair with a new key hides no other one. -/
theorem lookup_of_fresh
    {pairs : List (α × β)}
    {key other : α}
    {x y : β}
    (hFresh : pairs.lookup key = none)
    (hOther : pairs.lookup other = some y) :
    ((key, x) :: pairs).lookup other = some y := by
  have hNe : other ≠ key := by
    rintro rfl
    rw [hFresh] at hOther
    cases hOther
  rw [lookup_cons_eq_ite, if_neg hNe]
  exact hOther

/- What is found under a key is there with the key. -/
theorem mem_of_lookup_eq_some
    {pairs : List (α × β)}
    {key : α}
    {value : β}
    (hLookup : pairs.lookup key = some value) :
    (key, value) ∈ pairs := by
  rcases List.lookup_eq_some_iff.mp hLookup with
    ⟨before, after, hPairs, _⟩
  rw [hPairs]
  exact List.mem_append_right before List.mem_cons_self

/-
  Looked up under each key once, entries weigh at most what
  all of them weigh.
-/
theorem sum_lookup_le
    (weight : β → Nat)
    (entries : List (α × β)) :
    ∑ key ∈ (entries.map (·.1)).toFinset,
        ((entries.lookup key).map weight).getD 0 ≤
      (entries.map (fun e => weight e.2)).sum := by
  induction entries with
  | nil => simp
  | cons e rest ih =>
      rcases e with ⟨first, x⟩
      let keys := (rest.map (·.1)).toFinset
      -- The keys other than the first are looked up in the rest.
      have hOthers :
          ∑ key ∈ keys.erase first,
              ((((first, x) :: rest).lookup key).map weight).getD 0 =
            ∑ key ∈ keys.erase first,
              ((rest.lookup key).map weight).getD 0 := by
        apply Finset.sum_congr rfl
        intro key hMem
        rw [lookup_cons_eq_ite, if_neg (Finset.ne_of_mem_erase hMem)]
      have hKeys :
          (((first, x) :: rest).map (·.1)).toFinset =
            insert first (keys.erase first) := by
        ext key
        by_cases hFirst : key = first <;> simp [keys, hFirst]
      calc ∑ key ∈ (((first, x) :: rest).map (·.1)).toFinset,
              ((((first, x) :: rest).lookup key).map weight).getD 0
          = weight x +
              ∑ key ∈ keys.erase first,
                ((rest.lookup key).map weight).getD 0 := by
            rw [hKeys, Finset.sum_insert (by simp), hOthers,
              lookup_cons_eq_ite, if_pos rfl]
            rfl
        _ ≤ weight x +
              ∑ key ∈ keys,
                ((rest.lookup key).map weight).getD 0 :=
            Nat.add_le_add_left
              (Finset.sum_le_sum_of_subset
                (Finset.erase_subset first keys)) _
        _ ≤ weight x + (rest.map (fun e => weight e.2)).sum :=
            Nat.add_le_add_left ih _

end Pairs

------------------------------------------------------------
-- Members by Name
------------------------------------------------------------

namespace Members

variable {α : Type}

/- Setting a member changes what its name finds only. -/
theorem lookup_insert
    (name other : String)
    (value : α)
    (members : List (String × α)) :
    (insert name value members).lookup other =
      if other = name then some value else members.lookup other := by
  induction members with
  | nil => exact lookup_cons_eq_ite name other value []
  | cons entry rest ih =>
      rcases entry with ⟨first, old⟩
      rw [insert]
      by_cases hBefore : name < first
      · rw [if_pos hBefore, lookup_cons_eq_ite]
      · rw [if_neg hBefore]
        by_cases hFirst : name = first
        · subst hFirst
          by_cases hSame : other = name <;>
            simp [lookup_cons_eq_ite, hSame]
        · rw [if_neg hFirst, lookup_cons_eq_ite,
            lookup_cons_eq_ite, ih]
          by_cases hSame : other = name
          · subst hSame
            simp [hFirst]
          · simp [hSame]

/- A name that is taken keeps what it finds. -/
theorem lookup_insertNew
    (name other : String)
    (value : α)
    (members : List (String × α)) :
    (insertNew name value members).lookup other =
      if other = name then
        some ((members.lookup name).getD value)
      else
        members.lookup other := by
  unfold insertNew
  cases hTaken : members.lookup name with
  | some old =>
      by_cases hSame : other = name
      · simp [hSame, hTaken]
      · simp [hSame]
  | none =>
      simp only [lookup_insert, Option.getD_none]

/- The names that find something are those of the members. -/
theorem lookup_eq_none_iff_not_mem
    (name : String)
    (members : List (String × α)) :
    members.lookup name = none ↔
      name ∉ members.map (fun e => e.1) := by
  induction members with
  | nil => simp
  | cons entry rest ih =>
      rcases entry with ⟨first, value⟩
      by_cases hSame : name = first <;>
        simp [lookup_cons_eq_ite, hSame, ih]

/- The names that find something, seen the other way. -/
theorem isSome_lookup_iff
    (name : String)
    (members : List (String × α)) :
    (members.lookup name).isSome = true ↔
      name ∈ members.map (fun e => e.1) := by
  rw [← not_iff_not, ← lookup_eq_none_iff_not_mem,
    Bool.not_eq_true, Option.isSome_eq_false_iff,
    Option.isNone_iff_eq_none]

/- A member after setting one is the one set or an old one. -/
theorem mem_of_mem_insert
    {name : String}
    {value : α}
    {members : List (String × α)}
    {entry : String × α}
    (hMem : entry ∈ insert name value members) :
    entry = (name, value) ∨ entry ∈ members := by
  induction members with
  | nil => exact Or.inl (List.mem_singleton.mp hMem)
  | cons first rest ih =>
      rcases first with ⟨other, old⟩
      rw [insert] at hMem
      split at hMem
      case isTrue => exact List.mem_cons.mp hMem
      case isFalse =>
        split at hMem
        case isTrue =>
          rcases List.mem_cons.mp hMem with hNew | hRest
          · exact Or.inl hNew
          · exact Or.inr (List.mem_cons_of_mem _ hRest)
        case isFalse =>
          rcases List.mem_cons.mp hMem with hFirst | hRest
          · exact Or.inr (by simp [hFirst])
          · rcases ih hRest with hNew | hOld
            · exact Or.inl hNew
            · exact Or.inr (List.mem_cons_of_mem _ hOld)

/- Setting a member keeps the names in order. -/
theorem sorted_insert
    {members : List (String × α)}
    (name : String)
    (value : α)
    (hSorted : Sorted members) :
    Sorted (insert name value members) := by
  induction members with
  | nil => exact List.pairwise_singleton _ _
  | cons first rest ih =>
      rcases first with ⟨other, old⟩
      rcases List.pairwise_cons.mp hSorted with ⟨hFirst, hRest⟩
      rw [insert]
      split
      case isTrue hBefore =>
        refine List.pairwise_cons.mpr ⟨?_, hSorted⟩
        intro entry hMem
        rcases List.mem_cons.mp hMem with rfl | hLater
        · exact hBefore
        · exact lt_trans hBefore (hFirst entry hLater)
      case isFalse hBefore =>
        split
        case isTrue hSame =>
          subst hSame
          exact List.pairwise_cons.mpr ⟨hFirst, hRest⟩
        case isFalse hOther =>
          refine List.pairwise_cons.mpr ⟨?_, ih hRest⟩
          intro entry hMem
          rcases mem_of_mem_insert hMem with rfl | hOld
          · exact lt_of_le_of_ne (not_lt.mp hBefore)
              (Ne.symm hOther)
          · exact hFirst entry hOld

/- Setting a new member keeps the names in order. -/
theorem sorted_insertNew
    {members : List (String × α)}
    (name : String)
    (value : α)
    (hSorted : Sorted members) :
    Sorted (insertNew name value members) := by
  unfold insertNew
  split
  case h_1 => exact hSorted
  case h_2 => exact sorted_insert name value hSorted

/- In order, every member is found by its name. -/
theorem lookup_of_mem
    {members : List (String × α)}
    {entry : String × α}
    (hSorted : Sorted members)
    (hMem : entry ∈ members) :
    members.lookup entry.1 = some entry.2 := by
  induction members with
  | nil => cases hMem
  | cons first rest ih =>
      rcases first with ⟨other, old⟩
      rcases List.pairwise_cons.mp hSorted with ⟨hFirst, hRest⟩
      rw [lookup_cons_eq_ite]
      rcases List.mem_cons.mp hMem with rfl | hLater
      · simp
      · rw [if_neg (ne_of_gt (hFirst entry hLater))]
        exact ih hRest hLater

/- In order, each name is there once. -/
theorem nodup_names
    {members : List (String × α)}
    (hSorted : Sorted members) :
    (members.map (fun e => e.1)).Nodup := by
  rw [List.Nodup, List.pairwise_map]
  exact List.Pairwise.imp (fun hBefore => ne_of_lt hBefore) hSorted

/- Members in order are known by what is among them. -/
theorem eq_of_mem_iff
    {first second : List (String × α)}
    (hFirst : Sorted first)
    (hSecond : Sorted second)
    (hMem : ∀ entry, entry ∈ first ↔ entry ∈ second) :
    first = second := by
  have hAntisymm :
      Std.Antisymm (fun a b : String × α => a.1 < b.1) :=
    ⟨fun a b hBefore hAfter => absurd hAfter (lt_asymm hBefore)⟩
  have hIrrefl : Std.Irrefl (fun a b : String × α => a.1 < b.1) :=
    ⟨fun a => lt_irrefl a.1⟩
  exact List.Pairwise.eq_of_mem_iff hFirst hSecond hMem

------------------------------------------------------------
-- Members That Are Set Again
------------------------------------------------------------

/- Setting a member that is there changes it in its place. -/
theorem insert_eq_map
    {name : String}
    {members : List (String × α)}
    (value : α)
    (hSorted : Sorted members)
    (hThere : members.lookup name ≠ none) :
    insert name value members =
      members.map (fun e =>
        if e.1 = name then (name, value) else e) := by
  induction members with
  | nil => exact absurd rfl hThere
  | cons entry rest ih =>
      rcases entry with ⟨first, old⟩
      rcases List.pairwise_cons.mp hSorted with ⟨hFirst, hRest⟩
      rw [insert, List.map_cons]
      by_cases hSame : name = first
      · subst hSame
        have hOthers :
            rest.map (fun e =>
              if e.1 = name then (name, value) else e) = rest := by
          conv_rhs => rw [← List.map_id rest]
          apply List.map_congr_left
          intro e hMem
          rw [if_neg (ne_of_gt (hFirst e hMem))]
          rfl
        rw [if_neg (lt_irrefl name), if_pos rfl, if_pos rfl, hOthers]
      · have hLater : rest.lookup name ≠ none := by
          rw [lookup_cons_eq_ite, if_neg hSame] at hThere
          exact hThere
        -- A name that comes later is behind the first one.
        have hBehind : first < name := by
          rcases Option.ne_none_iff_exists'.mp hLater with
            ⟨held, hHeld⟩
          exact hFirst (name, held) (mem_of_lookup_eq_some hHeld)
        rw [if_neg (lt_asymm hBehind), if_neg hSame,
          if_neg (Ne.symm hSame), ih hRest hLater]

/- Setting a member that is there keeps the names. -/
theorem names_insert
    {name : String}
    {members : List (String × α)}
    (value : α)
    (hSorted : Sorted members)
    (hThere : members.lookup name ≠ none) :
    (insert name value members).map (fun e => e.1) =
      members.map (fun e => e.1) := by
  rw [insert_eq_map value hSorted hThere, List.map_map]
  apply List.map_congr_left
  intro e _
  by_cases hSame : e.1 = name <;> simp [hSame]

/- Setting a member to what it is changes nothing. -/
theorem insert_of_lookup
    {name : String}
    {value : α}
    {members : List (String × α)}
    (hSorted : Sorted members)
    (hThere : members.lookup name = some value) :
    insert name value members = members := by
  rw [insert_eq_map value hSorted (by simp [hThere])]
  conv_rhs => rw [← List.map_id members]
  apply List.map_congr_left
  intro e hMem
  by_cases hSame : e.1 = name
  · have hFound := lookup_of_mem hSorted hMem
    rw [hSame, hThere] at hFound
    cases hFound
    rw [if_pos hSame, ← hSame]
    rfl
  · rw [if_neg hSame]
    rfl

------------------------------------------------------------
-- Members from Pairs
------------------------------------------------------------

/- The last pair is set last. -/
theorem ofList_concat
    (pairs : List (String × α))
    (name : String)
    (value : α) :
    ofList (pairs ++ [(name, value)]) =
      insert name value (ofList pairs) := by
  simp [ofList, List.foldl_append]

/- Pairs give members in order. -/
theorem sorted_ofList
    (pairs : List (String × α)) :
    Sorted (ofList pairs) := by
  induction pairs using List.reverseRecOn with
  | nil => exact List.Pairwise.nil
  | append_singleton pairs pair ih =>
      rcases pair with ⟨name, value⟩
      rw [ofList_concat]
      exact sorted_insert name value ih

/- The members are among the pairs. -/
theorem mem_of_mem_ofList
    {pairs : List (String × α)}
    {entry : String × α}
    (hMem : entry ∈ ofList pairs) :
    entry ∈ pairs := by
  induction pairs using List.reverseRecOn with
  | nil => exact hMem
  | append_singleton pairs pair ih =>
      rcases pair with ⟨name, value⟩
      rw [ofList_concat] at hMem
      rcases mem_of_mem_insert hMem with hNew | hOld
      · simp [hNew]
      · exact List.mem_append_left _ (ih hOld)

/- Every name of the pairs has a member. -/
theorem exists_mem_ofList
    {pairs : List (String × α)}
    {name : String}
    {value : α}
    (hMem : (name, value) ∈ pairs) :
    ∃ held, (name, held) ∈ ofList pairs := by
  induction pairs using List.reverseRecOn with
  | nil => cases hMem
  | append_singleton pairs pair ih =>
      rcases pair with ⟨other, last⟩
      have hFound : (ofList (pairs ++ [(other, last)])).lookup name ≠
          none := by
        rw [ofList_concat, lookup_insert]
        by_cases hSame : name = other
        · simp [hSame]
        · rw [if_neg hSame]
          have hOld : (name, value) ∈ pairs := by
            simpa [hSame] using hMem
          rcases ih hOld with ⟨held, hHeld⟩
          rw [lookup_of_mem (sorted_ofList pairs) hHeld]
          simp
      rcases Option.ne_none_iff_exists'.mp hFound with
        ⟨held, hHeld⟩
      exact ⟨held, mem_of_lookup_eq_some hHeld⟩

/- Pairs that are members in order give these members. -/
theorem ofList_eq
    {pairs members : List (String × α)}
    (hSorted : Sorted members)
    (hMem : ∀ entry, entry ∈ pairs ↔ entry ∈ members) :
    ofList pairs = members := by
  apply eq_of_mem_iff (sorted_ofList pairs) hSorted
  rintro ⟨name, value⟩
  constructor
  · intro hEntry
    exact (hMem _).mp (mem_of_mem_ofList hEntry)
  · intro hEntry
    rcases exists_mem_ofList ((hMem _).mpr hEntry) with
      ⟨held, hHeld⟩
    have hOther := (hMem _).mp (mem_of_mem_ofList hHeld)
    have hSame : some held = some value :=
      (lookup_of_mem hSorted hOther).symm.trans
        (lookup_of_mem hSorted hEntry)
    cases hSame
    exact hHeld

/- Members whose names are among others are no more than those. -/
theorem length_le_of_names
    {β : Type}
    {members : List (String × α)}
    {others : List (String × β)}
    (hSorted : Sorted members)
    (hNames :
      members.map (fun e => e.1) ⊆ others.map (fun e => e.1)) :
    members.length ≤ others.length := by
  simpa using ((nodup_names hSorted).subperm hNames).length_le

/- As many members with the same names find the same names. -/
theorem isSome_lookup_eq
    {members others : List (String × α)}
    (hSorted : Sorted members)
    (hLength : members.length = others.length)
    (hNames :
      members.map (fun e => e.1) ⊆ others.map (fun e => e.1))
    (name : String) :
    (members.lookup name).isSome = (others.lookup name).isSome := by
  have hPerm :
      (members.map (fun e => e.1)).Perm
        (others.map (fun e => e.1)) :=
    ((nodup_names hSorted).subperm hNames).perm_of_length_le
      (by simp [hLength])
  rw [Bool.eq_iff_iff, isSome_lookup_iff, isSome_lookup_iff,
    hPerm.mem_iff]

/- Members that find the same names are as many. -/
theorem length_eq_of_isSome_lookup
    {members others : List (String × α)}
    (hFirst : Sorted members)
    (hSecond : Sorted others)
    (hNames :
      ∀ name,
        (members.lookup name).isSome =
          (others.lookup name).isSome) :
    members.length = others.length := by
  have hMem :
      ∀ name,
        name ∈ members.map (fun e => e.1) ↔
          name ∈ others.map (fun e => e.1) := by
    intro name
    rw [← isSome_lookup_iff, ← isSome_lookup_iff, hNames name]
  exact Nat.le_antisymm
    (length_le_of_names hFirst (fun name => (hMem name).mp))
    (length_le_of_names hSecond (fun name => (hMem name).mpr))

end Members

end SchemaGraph
