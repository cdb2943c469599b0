import FastapiCore.Library.JsonTree

/-!
# Changing a JSON document at a path

A path is a list of member names.  A change at a path leaves the document as
it is everywhere else, so changes at paths which part from each other commute,
and a property of all objects survives a change which keeps it at its own
place.
-/

namespace FastapiCore.Library

namespace JsonTree

/-- The members of an object. -/
abbrev Members := List (String × JsonTree)

/-! ## Members -/

section Members

variable {name other : String} {change : JsonTree → JsonTree}

/-- Change the value of the first member under a name. -/
def alterMember (name : String) (change : JsonTree → JsonTree) :
    Members → Members
  | [] => []
  | (first, value) :: rest =>
      if first = name then (first, change value) :: rest
      else (first, value) :: alterMember name change rest

@[simp]
theorem map_fst_alterMember (members : Members) :
    (alterMember name change members).map Prod.fst =
      members.map Prod.fst := by
  induction members with
  | nil => rfl
  | cons entry rest induction =>
      rcases entry with ⟨first, value⟩
      simp only [alterMember]
      split
      · simp only [List.map_cons]
      · simp only [List.map_cons, induction]

@[simp]
theorem lookup_alterMember_self (members : Members) :
    (alterMember name change members).lookup name =
      (members.lookup name).map change := by
  induction members with
  | nil => rfl
  | cons entry rest induction =>
      rcases entry with ⟨first, value⟩
      simp only [alterMember]
      split
      · next same => simp [same]
      · next different =>
          have unequal : (name == first) = false := by
            simpa using Ne.symm different
          simp only [List.lookup_cons, unequal, induction]

theorem lookup_alterMember_of_ne (different : other ≠ name)
    (members : Members) :
    (alterMember name change members).lookup other =
      members.lookup other := by
  induction members with
  | nil => rfl
  | cons entry rest induction =>
      rcases entry with ⟨first, value⟩
      simp only [alterMember]
      split
      · next same =>
          have unequal : (other == first) = false := by
            simpa [same] using different
          simp only [List.lookup_cons, unequal]
      · simp only [List.lookup_cons, induction]

/-- A member of changed members is an old one or the one which changed. -/
theorem mem_alterMember {members : Members} {entry : String × JsonTree}
    (member : entry ∈ alterMember name change members) :
    entry ∈ members ∨
      ∃ value, members.lookup name = some value ∧
        entry = (name, change value) := by
  induction members with
  | nil => cases member
  | cons first rest induction =>
      rcases first with ⟨found, value⟩
      simp only [alterMember] at member
      split at member
      · next same =>
          rcases List.mem_cons.mp member with here | later
          · exact .inr ⟨value, by simp [same], by rw [here, same]⟩
          · exact .inl (.tail _ later)
      · next different =>
          rcases List.mem_cons.mp member with here | later
          · exact .inl (here ▸ List.mem_cons_self)
          · have unequal : (name == found) = false := by
              simpa using Ne.symm different
            rcases induction later with old | ⟨inner, looked, same⟩
            · exact .inl (.tail _ old)
            · refine .inr ⟨inner, ?_, same⟩
              simpa only [List.lookup_cons, unequal] using looked

/-- A change of the value which is there, and of no other. -/
theorem alterMember_congr {members : Members} {second : JsonTree → JsonTree}
    (agree : ∀ value, members.lookup name = some value →
      change value = second value) :
    alterMember name change members = alterMember name second members := by
  induction members with
  | nil => rfl
  | cons entry rest induction =>
      rcases entry with ⟨first, value⟩
      simp only [alterMember]
      split
      · next same => rw [agree value (by simp [same])]
      · next different =>
          have unequal : (name == first) = false := by
            simpa using Ne.symm different
          rw [induction]
          intro inner looked
          apply agree
          simpa only [List.lookup_cons, unequal] using looked

theorem alterMember_id (members : Members) :
    alterMember name id members = members := by
  induction members with
  | nil => rfl
  | cons entry rest induction =>
      rcases entry with ⟨first, value⟩
      simp only [alterMember, induction, id, ite_self]

theorem alterMember_alterMember (members : Members)
    (second : JsonTree → JsonTree) :
    alterMember name second (alterMember name change members) =
      alterMember name (second ∘ change) members := by
  induction members with
  | nil => rfl
  | cons entry rest induction =>
      rcases entry with ⟨first, value⟩
      by_cases same : first = name
      · simp [alterMember, same]
      · simp [alterMember, same, induction]

theorem alterMember_comm (different : other ≠ name) (members : Members)
    (second : JsonTree → JsonTree) :
    alterMember other second (alterMember name change members) =
      alterMember name change (alterMember other second members) := by
  induction members with
  | nil => rfl
  | cons entry rest induction =>
      rcases entry with ⟨first, value⟩
      by_cases same : first = name
      · subst same
        simp [alterMember, Ne.symm different]
      · by_cases otherSame : first = other
        · subst otherSame
          simp [alterMember, different]
        · simp [alterMember, same, otherSame, induction]

end Members

/-! ## Paths -/

/-- The value at a path. -/
def at? : List String → JsonTree → Option JsonTree
  | [], tree => some tree
  | name :: rest, .object members => (members.lookup name).bind (at? rest)
  | _ :: _, _ => none

/-- Change the value at a path, if there is one. -/
def alterAt : List String → (JsonTree → JsonTree) → JsonTree → JsonTree
  | [], change, tree => change tree
  | name :: rest, change, .object members =>
      .object (alterMember name (alterAt rest change) members)
  | _ :: _, _, tree => tree

/-- The paths part from each other at some name. -/
def Apart : List String → List String → Prop
  | name :: rest, other :: others => name ≠ other ∨ Apart rest others
  | _, _ => False

theorem Apart.of_ne {name other : String} {rest others : List String}
    (different : name ≠ other) : Apart (name :: rest) (other :: others) :=
  .inl different

section Paths

variable {path other : List String} {change second : JsonTree → JsonTree}
  {tree : JsonTree}

theorem at?_append (path other : List String) (tree : JsonTree) :
    tree.at? (path ++ other) = (tree.at? path).bind (at? other) := by
  induction path generalizing tree with
  | nil => rfl
  | cons name rest induction =>
      cases tree with
      | scalar value => rfl
      | array items => rfl
      | object members =>
          simp only [List.cons_append, at?]
          cases members.lookup name with
          | none => rfl
          | some value => exact induction value

@[simp]
theorem at?_alterAt_self (path : List String)
    (change : JsonTree → JsonTree) (tree : JsonTree) :
    (tree.alterAt path change).at? path = (tree.at? path).map change := by
  induction path generalizing tree with
  | nil => rfl
  | cons name rest induction =>
      cases tree with
      | scalar value => rfl
      | array items => rfl
      | object members =>
          simp only [alterAt, at?, lookup_alterMember_self]
          cases members.lookup name with
          | none => rfl
          | some value => exact induction value

/-- A change at a path leaves what is at another path. -/
theorem at?_alterAt_of_apart (apart : Apart path other) :
    (tree.alterAt path change).at? other = tree.at? other := by
  induction path generalizing other tree with
  | nil => cases apart
  | cons name rest induction =>
      cases other with
      | nil => cases apart
      | cons otherName others =>
          cases tree with
          | scalar value => rfl
          | array items => rfl
          | object members =>
              simp only [alterAt, at?]
              by_cases same : otherName = name
              · subst same
                have deeper : Apart rest others :=
                  apart.resolve_left fun different => different rfl
                rw [lookup_alterMember_self]
                cases members.lookup otherName with
                | none => rfl
                | some value => exact induction deeper
              · rw [lookup_alterMember_of_ne same]

theorem alterAt_alterAt (path : List String) (tree : JsonTree) :
    (tree.alterAt path change).alterAt path second =
      tree.alterAt path (second ∘ change) := by
  induction path generalizing tree with
  | nil => rfl
  | cons name rest induction =>
      cases tree with
      | scalar value => rfl
      | array items => rfl
      | object members =>
          simp only [alterAt, alterMember_alterMember]
          apply congrArg
          apply alterMember_congr
          exact fun value _ => induction value

/-- Changes at paths which part from each other commute. -/
theorem alterAt_comm (apart : Apart path other) :
    (tree.alterAt path change).alterAt other second =
      (tree.alterAt other second).alterAt path change := by
  induction path generalizing other tree with
  | nil => cases apart
  | cons name rest induction =>
      cases other with
      | nil => cases apart
      | cons otherName others =>
          cases tree with
          | scalar value => rfl
          | array items => rfl
          | object members =>
              simp only [alterAt]
              by_cases same : otherName = name
              · subst same
                have deeper : Apart rest others :=
                  apart.resolve_left fun different => different rfl
                rw [alterMember_alterMember, alterMember_alterMember]
                apply congrArg
                apply alterMember_congr
                exact fun value _ => induction deeper
              · rw [alterMember_comm same]

theorem alterAt_append (path other : List String) (tree : JsonTree) :
    tree.alterAt (path ++ other) change =
      tree.alterAt path (alterAt other change) := by
  induction path generalizing tree with
  | nil => rfl
  | cons name rest induction =>
      cases tree with
      | scalar value => rfl
      | array items => rfl
      | object members =>
          simp only [List.cons_append, alterAt, funext induction]

/-- Only the value at the path matters to a change. -/
theorem alterAt_congr
    (agree : ∀ value, tree.at? path = some value →
      change value = second value) :
    tree.alterAt path change = tree.alterAt path second := by
  induction path generalizing tree with
  | nil => exact agree tree rfl
  | cons name rest induction =>
      cases tree with
      | scalar value => rfl
      | array items => rfl
      | object members =>
          simp only [alterAt]
          apply congrArg
          apply alterMember_congr
          intro value looked
          apply induction
          intro inner found
          apply agree
          simp only [at?, looked, Option.bind_some, found]

theorem alterAt_id (path : List String) (tree : JsonTree) :
    tree.alterAt path id = tree := by
  induction path generalizing tree with
  | nil => rfl
  | cons name rest induction =>
      cases tree with
      | scalar value => rfl
      | array items => rfl
      | object members =>
          have same : alterAt rest id = id := funext induction
          simp only [alterAt, same, alterMember_id]

/-- A change at a path where there is nothing changes nothing. -/
theorem alterAt_of_none (absent : tree.at? path = none) :
    tree.alterAt path change = tree := by
  rw [← alterAt_id path tree]
  simp only [alterAt_alterAt]
  apply alterAt_congr
  simp only [absent, reduceCtorEq, false_implies, implies_true]

theorem Apart.symm {path other : List String} (apart : Apart path other) :
    Apart other path := by
  induction path generalizing other with
  | nil => cases apart
  | cons name rest induction =>
      cases other with
      | nil => cases apart
      | cons otherName others =>
          rcases apart with different | deeper
          · exact .inl (Ne.symm different)
          · exact .inr (induction deeper)

/-- What a change below a path makes of the value at the path. -/
theorem at?_alterAt_append (path other : List String) (tree : JsonTree) :
    (tree.alterAt (path ++ other) change).at? path =
      (tree.at? path).map (alterAt other change) := by
  simp only [alterAt_append, at?_alterAt_self]

end Paths

/-- What is inside the value at a path is inside the document. -/
theorem inside_of_at? {path : List String} {tree value inner : JsonTree}
    (found : tree.at? path = some value) (inside : Inside inner value) :
    Inside inner tree := by
  induction path generalizing tree with
  | nil => exact Option.some.inj found ▸ inside
  | cons name rest induction =>
      cases tree with
      | scalar scalar => cases found
      | array items => cases found
      | object members =>
          rcases Option.bind_eq_some_iff.mp found with ⟨child, looked, below⟩
          rcases List.lookup_eq_some_iff.mp looked with
            ⟨before, after, rfl, -⟩
          exact .member (List.mem_append_right _ List.mem_cons_self)
            (induction below)

/-! ## A series of changes -/

section Series

/-- A change and the path at which it takes place. -/
abbrev Step := List String × (JsonTree → JsonTree)

/-- Make changes one after the other. -/
def alterAll (steps : List Step) (tree : JsonTree) : JsonTree :=
  steps.foldl (fun current step => current.alterAt step.1 step.2) tree

/-- The paths of a series part from each other. -/
def ApartFrom (steps : List Step) (path : List String) : Prop :=
  ∀ step ∈ steps, Apart step.1 path

variable {steps : List Step} {path : List String}
  {change : JsonTree → JsonTree}

theorem alterAll_alterAt (apart : ApartFrom steps path) (tree : JsonTree) :
    alterAll steps (tree.alterAt path change) =
      (alterAll steps tree).alterAt path change := by
  induction steps generalizing tree with
  | nil => rfl
  | cons step rest induction =>
      have first : Apart step.1 path := apart step List.mem_cons_self
      simp only [alterAll, List.foldl_cons, alterAt_comm first.symm]
      exact induction (fun other member => apart other (.tail _ member)) _

theorem at?_alterAll_of_apart (apart : ApartFrom steps path)
    (tree : JsonTree) : (alterAll steps tree).at? path = tree.at? path := by
  induction steps generalizing tree with
  | nil => rfl
  | cons step rest induction =>
      have first : Apart step.1 path := apart step List.mem_cons_self
      have others := induction
        (fun other member => apart other (.tail _ member))
        (tree.alterAt step.1 step.2)
      exact others.trans (at?_alterAt_of_apart first)

/-- A series of separate changes changes the value of each path once. -/
theorem at?_alterAll_of_mem {step : Step}
    (apart : steps.Pairwise fun first second => Apart first.1 second.1)
    (member : step ∈ steps) (tree : JsonTree) :
    (alterAll steps tree).at? step.1 = (tree.at? step.1).map step.2 := by
  induction steps generalizing tree with
  | nil => cases member
  | cons first rest induction =>
      rcases List.pairwise_cons.mp apart with ⟨fromFirst, fromRest⟩
      rcases List.mem_cons.mp member with here | later
      · subst here
        have others : ApartFrom rest step.1 :=
          fun other among => (fromFirst other among).symm
        exact (at?_alterAll_of_apart others _).trans
          (at?_alterAt_self step.1 step.2 tree)
      · have again := induction fromRest later (tree.alterAt first.1 first.2)
        exact again.trans
          (congrArg _ (at?_alterAt_of_apart (fromFirst step later)))

/-- Separate changes which are made again change nothing. -/
theorem alterAll_alterAll
    (apart : steps.Pairwise fun first second => Apart first.1 second.1)
    (settled : ∀ step ∈ steps, step.2 ∘ step.2 = step.2) (tree : JsonTree) :
    alterAll steps (alterAll steps tree) = alterAll steps tree := by
  induction steps generalizing tree with
  | nil => rfl
  | cons step rest induction =>
      rcases List.pairwise_cons.mp apart with ⟨fromStep, fromRest⟩
      have others : ApartFrom rest step.1 :=
        fun other member => (fromStep other member).symm
      calc alterAll (step :: rest) (alterAll (step :: rest) tree)
        _ = alterAll rest
              ((alterAll rest (tree.alterAt step.1 step.2)).alterAt step.1
                step.2) := rfl
        _ = alterAll rest
              (alterAll rest
                ((tree.alterAt step.1 step.2).alterAt step.1 step.2)) :=
            congrArg (alterAll rest) (alterAll_alterAt others _).symm
        _ = alterAll rest (alterAll rest (tree.alterAt step.1 step.2)) := by
            rw [alterAt_alterAt, settled step List.mem_cons_self]
        _ = alterAll (step :: rest) tree :=
            induction fromRest
              (fun other member => settled other (.tail _ member)) _

theorem alterAll_object (steps : List Step)
    (below : ∀ step ∈ steps, step.1 ≠ []) (members : Members) :
    ∃ changed, alterAll steps (.object members) = .object changed := by
  induction steps generalizing members with
  | nil => exact ⟨members, rfl⟩
  | cons step rest induction =>
      rcases List.forall_mem_cons.mp below with ⟨first, others⟩
      rcases step with ⟨path, change⟩
      cases path with
      | nil => exact absurd (rfl) first
      | cons name more => exact induction others _

end Series

/-! ## What changes leave as it is -/

section Spares

variable {path suffix other : List String} {change : JsonTree → JsonTree}

/-- A change leaves what is at a path. -/
def Spares (change : JsonTree → JsonTree) (other : List String) : Prop :=
  ∀ tree, (change tree).at? other = tree.at? other

theorem Apart.split (apart : Apart (path ++ suffix) other) :
    Apart path other ∨ ∃ rest, other = path ++ rest := by
  induction path generalizing other with
  | nil => exact .inr ⟨other, (List.nil_append other).symm⟩
  | cons name rest induction =>
      cases other with
      | nil => cases apart
      | cons otherName others =>
          by_cases same : name = otherName
          · subst same
            have deeper : Apart (rest ++ suffix) others :=
              apart.resolve_left fun different => different rfl
            rcases induction deeper with early | ⟨last, rfl⟩
            · exact .inl (.inr early)
            · exact .inr ⟨last, rfl⟩
          · exact .inl (.inl same)

@[simp]
theorem apart_append_iff :
    Apart (path ++ suffix) (path ++ other) ↔ Apart suffix other := by
  induction path with
  | nil => rfl
  | cons name rest induction =>
      simp only [List.cons_append, Apart, ne_eq, not_true_eq_false, false_or,
        induction]

/-- What a change leaves is left by the same change further below. -/
theorem Spares.alterAt (spares : Spares change other) :
    Spares (alterAt path change) (path ++ other) := by
  intro tree
  simp only [at?_append, at?_alterAt_self]
  cases tree.at? path with
  | none => rfl
  | some value => exact spares value

theorem at?_alterAll_of_spares {steps : List Step}
    (spares : ∀ step ∈ steps, Spares (alterAt step.1 step.2) other)
    (tree : JsonTree) : (alterAll steps tree).at? other = tree.at? other := by
  induction steps generalizing tree with
  | nil => rfl
  | cons step rest induction =>
      rcases List.forall_mem_cons.mp spares with ⟨first, others⟩
      exact (induction others _).trans (first tree)

end Spares

/-! ## Outlines -/

section Outline

variable {path : List String} {change : JsonTree → JsonTree}

/-- The names of the members of an object. -/
def namesOf : JsonTree → Option (List String)
  | .object members => some (members.map Prod.fst)
  | _ => none

/-- Whether there is a value at a path, and which members it has. -/
def outline (path : List String) (tree : JsonTree) :
    Option (Option (List String)) :=
  (tree.at? path).map namesOf

/-- A change takes place beside a path or below it. -/
def BesideOrBelow (path : List String) (step : Step) : Prop :=
  Apart step.1 path ∨ ∃ name rest, step.1 = path ++ name :: rest

theorem namesOf_alterAt (name : String) (rest : List String)
    (tree : JsonTree) :
    namesOf (tree.alterAt (name :: rest) change) = namesOf tree := by
  cases tree with
  | scalar value => rfl
  | array items => rfl
  | object members =>
      simp only [alterAt, namesOf, map_fst_alterMember]

theorem outline_alterAt {step : Step} (place : BesideOrBelow path step)
    (tree : JsonTree) :
    outline path (tree.alterAt step.1 step.2) = outline path tree := by
  rcases place with apart | ⟨name, rest, below⟩
  · simp only [outline, at?_alterAt_of_apart apart]
  · simp only [outline, below, at?_alterAt_append, Option.map_map]
    apply congrArg fun read => Option.map read (tree.at? path)
    exact funext (namesOf_alterAt name rest)

theorem outline_alterAll {steps : List Step}
    (places : ∀ step ∈ steps, BesideOrBelow path step) (tree : JsonTree) :
    outline path (alterAll steps tree) = outline path tree := by
  induction steps generalizing tree with
  | nil => rfl
  | cons step rest induction =>
      rcases List.forall_mem_cons.mp places with ⟨first, others⟩
      exact (induction others _).trans (outline_alterAt first tree)

end Outline

/-! ## Properties of all objects -/

section Everywhere

variable {holds : Members → Prop} {change : JsonTree → JsonTree}

/-- All objects of a document have a property. -/
def Everywhere (holds : Members → Prop) (tree : JsonTree) : Prop :=
  ∀ inner, Inside (.object inner) tree → holds inner

theorem everywhere_object_iff {members : Members} :
    Everywhere holds (.object members) ↔
      holds members ∧ ∀ entry ∈ members, Everywhere holds entry.2 := by
  constructor
  · intro everywhere
    exact ⟨everywhere members .self,
      fun entry member inner inside =>
        everywhere inner (.member member inside)⟩
  · rintro ⟨here, below⟩ inner inside
    rcases inside_object_iff.mp inside with same | ⟨entry, member, deeper⟩
    · cases same
      exact here
    · exact below entry member inner deeper

/-- A change which makes no text of anything else. -/
def KeepsTexts (change : JsonTree → JsonTree) : Prop :=
  ∀ value content, change value = .text content → value = .text content

theorem KeepsTexts.alterAt (keeps : KeepsTexts change)
    (path : List String) : KeepsTexts (alterAt path change) := by
  cases path with
  | nil => exact keeps
  | cons name rest =>
      intro value content same
      cases value with
      | scalar scalar => exact same
      | array items => exact same
      | object members => cases same

/--
A property survives a change at a path if objects keep it under changes of
their members, and the changed value has it.
-/
theorem everywhere_alterAt
    (stable : ∀ members name step, KeepsTexts step → holds members →
      holds (alterMember name step members))
    (keeps : KeepsTexts change) {path : List String} {tree : JsonTree}
    (everywhere : tree.Everywhere holds)
    (changed : ∀ value, tree.at? path = some value →
      (change value).Everywhere holds) :
    (tree.alterAt path change).Everywhere holds := by
  induction path generalizing tree with
  | nil => exact changed tree rfl
  | cons name rest induction =>
      cases tree with
      | scalar value => exact everywhere
      | array items => exact everywhere
      | object members =>
          rcases everywhere_object_iff.mp everywhere with ⟨here, below⟩
          refine everywhere_object_iff.mpr
            ⟨stable members name _ (keeps.alterAt rest) here, ?_⟩
          intro entry member
          rcases mem_alterMember member with old | ⟨value, looked, rfl⟩
          · exact below entry old
          · have among : (name, value) ∈ members := by
              rcases List.lookup_eq_some_iff.mp looked with
                ⟨before, after, rfl, -⟩
              exact List.mem_append_right _ List.mem_cons_self
            apply induction (below _ among)
            intro inner found
            apply changed
            simp only [at?, looked, Option.bind_some, found]

end Everywhere

end JsonTree

end FastapiCore.Library
