import Mathlib.Data.List.Basic

/-!
# Class hierarchies with a resolution order

A class may have several bases.  Its method resolution order lists the class
and all its ancestors, every class before its own ancestors, so a search
along the order finds a match before any match which it inherits from.
-/

namespace FastapiCore.Library

universe u

/-- Classes, the subclass relation and a resolution order for each class. -/
structure ClassHierarchy (κ : Type u) where
  Inherits : κ → κ → Prop
  mro : κ → List κ
  refl : ∀ cls, Inherits cls cls
  trans :
    ∀ {cls middle ancestor}, Inherits cls middle →
      Inherits middle ancestor → Inherits cls ancestor
  mem_mro : ∀ {cls ancestor}, ancestor ∈ mro cls ↔ Inherits cls ancestor
  ordered :
    ∀ cls, (mro cls).Pairwise fun earlier later => ¬Inherits later earlier

namespace ClassHierarchy

variable {κ : Type u} (hierarchy : ClassHierarchy κ)

/--
The class inherits from `found`, which matches, and from no other match which
inherits from `found`.
-/
structure MostSpecific (isMatch : κ → Bool) (cls found : κ) : Prop where
  inherits : hierarchy.Inherits cls found
  accepted : isMatch found = true
  minimal :
    ∀ other, hierarchy.Inherits cls other → isMatch other = true →
      hierarchy.Inherits other found → other = found

variable {hierarchy} {isMatch : κ → Bool} {cls found other : κ}
variable {before after : List κ}

/-- The subclasses of a listed class are listed before it. -/
theorem mem_before (split : hierarchy.mro cls = before ++ found :: after)
    (inherits : hierarchy.Inherits cls other)
    (below : hierarchy.Inherits other found) (different : other ≠ found) :
    other ∈ before := by
  have member : other ∈ before ++ found :: after :=
    split ▸ hierarchy.mem_mro.mpr inherits
  have ordered := hierarchy.ordered cls
  rw [split, List.pairwise_append] at ordered
  rcases List.mem_append.mp member with earlier | later
  · exact earlier
  · rcases List.mem_cons.mp later with same | later
    · exact (different same).elim
    · have last := List.pairwise_cons.mp ordered.2.1
      exact (last.1 other later below).elim

/-- Two classes which inherit from each other are the same. -/
theorem Inherits.antisymm (below : hierarchy.Inherits cls other)
    (above : hierarchy.Inherits other cls) : other = cls := by
  by_contra different
  have self : cls ∈ hierarchy.mro cls :=
    hierarchy.mem_mro.mpr (hierarchy.refl cls)
  rcases List.append_of_mem self with ⟨before, after, split⟩
  have earlier := mem_before split below above different
  have ordered := hierarchy.ordered cls
  rw [split, List.pairwise_append] at ordered
  exact ordered.2.2 other earlier cls List.mem_cons_self below

/-- The first match of a resolution order is a most specific one. -/
theorem mostSpecific_of_find?
    (first : (hierarchy.mro cls).find? isMatch = some found) :
    hierarchy.MostSpecific isMatch cls found := by
  rcases List.find?_eq_some_iff_append.mp first with
    ⟨isFound, before, after, split, noneBefore⟩
  have listed := List.mem_of_find?_eq_some first
  refine ⟨hierarchy.mem_mro.mp listed, isFound, ?_⟩
  intro other inherits otherMatches below
  by_contra different
  have earlier := mem_before split inherits below different
  have excluded := noneBefore other earlier
  rw [otherMatches] at excluded
  cases excluded

/-- The search fails exactly if the class inherits from no match. -/
theorem find?_mro_eq_none_iff :
    (hierarchy.mro cls).find? isMatch = none ↔
      ∀ ancestor, hierarchy.Inherits cls ancestor →
        isMatch ancestor = false := by
  rw [List.find?_eq_none]
  constructor
  · intro noMatch ancestor inherits
    exact Bool.eq_false_iff.mpr
      (noMatch ancestor (hierarchy.mem_mro.mpr inherits))
  · intro noMatch ancestor member
    exact Bool.eq_false_iff.mp
      (noMatch ancestor (hierarchy.mem_mro.mp member))

end ClassHierarchy

end FastapiCore.Library
