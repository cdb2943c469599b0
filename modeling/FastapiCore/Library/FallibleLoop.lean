import Mathlib.Data.List.Nodup

/-!
# Blocks and loops whose steps may raise

A loop which looks something up for each element and then stores what it
found is a `foldlM` in `Except`.  It separates into the lookups, which alone
can raise, and a pure fold over what they returned.
-/

namespace FastapiCore.Library

universe u v w

variable {ε α : Type u} {β γ : Type u} {δ : Type v}

/-- A block returns exactly when both of its parts do. -/
theorem bind_eq_ok_iff {first : Except ε β} {next : β → Except ε γ}
    {result : γ} :
    (first >>= next) = .ok result ↔
      ∃ value, first = .ok value ∧ next value = .ok result := by
  cases first with
  | error raised =>
      constructor
      · rintro ⟨⟩
      · rintro ⟨_, ⟨⟩, _⟩
  | ok value =>
      constructor
      · exact fun returns => ⟨value, rfl, returns⟩
      · rintro ⟨_, ⟨⟩, returns⟩
        exact returns

/-- A block after a check returns exactly when the check passes first. -/
theorem check_bind_eq_ok_iff {check : Except ε PUnit.{u + 1}}
    {next : Except ε β} {result : β} :
    (check >>= fun _ => next) = .ok result ↔
      check = .ok ⟨⟩ ∧ next = .ok result := by
  rw [bind_eq_ok_iff]
  constructor
  · rintro ⟨⟨⟩, passed, returned⟩
    exact ⟨passed, returned⟩
  · rintro ⟨passed, returned⟩
    exact ⟨⟨⟩, passed, returned⟩

/-- A loop of checks returns exactly when every check does. -/
theorem forM_eq_ok_iff {check : δ → Except ε PUnit.{u + 1}}
    {elements : List δ} :
    elements.forM check = .ok ⟨⟩ ↔
      ∀ element ∈ elements, check element = .ok ⟨⟩ := by
  induction elements with
  | nil => exact ⟨fun _ => by simp, fun _ => rfl⟩
  | cons element rest induction =>
      rw [List.forM_eq_forM, List.forM_cons, check_bind_eq_ok_iff,
        List.forall_mem_cons, ← induction, List.forM_eq_forM]

/-- A loop which looks up and stores is a lookup loop and a pure fold. -/
theorem foldlM_lookup_store
    (lookup : α → Except ε β) (store : γ → β → γ)
    (elements : List α) (start : γ) :
    (elements.foldlM
        (fun accumulator element => do
          let found ← lookup element
          pure (store accumulator found))
        start : Except ε γ) =
      (elements.mapM lookup).map fun found => found.foldl store start := by
  induction elements generalizing start with
  | nil => rfl
  | cons element rest induction =>
      rw [List.foldlM_cons, List.mapM_cons]
      cases lookup element with
      | error raised => rfl
      | ok found =>
          refine (induction (store start found)).trans ?_
          show
            _ =
              Except.map (fun found => found.foldl store start)
                (rest.mapM lookup >>= fun others => pure (found :: others))
          cases rest.mapM lookup <;> rfl

/-- A lookup loop whose lookups all succeed. -/
theorem mapM_eq_ok
    {lookup : α → Except ε β} {value : α → β} {elements : List α}
    (found : ∀ element ∈ elements, lookup element = .ok (value element)) :
    elements.mapM lookup = .ok (elements.map value) := by
  induction elements with
  | nil => rfl
  | cons element rest induction =>
      rw [List.mapM_cons, found element (by simp),
        induction fun other member => found other (by simp [member])]
      rfl

/-- A lookup loop returns exactly when all its lookups do. -/
theorem mapM_isOk_iff
    {lookup : α → Except ε β} {elements : List α} :
    (∃ results, elements.mapM lookup = .ok results) ↔
      ∀ element ∈ elements, ∃ result, lookup element = .ok result := by
  induction elements with
  | nil => exact ⟨by simp, fun _ => ⟨[], rfl⟩⟩
  | cons element rest induction =>
      rw [List.forall_mem_cons, ← induction, List.mapM_cons]
      cases lookup element with
      | error raised =>
          constructor
          · rintro ⟨_, ⟨⟩⟩
          · rintro ⟨⟨_, ⟨⟩⟩, _⟩
      | ok result =>
          cases rest.mapM lookup with
          | error raised =>
              constructor
              · rintro ⟨_, ⟨⟩⟩
              · rintro ⟨_, _, ⟨⟩⟩
          | ok results =>
              exact
                ⟨fun _ => ⟨⟨result, rfl⟩, results, rfl⟩,
                  fun _ => ⟨result :: results, rfl⟩⟩

/-- Lookups which agree on the elements give the same results. -/
theorem mapM_congr_left
    {lookup other : α → Except ε β} {elements : List α}
    (same : ∀ element ∈ elements, lookup element = other element) :
    elements.mapM lookup = elements.mapM other := by
  induction elements with
  | nil => rfl
  | cons element rest induction =>
      rw [List.forall_mem_cons] at same
      rw [List.mapM_cons, List.mapM_cons, same.1, induction same.2]

/-- The exception is that of the first lookup which fails. -/
theorem mapM_eq_error_iff
    {lookup : α → Except ε β} {elements : List α} {raised : ε} :
    elements.mapM lookup = .error raised ↔
      ∃ before element rest, elements = before ++ element :: rest ∧
        (∀ earlier ∈ before, ∃ result, lookup earlier = .ok result) ∧
          lookup element = .error raised := by
  induction elements with
  | nil =>
      constructor
      · nofun
      · rintro ⟨before, element, rest, split, -⟩
        cases before <;> cases split
  | cons first others induction =>
      rw [List.mapM_cons]
      cases found : lookup first with
      | error exception =>
          constructor
          · rintro ⟨⟩
            exact ⟨[], first, others, rfl, by simp, found⟩
          · rintro ⟨before, element, rest, split, passed, fails⟩
            cases before with
            | nil =>
                cases split
                rw [found] at fails
                cases fails
                rfl
            | cons head tail =>
                cases split
                rcases passed first (.head _) with ⟨result, passes⟩
                rw [found] at passes
                cases passes
      | ok value =>
          have continues :
              (do
                  let value ← (.ok value : Except ε β)
                  let results ← others.mapM lookup
                  pure (value :: results)) = .error raised ↔
                others.mapM lookup = .error raised := by
            cases others.mapM lookup with
            | error exception => exact Iff.rfl
            | ok results => exact ⟨nofun, nofun⟩
          rw [continues, induction]
          constructor
          · rintro ⟨before, element, rest, rfl, passed, fails⟩
            refine ⟨first :: before, element, rest, rfl, ?_, fails⟩
            exact List.forall_mem_cons.mpr ⟨⟨value, found⟩, passed⟩
          · rintro ⟨before, element, rest, split, passed, fails⟩
            cases before with
            | nil =>
                cases split
                rw [found] at fails
                cases fails
            | cons head tail =>
                cases split
                exact ⟨tail, element, rest, rfl,
                  fun earlier member => passed earlier (.tail _ member),
                  fails⟩

/-- An element of a lookup loop's result is what some lookup returned. -/
theorem mem_of_mapM_eq_ok
    {lookup : α → Except ε β} {elements : List α} {results : List β}
    (found : elements.mapM lookup = .ok results) (result : β) :
    result ∈ results ↔ ∃ element ∈ elements, lookup element = .ok result := by
  induction elements generalizing results with
  | nil =>
      cases found
      simp
  | cons element rest induction =>
      rw [List.mapM_cons] at found
      rcases bind_eq_ok_iff.mp found with ⟨first, looked, remaining⟩
      rcases bind_eq_ok_iff.mp remaining with ⟨others, loop, returned⟩
      cases returned
      rw [List.mem_cons, induction loop, List.exists_mem_cons_iff, looked,
        Except.ok.injEq, @eq_comm _ result first]

/-- A key which every lookup keeps is the same before and after the loop. -/
theorem map_eq_of_mapM_eq_ok
    {lookup : α → Except ε β} {before : α → δ} {after : β → δ}
    (keeps :
      ∀ element found, lookup element = .ok found →
        after found = before element)
    {elements : List α} {results : List β}
    (found : elements.mapM lookup = .ok results) :
    results.map after = elements.map before := by
  induction elements generalizing results with
  | nil =>
      cases found
      rfl
  | cons element rest induction =>
      rw [List.mapM_cons] at found
      rcases bind_eq_ok_iff.mp found with ⟨first, looked, remaining⟩
      rcases bind_eq_ok_iff.mp remaining with ⟨others, loop, returned⟩
      cases returned
      rw [List.map_cons, List.map_cons, keeps element first looked,
        induction loop]

/-- The results of a lookup loop, without the order of its steps. -/
theorem eq_filterMap_of_mapM_eq_ok
    {lookup : α → Except ε β} {elements : List α} {results : List β}
    (found : elements.mapM lookup = .ok results) :
    results = elements.filterMap fun element => (lookup element).toOption := by
  induction elements generalizing results with
  | nil =>
      cases found
      rfl
  | cons element rest induction =>
      rw [List.mapM_cons] at found
      rcases bind_eq_ok_iff.mp found with ⟨first, looked, remaining⟩
      rcases bind_eq_ok_iff.mp remaining with ⟨others, loop, returned⟩
      cases returned
      rw [List.filterMap_cons, looked, induction loop]
      rfl

/-- What a lookup loop raises depends on the keys it looks up only. -/
theorem mapM_map_eq_error_iff
    {key : α → δ} {lookup : δ → Except ε β} {attach : α → β → γ}
    {elements : List α} {raised : ε} :
    elements.mapM
        (fun element => (lookup (key element)).map (attach element)) =
        .error raised ↔
      (elements.map key).mapM lookup = .error raised := by
  induction elements with
  | nil => simp [pure, Except.pure]
  | cons element rest induction =>
      rw [List.map_cons, List.mapM_cons, List.mapM_cons]
      cases lookup (key element) with
      | error first => exact ⟨fun | rfl => rfl, fun | rfl => rfl⟩
      | ok found =>
          have remaining :
              ∀ {η θ : Type u} (loop : Except ε η) (wrap : η → θ),
                (loop >>= fun others => pure (wrap others)) =
                    .error raised ↔
                  loop = .error raised := by
            intro η θ loop wrap
            cases loop with
            | error later => exact ⟨fun | rfl => rfl, fun | rfl => rfl⟩
            | ok others => exact ⟨nofun, nofun⟩
          exact
            (remaining _ _).trans (induction.trans (remaining _ _).symm)

/-- A loop which adds what each element gives. -/
theorem foldlM_append_eq_ok {step : List β → δ → Except ε (List β)}
    {added : δ → List β} {elements : List δ}
    (adds :
      ∀ element ∈ elements, ∀ results,
        step results element = .ok (results ++ added element))
    (start : List β) :
    elements.foldlM step start = .ok (start ++ elements.flatMap added) := by
  induction elements generalizing start with
  | nil => simp [pure, Except.pure]
  | cons element rest induction =>
      rw [List.foldlM_cons, adds element (by simp), List.flatMap_cons,
        ← List.append_assoc]
      exact
        induction
          (fun other member => adds other (by simp [member])) _

/-- A loop which returns has passed every element. -/
theorem exists_step_of_foldlM_eq_ok
    {step : β → δ → Except ε β} {elements : List δ} {start final : β}
    (returned : elements.foldlM step start = .ok final) :
    ∀ element ∈ elements, ∃ before after, step before element = .ok after := by
  induction elements generalizing start with
  | nil => simp
  | cons element rest induction =>
      rw [List.foldlM_cons] at returned
      rcases bind_eq_ok_iff.mp returned with ⟨next, stepped, remaining⟩
      rw [List.forall_mem_cons]
      exact ⟨⟨start, next, stepped⟩, induction remaining⟩

/-! ## Refusing what was seen before -/

section Distinct

variable [DecidableEq α]

/-- Add an element to those seen so far, or refuse one seen before. -/
def registerDistinct (refusal : α → ε) (seen : List α) (element : α) :
    Except ε (List α) :=
  if element ∈ seen then .error (refusal element)
  else .ok (seen ++ [element])

theorem registerDistinct_eq_ok_iff {refusal : α → ε} {element : α}
    {seen final : List α} (nodup : seen.Nodup) :
    registerDistinct refusal seen element = .ok final ↔
      final = seen ++ [element] ∧ (seen ++ [element]).Nodup := by
  rw [registerDistinct]
  split
  · next taken =>
      constructor
      · rintro ⟨⟩
      · rintro ⟨-, distinct⟩
        have apart := (List.nodup_append.mp distinct).2.2
        exact
          (apart element taken element (List.mem_singleton_self _)
            rfl).elim
  · next new =>
      have distinct : (seen ++ [element]).Nodup := by
        rw [List.nodup_append]
        refine ⟨nodup, List.nodup_singleton element, ?_⟩
        intro older member newest singleton
        cases List.mem_singleton.mp singleton
        exact fun same => new (same ▸ member)
      rw [Except.ok.injEq, and_iff_left distinct, eq_comm]

/-- A loop accepts the elements exactly if none of them is repeated. -/
theorem foldlM_registerDistinct_eq_ok_iff {refusal : α → ε}
    {elements seen final : List α} (nodup : seen.Nodup) :
    elements.foldlM (registerDistinct refusal) seen = .ok final ↔
      final = seen ++ elements ∧ (seen ++ elements).Nodup := by
  induction elements generalizing seen with
  | nil =>
      rw [List.append_nil]
      constructor
      · rintro ⟨⟩
        exact ⟨rfl, nodup⟩
      · rintro ⟨rfl, -⟩
        rfl
  | cons element rest induction =>
      rw [List.foldlM_cons, bind_eq_ok_iff, List.append_cons]
      constructor
      · rintro ⟨longer, registered, looped⟩
        rcases (registerDistinct_eq_ok_iff nodup).mp registered with
          ⟨rfl, distinct⟩
        exact (induction distinct).mp looped
      · rintro ⟨rfl, all⟩
        have distinct := (List.nodup_append.mp all).1
        exact
          ⟨_, (registerDistinct_eq_ok_iff nodup).mpr ⟨rfl, distinct⟩,
            (induction distinct).mpr ⟨rfl, all⟩⟩

end Distinct

/-- A loop stops at only one element: the first one which does not pass. -/
theorem first_stop_unique {passes : α → Prop}
    {done other rest others : List α} {stop last : α}
    (split : done ++ stop :: rest = other ++ last :: others)
    (donePass : ∀ element ∈ done, passes element)
    (otherPass : ∀ element ∈ other, passes element)
    (stops : ¬passes stop) (lasts : ¬passes last) :
    done = other ∧ stop = last ∧ rest = others := by
  induction done generalizing other with
  | nil =>
      cases other with
      | nil => simpa using split
      | cons first tail =>
          rw [List.nil_append, List.cons_append, List.cons.injEq] at split
          exact (stops (split.1 ▸ otherPass first (by simp))).elim
  | cons first tail induction =>
      cases other with
      | nil =>
          rw [List.nil_append, List.cons_append, List.cons.injEq] at split
          exact (lasts (split.1 ▸ donePass first (by simp))).elim
      | cons second tail' =>
          rw [List.cons_append, List.cons_append, List.cons.injEq] at split
          rcases split with ⟨rfl, split⟩
          rcases
            induction split
              (fun element member => donePass element (by simp [member]))
              fun element member => otherPass element (by simp [member])
          with ⟨rfl, sameStop, sameRest⟩
          exact ⟨rfl, sameStop, sameRest⟩

end FastapiCore.Library
