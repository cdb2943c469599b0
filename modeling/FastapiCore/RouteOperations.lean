import FastapiCore.Routing
import Mathlib.Data.List.Nodup
import Mathlib.Data.List.Pairwise

/-!
# The operations of accepted routers

A route contributes one operation for each of its methods to the OpenAPI
schema, and all of them have the unique ID of the route.  `_validate_routes`
sees the ID of a route once, whatever the number of its methods, and compares
paths where the schema has path formats.
-/

namespace FastapiCore

open Library

/-! ## The operations of the schema -/

/-- An operation of the OpenAPI schema. -/
structure Operation where
  path : String
  method : String
  operationId : String
deriving DecidableEq

section Operations

variable (pathFormat : String → String)

/-- The operations of a route, under the format of its path. -/
def ApiRoute.operations (route : ApiRoute) : List Operation :=
  if route.includeInSchema then
    route.methods.map fun method =>
      { path := pathFormat route.path
        method := lower method
        operationId := route.uniqueId }
  else []

/-- The operations which some routers contribute to the schema. -/
def schemaOperations (routers : List RouterArgument) : List Operation :=
  (apiRoutes routers).flatMap (ApiRoute.operations pathFormat)

/-- The key of an operation in the schema. -/
def Operation.key (operation : Operation) : String × String :=
  (operation.path, operation.method)

/-- No two operations share a path and a method, or an operation ID. -/
structure UniqueOperations (operations : List Operation) : Prop where
  keys : (operations.map Operation.key).Nodup
  operationIds : (operations.map Operation.operationId).Nodup

/--
Every route of the schema has one method at most, and different paths with
one format have no method in common.
-/
structure OneOperationEach (routes : List ApiRoute) : Prop where
  singleMethod :
    ∀ route ∈ routes, route.includeInSchema = true →
      route.methods.length ≤ 1
  separateFormats :
    ∀ first ∈ routes, ∀ second ∈ routes,
      first.includeInSchema = true → second.includeInSchema = true →
      first.path ≠ second.path →
      pathFormat first.path = pathFormat second.path →
      ∀ method ∈ first.methods, method ∉ second.methods

end Operations

variable {pathFormat : String → String}

theorem ApiRoute.mem_operations_iff {route : ApiRoute}
    {operation : Operation} :
    operation ∈ route.operations pathFormat ↔
      route.includeInSchema = true ∧ ∃ method ∈ route.methods,
        operation =
          { path := pathFormat route.path
            method := lower method
            operationId := route.uniqueId } := by
  rw [ApiRoute.operations]
  split
  · next included =>
      rw [List.mem_map]
      constructor
      · rintro ⟨method, member, rfl⟩
        exact ⟨included, method, member, rfl⟩
      · rintro ⟨-, method, member, rfl⟩
        exact ⟨method, member, rfl⟩
  · next excluded => simp [excluded]

/-- The keys of the operations of one route are distinct. -/
theorem ApiRoute.nodup_keys (route : ApiRoute) :
    ((route.operations pathFormat).map Operation.key).Nodup := by
  rw [ApiRoute.operations]
  split
  · rw [List.map_map]
    apply route.nodup.map_on
    intro first firstMember second secondMember same
    exact
      eq_of_lower_eq (route.upper first firstMember)
        (route.upper second secondMember) (Prod.mk.inj same).2
  · exact List.nodup_nil

/-- The IDs of the operations of one route are equal. -/
theorem ApiRoute.nodup_operationIds_iff {route : ApiRoute} :
    ((route.operations pathFormat).map Operation.operationId).Nodup ↔
      (route.includeInSchema = true → route.methods.length ≤ 1) := by
  rw [ApiRoute.operations]
  split
  · next included =>
      have ids :
          (route.methods.map fun method =>
              ({ path := pathFormat route.path
                 method := lower method
                 operationId := route.uniqueId } : Operation)).map
              Operation.operationId =
            List.replicate route.methods.length route.uniqueId := by
        rw [List.map_map]
        exact List.map_const'
      rw [ids, List.nodup_replicate]
      exact ⟨fun few _ => few, fun few => few included⟩
  · next excluded => simp [excluded]

/-- A shared key is a method which two routes with one format share. -/
theorem ApiRoute.disjoint_keys_iff {first second : ApiRoute} :
    List.Disjoint ((first.operations pathFormat).map Operation.key)
        ((second.operations pathFormat).map Operation.key) ↔
      (first.includeInSchema = true → second.includeInSchema = true →
        pathFormat first.path = pathFormat second.path →
        ∀ method ∈ first.methods, method ∉ second.methods) := by
  constructor
  · intro disjoint firstIn secondIn format method firstMember secondMember
    apply
      @disjoint (pathFormat first.path, lower method)
    · exact
        List.mem_map.mpr
          ⟨_, mem_operations_iff.mpr ⟨firstIn, method, firstMember, rfl⟩,
            rfl⟩
    · rw [format]
      exact
        List.mem_map.mpr
          ⟨_, mem_operations_iff.mpr ⟨secondIn, method, secondMember, rfl⟩,
            rfl⟩
  · intro separate key firstKey secondKey
    rcases List.mem_map.mp firstKey with ⟨operation, member, rfl⟩
    rcases List.mem_map.mp secondKey with ⟨other, otherMember, same⟩
    rcases mem_operations_iff.mp member with
      ⟨firstIn, method, methodMember, rfl⟩
    rcases mem_operations_iff.mp otherMember with
      ⟨secondIn, otherMethod, otherMethodMember, rfl⟩
    have keys := Prod.mk.inj same
    have sameMethod :=
      eq_of_lower_eq (second.upper _ otherMethodMember)
        (first.upper _ methodMember) keys.2
    subst sameMethod
    exact
      separate firstIn secondIn keys.1.symm _ methodMember
        otherMethodMember

/-! ## Accepted routers -/

section Accepted

variable {routes : List ApiRoute}

theorem nodup_operationIds_iff
    (distinct : (routes.map ApiRoute.uniqueId).Nodup) :
    ((routes.flatMap (ApiRoute.operations pathFormat)).map
        Operation.operationId).Nodup ↔
      ∀ route ∈ routes, route.includeInSchema = true →
        route.methods.length ≤ 1 := by
  rw [List.map_flatMap, List.nodup_flatMap]
  simp only [ApiRoute.nodup_operationIds_iff]
  refine and_iff_left ?_
  apply (List.pairwise_map.mp distinct).imp
  intro first second different operationId firstId secondId
  rcases List.mem_map.mp firstId with ⟨operation, member, rfl⟩
  rcases List.mem_map.mp secondId with ⟨other, otherMember, same⟩
  rcases ApiRoute.mem_operations_iff.mp member with ⟨-, _, -, rfl⟩
  rcases ApiRoute.mem_operations_iff.mp otherMember with ⟨-, _, -, rfl⟩
  exact different same.symm

theorem nodup_keys_iff
    (distinct : (routes.flatMap ApiRoute.contracts).Nodup) :
    ((routes.flatMap (ApiRoute.operations pathFormat)).map
        Operation.key).Nodup ↔
      ∀ first ∈ routes, ∀ second ∈ routes,
        first.includeInSchema = true → second.includeInSchema = true →
        first.path ≠ second.path →
        pathFormat first.path = pathFormat second.path →
        ∀ method ∈ first.methods, method ∉ second.methods := by
  rw [List.map_flatMap, List.nodup_flatMap,
    and_iff_right fun route _ => route.nodup_keys]
  constructor
  · intro disjoint first firstMember second secondMember firstIn secondIn
      different format
    have symmetric :
        Std.Symm (Function.onFun List.Disjoint fun route =>
          (ApiRoute.operations pathFormat route).map Operation.key) :=
      ⟨fun _ _ apart _ left right => apart right left⟩
    have apart :=
      disjoint.forall firstMember secondMember
        fun same => different (congrArg ApiRoute.path same)
    exact ApiRoute.disjoint_keys_iff.mp apart firstIn secondIn format
  · intro separate
    have contracts := (List.nodup_flatMap.mp distinct).2
    apply contracts.imp_of_mem
    intro first second firstMember secondMember apart
    apply ApiRoute.disjoint_keys_iff.mpr
    intro firstIn secondIn format method methodMember otherMember
    by_cases samePath : first.path = second.path
    · apply @apart (first.path, method)
      · exact List.mem_map.mpr ⟨method, methodMember, rfl⟩
      · rw [samePath]
        exact List.mem_map.mpr ⟨method, otherMember, rfl⟩
    · exact
        separate first firstMember second secondMember firstIn secondIn
          samePath format method methodMember otherMember

end Accepted

/--
Accepted routers give operations with distinct keys and operation IDs exactly
if every route in the schema has at most one method and no two of their paths
have one format and a method in common.
-/
theorem uniqueOperations_iff {routers : List RouterArgument}
    (accepted : validateRoutes routers = .ok ()) :
    UniqueOperations (schemaOperations pathFormat routers) ↔
      OneOperationEach pathFormat (apiRoutes routers) := by
  rcases validateRoutes_eq_ok_iff.mp accepted with
    ⟨-, contracts, operationIds⟩
  constructor
  · intro unique
    exact
      ⟨(nodup_operationIds_iff operationIds).mp unique.operationIds,
        (nodup_keys_iff contracts).mp unique.keys⟩
  · intro each
    exact
      ⟨(nodup_keys_iff contracts).mpr each.separateFormats,
        (nodup_operationIds_iff operationIds).mpr each.singleMethod⟩

/-! ## A router with a route for two methods -/

/-- One endpoint for `GET` and `POST`. -/
def submitRoute : ApiRoute where
  path := "/submit"
  methods := ["GET", "POST"]
  uniqueId := "submit_submit_get"
  nodup := by decide
  upper := by decide

/-- Two endpoints with one method each. -/
def readWriteRouter : RouterArgument :=
  .apiRouter
    { routes :=
        [.apiRoute
          (.single "/items/{item_id}" "GET"
            "read_item_items__item_id__get" upper_get),
        .apiRoute
          (.single "/items/{item_id}" "PUT"
            "write_item_items__item_id__put" upper_put)] }

theorem uniqueOperations_readWriteRouter :
    UniqueOperations (schemaOperations id [readWriteRouter]) := by
  apply (uniqueOperations_iff rfl).mpr
  constructor
  · decide
  · decide

/-- The operations of a route for two methods share their operation ID. -/
theorem not_forall_uniqueOperations :
    ¬∀ (pathFormat : String → String) (routers : List RouterArgument),
      validateRoutes routers = .ok () →
      UniqueOperations (schemaOperations pathFormat routers) := by
  intro unique
  have ids :=
    (unique id [.apiRouter { routes := [.apiRoute submitRoute] }]
      rfl).operationIds
  revert ids
  decide

end FastapiCore
