import FastapiCore.ExceptionMappings

/-!
# Which handler an exception reaches

`install_problem_handlers` and `register_error_mapper` fill the table of
exception handlers.  Starlette looks an exception up along the resolution
order of its class, in two places: the handler for `Exception` is outside the
user's middleware and is only reached when no other handler is found.

Over any class hierarchy, mappers which have passed validation are always
registered, and every exception reaches the handler of a most specific class.
-/

namespace FastapiCore

open Library

/-! ## Handlers -/

/-- What a spec has as its mapper. -/
inductive MapperObject where
  | callable (mapper : RegisteredMapper)
  | other (object : PyObject)

/-- `callable(mapper)`. -/
def MapperObject.isCallable : MapperObject → Bool
  | .callable _ => true
  | .other _ => false

/-- A handler of an application; `library` is one of FastAPI or Starlette. -/
inductive Handler where
  | library (cls : ExcClass)
  | httpException
  | validation
  | unhandled
  | mapped (mapper : MapperObject)

/-- `ErrorMapperSpec`. -/
structure ErrorMapperSpec where
  exceptionType : ExcClass
  mapper : MapperObject

/-- What the registration of handlers changes. -/
structure HandlerState where
  exceptionHandlers : OrderedDict ExcClass Handler
  errorMapperTypes : List ExcClass

/-- The class `RequestValidationError`. -/
def requestValidationError : ExcClass := .other "RequestValidationError"

/-- The class `WebSocketRequestValidationError`. -/
def webSocketRequestValidationError : ExcClass :=
  .other "WebSocketRequestValidationError"

/-- The class `WebSocketException`. -/
def webSocketException : ExcClass := .other "WebSocketException"

namespace HandlerState

/-- The handlers of `FastAPI()`. -/
def new : HandlerState where
  exceptionHandlers :=
    ((OrderedDict.empty.insert .httpException
      (.library .httpException)).insert requestValidationError
        (.library requestValidationError)).insert
          webSocketRequestValidationError
          (.library webSocketRequestValidationError)
  errorMapperTypes := []

variable (state : HandlerState)

/-- `app.add_exception_handler(cls, handler)`. -/
def addExceptionHandler (cls : ExcClass) (handler : Handler) :
    HandlerState :=
  { state with
    exceptionHandlers := state.exceptionHandlers.insert cls handler }

/-- `install_problem_handlers`. -/
def installProblemHandlers : HandlerState :=
  let cleared := { state with errorMapperTypes := [] }
  ((cleared.addExceptionHandler .httpException .httpException
    ).addExceptionHandler requestValidationError .validation
    ).addExceptionHandler exceptionClass .unhandled

/-- The exception for a type with two mappers. -/
def mapperTaken (exceptionType : ExcClass) : PyExc :=
  .valueError
    ("error mapper for '" ++ exceptionType.name ++
      "' is already registered")

/-- `register_error_mapper`. -/
def registerErrorMapper (spec : ErrorMapperSpec) :
    Except PyExc HandlerState :=
  if spec.exceptionType ∈ state.errorMapperTypes then
    .error (mapperTaken spec.exceptionType)
  else
    .ok
      { state.addExceptionHandler spec.exceptionType (.mapped spec.mapper) with
        errorMapperTypes := state.errorMapperTypes ++ [spec.exceptionType] }

end HandlerState

section Registration

variable (hierarchy : ClassHierarchy ExcClass)

/-- The loop of `_validate_error_mappers` over the types seen so far. -/
def validateMapperTypes : List ExcClass → List ErrorMapperSpec →
    Except PyExc Unit
  | _, [] => .ok ()
  | exceptionTypes, spec :: rest =>
      if ¬isExceptionType hierarchy spec.exceptionType then
        .error
          { cls := .typeError
            message :=
              "error mapper exception_type must be an Exception type" }
      else if ¬spec.mapper.isCallable then
        .error
          { cls := .typeError, message := "error mapper must be callable" }
      else if spec.exceptionType ∈ exceptionTypes then
        .error (HandlerState.mapperTaken spec.exceptionType)
      else validateMapperTypes (spec.exceptionType :: exceptionTypes) rest

/-- `_validate_error_mappers`. -/
def validateErrorMappers (mappers : List ErrorMapperSpec) :
    Except PyExc Unit :=
  validateMapperTypes hierarchy [] mappers

/-- What `create_app` does with the error mappers. -/
def installMappers (mappers : List ErrorMapperSpec) :
    Except PyExc HandlerState := do
  validateErrorMappers hierarchy mappers
  mappers.foldlM HandlerState.registerErrorMapper
    HandlerState.new.installProblemHandlers

end Registration

/-! ## The search for a handler -/

namespace HandlerState

/-- The handlers which Starlette begins with. -/
def starletteHandlers : OrderedDict ExcClass Handler :=
  (OrderedDict.empty.insert .httpException
    (.library .httpException)).insert webSocketException
      (.library webSocketException)

variable (state : HandlerState)

/-- The handlers of `ExceptionMiddleware`, without the one for `Exception`. -/
def innerHandlers : OrderedDict ExcClass Handler :=
  starletteHandlers.update (state.exceptionHandlers.erase exceptionClass)

/-- The handler for an exception: an inner one, or that for `Exception`. -/
def handlerFor (mro : ExcClass → List ExcClass) (cls : ExcClass) :
    Option Handler :=
  ((mro cls).findSome? state.innerHandlers.get?).or
    (state.exceptionHandlers.get? exceptionClass)

end HandlerState

/-! ## Which mappers are accepted -/

section Acceptance

variable {hierarchy : ClassHierarchy ExcClass}

/-- Mappers are callables for distinct classes of exceptions. -/
structure ValidMappers (hierarchy : ClassHierarchy ExcClass)
    (mappers : List ErrorMapperSpec) : Prop where
  exceptions : ∀ spec ∈ mappers,
    hierarchy.Inherits spec.exceptionType exceptionClass
  callable : ∀ spec ∈ mappers, spec.mapper.isCallable = true
  distinct : (mappers.map ErrorMapperSpec.exceptionType).Nodup

theorem validateMapperTypes_eq_ok_iff {mappers : List ErrorMapperSpec}
    {seen : List ExcClass} :
    validateMapperTypes hierarchy seen mappers = .ok () ↔
      ValidMappers hierarchy mappers ∧
        ∀ spec ∈ mappers, spec.exceptionType ∉ seen := by
  induction mappers generalizing seen with
  | nil =>
      refine ⟨fun _ => ⟨⟨by simp, by simp, by simp⟩, by simp⟩, fun _ => rfl⟩
  | cons spec rest induction =>
      rw [validateMapperTypes]
      constructor
      · intro passed
        split at passed
        · cases passed
        next exception =>
          split at passed
          · cases passed
          next callable =>
            split at passed
            · cases passed
            next new =>
              rcases induction.mp passed with ⟨valid, unseen⟩
              rw [not_not] at exception callable
              refine ⟨⟨?_, ?_, ?_⟩, ?_⟩
              · exact List.forall_mem_cons.mpr
                  ⟨isExceptionType_iff.mp exception, valid.exceptions⟩
              · exact List.forall_mem_cons.mpr ⟨callable, valid.callable⟩
              · rw [List.map_cons, List.nodup_cons]
                refine ⟨?_, valid.distinct⟩
                intro member
                rcases List.mem_map.mp member with ⟨other, among, same⟩
                exact unseen other among (same ▸ List.mem_cons_self)
              · refine List.forall_mem_cons.mpr ⟨new, ?_⟩
                exact fun other member taken =>
                  unseen other member (.tail _ taken)
      · rintro ⟨valid, unseen⟩
        have exception := isExceptionType_iff.mpr
          (valid.exceptions spec (.head _))
        have callable := valid.callable spec (.head _)
        have distinct := valid.distinct
        rw [List.map_cons, List.nodup_cons] at distinct
        rw [if_neg (not_not.mpr exception), if_neg (not_not.mpr callable),
          if_neg (unseen spec (.head _)), induction]
        refine ⟨⟨?_, ?_, distinct.2⟩, ?_⟩
        · exact fun other member => valid.exceptions other (.tail _ member)
        · exact fun other member => valid.callable other (.tail _ member)
        · intro other member taken
          rcases List.mem_cons.mp taken with same | taken
          · exact distinct.1 (List.mem_map.mpr ⟨other, member, same⟩)
          · exact unseen other (.tail _ member) taken

theorem validateErrorMappers_eq_ok_iff {mappers : List ErrorMapperSpec} :
    validateErrorMappers hierarchy mappers = .ok () ↔
      ValidMappers hierarchy mappers := by
  rw [validateErrorMappers, validateMapperTypes_eq_ok_iff]
  simp

/-- The handlers which mappers bring. -/
def mappedHandlers (mappers : List ErrorMapperSpec) :
    List (ExcClass × Handler) :=
  mappers.map fun spec => (spec.exceptionType, .mapped spec.mapper)

/-- Mappers of new and distinct types are registered one after the other. -/
theorem foldlM_registerErrorMapper {mappers : List ErrorMapperSpec}
    (distinct : (mappers.map ErrorMapperSpec.exceptionType).Nodup)
    {state : HandlerState}
    (new : ∀ spec ∈ mappers, spec.exceptionType ∉ state.errorMapperTypes) :
    mappers.foldlM HandlerState.registerErrorMapper state =
      .ok
        { exceptionHandlers :=
            (mappedHandlers mappers).foldl
              (fun current pair => current.insert pair.1 pair.2)
              state.exceptionHandlers
          errorMapperTypes :=
            state.errorMapperTypes ++
              mappers.map ErrorMapperSpec.exceptionType } := by
  induction mappers generalizing state with
  | nil =>
      rw [List.map_nil, List.append_nil]
      rfl
  | cons spec rest induction =>
      rw [List.map_cons, List.nodup_cons] at distinct
      have registered :
          state.registerErrorMapper spec =
            .ok
              { state.addExceptionHandler spec.exceptionType
                  (.mapped spec.mapper) with
                errorMapperTypes :=
                  state.errorMapperTypes ++ [spec.exceptionType] } :=
        if_neg (new spec (.head _))
      rw [List.foldlM_cons, registered]
      refine (induction distinct.2 ?_).trans ?_
      · intro other member taken
        rcases List.mem_append.mp taken with taken | taken
        · exact new other (.tail _ member) taken
        · exact distinct.1 (List.mem_map.mpr
            ⟨other, member, List.mem_singleton.mp taken⟩)
      · simp [mappedHandlers, HandlerState.addExceptionHandler]

/-- What `create_app` makes of mappers which it accepts. -/
def registered (mappers : List ErrorMapperSpec) : HandlerState where
  exceptionHandlers :=
    (mappedHandlers mappers).foldl
      (fun current pair => current.insert pair.1 pair.2)
      HandlerState.new.installProblemHandlers.exceptionHandlers
  errorMapperTypes := mappers.map ErrorMapperSpec.exceptionType

theorem installMappers_eq_ok_iff {mappers : List ErrorMapperSpec}
    {state : HandlerState} :
    installMappers hierarchy mappers = .ok state ↔
      ValidMappers hierarchy mappers ∧ state = registered mappers := by
  rw [installMappers, check_bind_eq_ok_iff, validateErrorMappers_eq_ok_iff]
  apply and_congr_right
  intro valid
  have all := @foldlM_registerErrorMapper mappers valid.distinct
    HandlerState.new.installProblemHandlers (fun _ _ => List.not_mem_nil)
  rw [all, Except.ok.injEq, eq_comm]
  rfl

end Acceptance

/-! ## The handler of a class -/

/-- The handler which a class has without any mapper. -/
def standardHandler (cls : ExcClass) : Option Handler :=
  if cls = .httpException then some .httpException
  else if cls = requestValidationError then some .validation
  else if cls = webSocketRequestValidationError then
    some (.library webSocketRequestValidationError)
  else if cls = webSocketException then some (.library webSocketException)
  else none

/-- The mapper of a class. -/
def mapperOf (mappers : List ErrorMapperSpec) (cls : ExcClass) :
    Option MapperObject :=
  (mappers.find? fun spec => spec.exceptionType = cls).map
    ErrorMapperSpec.mapper

/-- The handler of a class: its mapper comes before a standard one. -/
def handlerAt (mappers : List ErrorMapperSpec) (cls : ExcClass) :
    Option Handler :=
  ((mapperOf mappers cls).map .mapped).or (standardHandler cls)

/-- A class other than `Exception` has a handler. -/
def isHandled (mappers : List ErrorMapperSpec) (cls : ExcClass) : Bool :=
  cls ≠ exceptionClass ∧ (handlerAt mappers cls).isSome

/-- The handler for `Exception`. -/
def lastHandler (mappers : List ErrorMapperSpec) : Handler :=
  match mapperOf mappers exceptionClass with
  | some mapper => .mapped mapper
  | none => .unhandled

section Search

variable {mappers : List ErrorMapperSpec} {cls : ExcClass}

theorem lastValue_mappedHandlers
    (distinct : (mappers.map ErrorMapperSpec.exceptionType).Nodup) :
    OrderedDict.lastValue (mappedHandlers mappers) cls =
      (mapperOf mappers cls).map .mapped := by
  have keys :
      (mappedHandlers mappers).map Prod.fst =
        mappers.map ErrorMapperSpec.exceptionType := by
    rw [mappedHandlers, List.map_map]
    rfl
  cases found : mappers.find? fun spec => spec.exceptionType = cls with
  | none =>
      rw [mapperOf, found, Option.map_none, Option.map_none,
        OrderedDict.lastValue_eq_none_iff, keys]
      intro member
      rcases List.mem_map.mp member with ⟨spec, among, same⟩
      simpa [same] using List.find?_eq_none.mp found spec among
  | some spec =>
      rw [mapperOf, found, Option.map_some, Option.map_some]
      apply OrderedDict.lastValue_of_mem (keys ▸ distinct)
      have same : spec.exceptionType = cls := by
        simpa using List.find?_some found
      exact List.mem_map.mpr
        ⟨spec, List.mem_of_find?_eq_some found, by rw [same]⟩

theorem get?_installed :
    HandlerState.new.installProblemHandlers.exceptionHandlers.get? cls =
      if cls = exceptionClass then some .unhandled
      else if cls = .httpException then some .httpException
      else if cls = requestValidationError then some .validation
      else if cls = webSocketRequestValidationError then
        some (.library webSocketRequestValidationError)
      else none := by
  simp only [HandlerState.installProblemHandlers,
    HandlerState.addExceptionHandler, HandlerState.new]
  by_cases outermost : cls = exceptionClass
  · rw [if_pos outermost, outermost, OrderedDict.get?_insert_self]
  rw [if_neg outermost, OrderedDict.get?_insert_of_ne outermost]
  by_cases validation : cls = requestValidationError
  · subst validation
    rw [OrderedDict.get?_insert_self]
    rfl
  rw [OrderedDict.get?_insert_of_ne validation]
  by_cases http : cls = .httpException
  · rw [if_pos http, http, OrderedDict.get?_insert_self]
  rw [if_neg http, if_neg validation, OrderedDict.get?_insert_of_ne http]
  by_cases webSocket : cls = webSocketRequestValidationError
  · rw [if_pos webSocket, webSocket, OrderedDict.get?_insert_self]
  rw [if_neg webSocket, OrderedDict.get?_insert_of_ne webSocket,
    OrderedDict.get?_insert_of_ne validation,
    OrderedDict.get?_insert_of_ne http, OrderedDict.get?_empty]

theorem get?_starletteHandlers :
    HandlerState.starletteHandlers.get? cls =
      if cls = .httpException then some (.library .httpException)
      else if cls = webSocketException then
        some (.library webSocketException)
      else none := by
  rw [HandlerState.starletteHandlers]
  by_cases webSocket : cls = webSocketException
  · subst webSocket
    rw [OrderedDict.get?_insert_self]
    rfl
  rw [OrderedDict.get?_insert_of_ne webSocket]
  by_cases http : cls = .httpException
  · rw [if_pos http, http, OrderedDict.get?_insert_self]
  · rw [if_neg http, if_neg webSocket, OrderedDict.get?_insert_of_ne http,
      OrderedDict.get?_empty]

/-- The inner handlers are those of the classes other than `Exception`. -/
theorem get?_innerHandlers
    (distinct : (mappers.map ErrorMapperSpec.exceptionType).Nodup) :
    (registered mappers).innerHandlers.get? cls =
      if cls = exceptionClass then none else handlerAt mappers cls := by
  rw [HandlerState.innerHandlers, OrderedDict.get?_update]
  by_cases outermost : cls = exceptionClass
  · rw [if_pos outermost, outermost, OrderedDict.get?_erase_self,
      Option.none_or]
    rfl
  · rw [if_neg outermost, OrderedDict.get?_erase_of_ne outermost, registered,
      OrderedDict.get?_foldl_insert, lastValue_mappedHandlers distinct,
      get?_installed, if_neg outermost, get?_starletteHandlers, handlerAt,
      Option.or_assoc]
    apply congrArg
    rw [standardHandler]
    split
    · rfl
    split
    · rfl
    split
    · rfl
    · rw [Option.none_or]

theorem get?_exceptionClass
    (distinct : (mappers.map ErrorMapperSpec.exceptionType).Nodup) :
    (registered mappers).exceptionHandlers.get? exceptionClass =
      some (lastHandler mappers) := by
  rw [registered, OrderedDict.get?_foldl_insert,
    lastValue_mappedHandlers distinct, get?_installed, if_pos rfl,
    lastHandler]
  cases mapperOf mappers exceptionClass with
  | none => rfl
  | some mapper => rfl

theorem findSome?_eq_bind_find? {κ ν : Type} (classes : List κ)
    (lookup : κ → Option ν) :
    classes.findSome? lookup =
      (classes.find? fun key => (lookup key).isSome).bind lookup := by
  induction classes with
  | nil => rfl
  | cons first rest induction =>
      rw [List.findSome?_cons, List.find?_cons]
      cases found : lookup first with
      | none => exact induction
      | some value => exact found.symm

/-- The search as one along the classes which have handlers. -/
theorem handlerFor_registered
    (distinct : (mappers.map ErrorMapperSpec.exceptionType).Nodup)
    (mro : ExcClass → List ExcClass) :
    (registered mappers).handlerFor mro cls =
      (((mro cls).find? (isHandled mappers)).bind (handlerAt mappers)).or
        (some (lastHandler mappers)) := by
  have lookup :
      (registered mappers).innerHandlers.get? = fun key =>
        if key = exceptionClass then none else handlerAt mappers key := by
    funext key
    exact get?_innerHandlers distinct
  have handled :
      (fun key =>
        ((registered mappers).innerHandlers.get? key).isSome) =
        isHandled mappers := by
    funext key
    rw [lookup, isHandled]
    by_cases outermost : key = exceptionClass
    · simp [outermost]
    · simp [outermost]
  rw [HandlerState.handlerFor, get?_exceptionClass distinct,
    findSome?_eq_bind_find?, handled]
  cases found : (mro cls).find? (isHandled mappers) with
  | none => rfl
  | some key =>
      have inner : key ≠ exceptionClass := by
        have accepted := List.find?_some found
        simp only [isHandled, decide_eq_true_eq] at accepted
        exact accepted.1
      rw [Option.bind_some, Option.bind_some, lookup]
      simp only [if_neg inner]

end Search

/-! ## The law of the search -/

section Law

variable {hierarchy : ClassHierarchy ExcClass}
  {mappers others : List ErrorMapperSpec}

/-- The handler in the whole table, that for `Exception` included. -/
def tableHandler (mappers : List ErrorMapperSpec) (cls : ExcClass) :
    Option Handler :=
  if cls = exceptionClass then some (lastHandler mappers)
  else handlerAt mappers cls

/-- The classes which have a handler without any mapper are exceptions. -/
def StandardExceptions (hierarchy : ClassHierarchy ExcClass) : Prop :=
  ∀ cls, (standardHandler cls).isSome → hierarchy.Inherits cls exceptionClass

theorem exists_mem_of_mapperOf {cls : ExcClass} {mapper : MapperObject}
    (found : mapperOf mappers cls = some mapper) :
    ∃ spec ∈ mappers, spec.exceptionType = cls ∧ spec.mapper = mapper := by
  rcases Option.map_eq_some_iff.mp found with ⟨spec, first, same⟩
  exact ⟨spec, List.mem_of_find?_eq_some first,
    by simpa using List.find?_some first, same⟩

theorem mapperOf_eq_some_iff
    (distinct : (mappers.map ErrorMapperSpec.exceptionType).Nodup)
    {cls : ExcClass} {mapper : MapperObject} :
    mapperOf mappers cls = some mapper ↔
      ∃ spec ∈ mappers, spec.exceptionType = cls ∧ spec.mapper = mapper := by
  refine ⟨exists_mem_of_mapperOf, ?_⟩
  rintro ⟨spec, member, rfl, rfl⟩
  have matched : (mappers.find? fun other =>
      other.exceptionType = spec.exceptionType).isSome := by
    rw [List.find?_isSome]
    exact ⟨spec, member, by simp⟩
  rcases Option.isSome_iff_exists.mp matched with ⟨other, first⟩
  have same : other.exceptionType = spec.exceptionType := by
    simpa using List.find?_some first
  have equal := List.inj_on_of_nodup_map distinct
    (List.mem_of_find?_eq_some first) member same
  rw [mapperOf, first, equal]
  rfl

/-- A class with a handler is a class of exceptions. -/
theorem inherits_of_handlerAt (standard : StandardExceptions hierarchy)
    (valid : ValidMappers hierarchy mappers) {cls : ExcClass}
    (handled : (handlerAt mappers cls).isSome) :
    hierarchy.Inherits cls exceptionClass := by
  cases found : mapperOf mappers cls with
  | none =>
      rw [handlerAt, found] at handled
      exact standard cls handled
  | some mapper =>
      rcases exists_mem_of_mapperOf found with ⟨spec, member, rfl, -⟩
      exact valid.exceptions spec member

/--
The search in two places finds the handler of a most specific class, as one
search in the whole table does.
-/
theorem exists_mostSpecific (standard : StandardExceptions hierarchy)
    (valid : ValidMappers hierarchy mappers) {cls : ExcClass}
    (exception : hierarchy.Inherits cls exceptionClass) :
    ∃ key handler,
      hierarchy.MostSpecific
        (fun key => (tableHandler mappers key).isSome) cls key ∧
      tableHandler mappers key = some handler ∧
      (registered mappers).handlerFor hierarchy.mro cls = some handler := by
  rw [handlerFor_registered valid.distinct]
  cases found : (hierarchy.mro cls).find? (isHandled mappers) with
  | none =>
      have unhandled := ClassHierarchy.find?_mro_eq_none_iff.mp found
      refine ⟨exceptionClass, lastHandler mappers, ⟨exception, rfl, ?_⟩,
        if_pos rfl, rfl⟩
      intro other inherits handled _
      by_contra different
      have absent := unhandled other inherits
      rw [tableHandler, if_neg different] at handled
      rw [isHandled, decide_eq_false_iff_not] at absent
      exact absent ⟨different, handled⟩
  | some key =>
      have first := ClassHierarchy.mostSpecific_of_find? found
      have accepted := first.accepted
      rw [isHandled, decide_eq_true_eq] at accepted
      rcases Option.isSome_iff_exists.mp accepted.2 with ⟨handler, handled⟩
      have lookup : tableHandler mappers key = some handler := by
        rw [tableHandler, if_neg accepted.1, handled]
      refine ⟨key, handler, ⟨first.inherits, ?_, ?_⟩, lookup, ?_⟩
      · rw [lookup]
        rfl
      · intro other inherits isSome below
        -- `Exception` is no proper subclass of a class with a handler.
        by_cases outermost : other = exceptionClass
        · subst outermost
          have above := inherits_of_handlerAt standard valid accepted.2
          exact above.antisymm below
        · rw [tableHandler, if_neg outermost] at isSome
          apply first.minimal other inherits _ below
          rw [isHandled, decide_eq_true_eq]
          exact ⟨outermost, isSome⟩
      · rw [Option.bind_some, handled]
        rfl

theorem ValidMappers.of_perm (valid : ValidMappers hierarchy mappers)
    (perm : mappers.Perm others) : ValidMappers hierarchy others where
  exceptions spec member := valid.exceptions spec (perm.mem_iff.mpr member)
  callable spec member := valid.callable spec (perm.mem_iff.mpr member)
  distinct := (perm.map _).nodup_iff.mp valid.distinct

theorem mapperOf_of_perm
    (distinct : (mappers.map ErrorMapperSpec.exceptionType).Nodup)
    (perm : mappers.Perm others) : mapperOf others = mapperOf mappers := by
  funext cls
  ext mapper
  have same := (perm.map ErrorMapperSpec.exceptionType).nodup_iff.mp distinct
  rw [mapperOf_eq_some_iff same, mapperOf_eq_some_iff distinct]
  simp only [perm.mem_iff]

/-- The handler of an exception does not depend on the order of mappers. -/
theorem handlerFor_of_perm (valid : ValidMappers hierarchy mappers)
    (perm : mappers.Perm others) (cls : ExcClass) :
    (registered others).handlerFor hierarchy.mro cls =
      (registered mappers).handlerFor hierarchy.mro cls := by
  have same := mapperOf_of_perm valid.distinct perm
  have handlers : handlerAt others = handlerAt mappers := by
    funext key
    rw [handlerAt, handlerAt, same]
  have last : lastHandler others = lastHandler mappers := by
    rw [lastHandler, lastHandler, same]
  have handled : isHandled others = isHandled mappers := by
    funext key
    rw [isHandled, isHandled, handlers]
  rw [handlerFor_registered valid.distinct,
    handlerFor_registered (valid.of_perm perm).distinct, handlers, last,
    handled]

/--
Mappers are accepted exactly if they are callables for distinct exceptions;
then every exception reaches the handler of a most specific class which has one.
-/
theorem installMappers_dispatches
    (standard : StandardExceptions hierarchy)
    (mappers : List ErrorMapperSpec) :
    ((∃ state, installMappers hierarchy mappers = .ok state) ↔
        ValidMappers hierarchy mappers) ∧
      ∀ state, installMappers hierarchy mappers = .ok state →
        ∀ cls, hierarchy.Inherits cls exceptionClass →
          ∃ key handler,
            hierarchy.MostSpecific
              (fun key => (tableHandler mappers key).isSome) cls key ∧
            tableHandler mappers key = some handler ∧
            state.handlerFor hierarchy.mro cls = some handler := by
  constructor
  · simp only [installMappers_eq_ok_iff, exists_and_left, exists_eq,
      and_true]
  · intro state installed cls exception
    rcases installMappers_eq_ok_iff.mp installed with ⟨valid, rfl⟩
    exact exists_mostSpecific standard valid exception

/-- Mappers in another order are accepted alike and handle alike. -/
theorem installMappers_unordered (perm : mappers.Perm others) :
    ((∃ state, installMappers hierarchy mappers = .ok state) ↔
        ∃ state, installMappers hierarchy others = .ok state) ∧
      ∀ state same, installMappers hierarchy mappers = .ok state →
        installMappers hierarchy others = .ok same →
          ∀ cls, same.handlerFor hierarchy.mro cls =
            state.handlerFor hierarchy.mro cls := by
  constructor
  · simp only [installMappers_eq_ok_iff, exists_and_left, exists_eq,
      and_true]
    exact ⟨fun valid => valid.of_perm perm,
      fun valid => valid.of_perm perm.symm⟩
  · intro state same installed others cls
    rcases installMappers_eq_ok_iff.mp installed with ⟨valid, rfl⟩
    rcases installMappers_eq_ok_iff.mp others with ⟨-, rfl⟩
    exact handlerFor_of_perm valid perm cls

end Law

/-! ## A family of exceptions -/

/-- The proper ancestors of exceptions, of which one is for HTTP. -/
def familyBases (cls : ExcClass) : List ExcClass :=
  if cls = exceptionClass then []
  else if cls = .other "MissingItem" then [.httpException, exceptionClass]
  else [exceptionClass]

theorem mem_familyBases {cls : ExcClass} (proper : cls ≠ exceptionClass) :
    exceptionClass ∈ familyBases cls := by
  rw [familyBases, if_neg proper]
  split
  · exact .tail _ (.head _)
  · exact .head _

theorem familyBases_trans {cls middle ancestor : ExcClass}
    (below : middle ∈ familyBases cls)
    (above : ancestor ∈ familyBases middle) : ancestor = exceptionClass := by
  by_cases missing : middle = .other "MissingItem"
  · -- No class inherits from `MissingItem`.
    subst missing
    unfold familyBases at below
    split at below
    · cases below
    split at below
    · exact absurd below (by decide)
    · exact absurd below (by decide)
  · unfold familyBases at above
    rw [if_neg missing] at above
    split at above
    · cases above
    · exact List.mem_singleton.mp above

/-- All classes are exceptions, and `MissingItem` is one for HTTP. -/
def family : ClassHierarchy ExcClass where
  Inherits cls ancestor := ancestor ∈ cls :: familyBases cls
  mro cls := cls :: familyBases cls
  refl _ := List.mem_cons_self
  trans := by
    intro cls middle ancestor below above
    rcases List.mem_cons.mp below with rfl | below
    · exact above
    · rcases List.mem_cons.mp above with rfl | above
      · exact List.mem_cons_of_mem _ below
      · rw [familyBases_trans below above]
        by_cases same : cls = exceptionClass
        · exact same ▸ List.mem_cons_self
        · exact List.mem_cons_of_mem _ (mem_familyBases same)
  mem_mro := Iff.rfl
  ordered := by
    intro cls
    unfold familyBases
    split
    · exact List.pairwise_singleton _ _
    · next proper =>
        split
        · next missing =>
            subst missing
            decide
        · rw [List.pairwise_pair]
          intro member
          rcases List.mem_cons.mp member with same | inherited
          · exact proper same
          · cases inherited

/-- A mapper for the class `HTTPException`. -/
def httpMapper : ErrorMapperSpec where
  exceptionType := .httpException
  mapper :=
    .callable fun _ _ => .ok { statusCode := 502, detail := "gateway" }

theorem inherits_family (cls : ExcClass) :
    family.Inherits cls exceptionClass := by
  by_cases same : cls = exceptionClass
  · exact same ▸ family.refl cls
  · exact List.mem_cons_of_mem _ (mem_familyBases same)

theorem installMappers_httpMapper :
    ∃ key handler,
      family.MostSpecific
        (fun key => (tableHandler [httpMapper] key).isSome)
        (.other "MissingItem") key ∧
      tableHandler [httpMapper] key = some handler ∧
      (registered [httpMapper]).handlerFor family.mro
        (.other "MissingItem") = some handler :=
  (installMappers_dispatches (fun cls _ => inherits_family cls)
    [httpMapper]).2 _ rfl _ (inherits_family _)

/-- A mapper for the class `MissingItem`. -/
def missingMapper : ErrorMapperSpec where
  exceptionType := .other "MissingItem"
  mapper := .callable fun _ _ => .ok { statusCode := 410, detail := "gone" }

theorem installMappers_swapped :
    (registered [missingMapper, httpMapper]).handlerFor family.mro
        (.other "MissingItem") =
      (registered [httpMapper, missingMapper]).handlerFor family.mro
        (.other "MissingItem") :=
  (installMappers_unordered (List.Perm.swap missingMapper httpMapper [])).2
    _ _ rfl rfl _

end FastapiCore
