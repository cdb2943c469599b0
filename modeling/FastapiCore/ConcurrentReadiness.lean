import FastapiCore.HealthRouter
import FastapiCore.ReadinessCheckLaw
import FastapiCore.Library.Transition

/-!
# Readiness requests while the registry changes

A readiness request selects its checks when it is received, awaits them, and
then reads the registry again for the policies of what they have reported.
In between other tasks register and unregister checks, and other requests are
received and answered.

The answer depends on the registry at two moments only, whatever the order of
the steps.  It is the one which a request without any other task would get if
no change concerns a name which is reported, and it is an exception if a
reported entry has lost its spec.
-/

namespace FastapiCore

open Library

/-! ## The steps -/

/-- A change which another task makes to the registry. -/
inductive RegistryChange where
  | register (spec : ReadinessCheckSpec)
  | unregister (name : Name)

/-- The name which a change is about. -/
def RegistryChange.name : RegistryChange → Name
  | .register spec => spec.name
  | .unregister name => name

/-- The registry after a change; a refused one raises in the other task. -/
def ReadinessRegistry.change (registry : ReadinessRegistry) :
    RegistryChange → ReadinessRegistry
  | .register spec =>
      match registry.register spec with
      | .ok next => next
      | .error _ => registry
  | .unregister name => registry.unregister name

/-- The registry after several changes. -/
def ReadinessRegistry.changed (registry : ReadinessRegistry)
    (changes : List RegistryChange) : ReadinessRegistry :=
  changes.foldl ReadinessRegistry.change registry

/-- A request which awaits the checks which it has selected. -/
structure ReadinessRequest where
  config : AppConfig
  environment : CheckEnvironment
  selected : ReadinessRegistry

/-- The result which the awaited checks come to, returned or raised. -/
def ReadinessRequest.result? (sdk : HealthSdk)
    (request : ReadinessRequest) : Option HealthCheckResult :=
  if request.selected.specList = [] then none
  else
    match
      request.selected.check sdk request.environment none
        request.config.readinessParallel
        request.config.readinessOverallTimeoutSeconds
    with
    | some (.ok result) => some result
    | some (.error (.healthCheckError _ result)) => some result
    | _ => none

/-- What the request is answered, by the registry as it is later. -/
def ReadinessRequest.answer (sdk : HealthSdk) (request : ReadinessRequest)
    (later : ReadinessRegistry) : Option (Except PyExc HealthReply) :=
  if request.selected.specList = [] then
    some (.ok (.model { status := .ok }))
  else
    match
      request.selected.check sdk request.environment none
        request.config.readinessParallel
        request.config.readinessOverallTimeoutSeconds
    with
    | none => none
    | some (.ok result) => some (respond later result)
    | some (.error (.healthCheckError _ result)) =>
        some (respond later result)
    | some (.error .timeoutError) =>
        some (.ok (.jsonResponse 503 { status := .error }))
    | some (.error (.raised exception)) => some (.error exception)

/-- The registry of an application, and the requests which await checks. -/
structure HealthServer where
  registry : ReadinessRegistry
  waiting : List (Nat × ReadinessRequest) := []

/-- What happens in one step. -/
inductive HealthLabel where
  | change (change : RegistryChange)
  | receive (id : Nat) (config : AppConfig) (environment : CheckEnvironment)
  | reply (id : Nat) (answer : Except PyExc HealthReply)

/-- One step of a request or of another task. -/
inductive HealthStep (sdk : HealthSdk) :
    HealthServer → HealthLabel → HealthServer → Prop where
  | change {server : HealthServer} (change : RegistryChange) :
      HealthStep sdk server (.change change)
        { server with registry := server.registry.change change }
  | receive {server : HealthServer} (id : Nat) (config : AppConfig)
      (environment : CheckEnvironment)
      (fresh : id ∉ server.waiting.map Prod.fst) :
      HealthStep sdk server (.receive id config environment)
        { server with
          waiting :=
            (id, ⟨config, environment, server.registry⟩) ::
              server.waiting }
  | reply {server : HealthServer} {id : Nat} {request : ReadinessRequest}
      {answer : Except PyExc HealthReply}
      (waits : (id, request) ∈ server.waiting)
      (answers : request.answer sdk server.registry = some answer) :
      HealthStep sdk server (.reply id answer)
        { server with
          waiting := server.waiting.filter fun entry => entry.1 ≠ id }

/-- The request which a step receives or answers. -/
def HealthLabel.request? : HealthLabel → Option Nat
  | .change _ => none
  | .receive id _ _ => some id
  | .reply id _ => some id

/-- The changes among the steps. -/
def changesOf (labels : List HealthLabel) : List RegistryChange :=
  labels.filterMap fun
    | .change change => some change
    | _ => none

/-! ## What changes do to a name -/

/-- Whether a name is registered after a change. -/
def RegistryChange.leaves (name : Name) (registered : Bool) :
    RegistryChange → Bool
  | .register spec =>
      registered ||
        (spec.name = name && !isBlank spec.name &&
          !rejectedTimeout spec.timeoutSeconds)
  | .unregister other => registered && other ≠ name

namespace ReadinessRegistry

variable (registry : ReadinessRegistry)

/-- Whether a name is registered after several changes. -/
def Survives (changes : List RegistryChange) (name : Name) : Prop :=
  changes.foldl (RegistryChange.leaves name) (name ∈ registry.names) = true

variable {registry}

theorem defaultTimeoutSeconds_change (change : RegistryChange) :
    (registry.change change).defaultTimeoutSeconds =
      registry.defaultTimeoutSeconds := by
  cases change with
  | unregister name => exact Eq.refl _
  | register spec =>
      simp only [ReadinessRegistry.change]
      split
      · next next registered =>
          exact (register_eq_ok_iff.mp registered).2.2.2.1
      · exact Eq.refl _

/-- A change leaves the specs of other names. -/
theorem get?_change_of_ne {change : RegistryChange} {name : Name}
    (other : change.name ≠ name) :
    (registry.change change).specs.get? name = registry.specs.get? name := by
  cases change with
  | unregister removed =>
      exact OrderedDict.get?_erase_of_ne (Ne.symm other)
  | register spec =>
      simp only [ReadinessRegistry.change]
      split
      · next next registered =>
          rw [(register_eq_ok_iff.mp registered).2.2.2.2]
          exact OrderedDict.get?_insert_of_ne (Ne.symm other) spec
      · exact Eq.refl _

theorem mem_names_change_iff {change : RegistryChange} {name : Name} :
    name ∈ (registry.change change).names ↔
      change.leaves name (name ∈ registry.names) = true := by
  cases change with
  | unregister removed =>
      simp only [RegistryChange.leaves, Bool.and_eq_true, decide_eq_true_eq]
      refine OrderedDict.mem_keys_erase.trans ?_
      rw [and_comm, ne_comm]
      exact Iff.rfl
  | register spec =>
      simp only [RegistryChange.leaves, Bool.or_eq_true, Bool.and_eq_true,
        Bool.not_eq_true', decide_eq_true_eq, ReadinessRegistry.change]
      split
      · next next registered =>
          rcases register_eq_ok_iff.mp registered with
            ⟨notBlank, new, positive, -, specs⟩
          have names : name ∈ next.names ↔
              name = spec.name ∨ name ∈ registry.names := by
            simp only [ReadinessRegistry.names, specs]
            exact OrderedDict.mem_keys_insert
          rw [names, or_comm, eq_comm, and_assoc,
            and_iff_left (And.intro notBlank positive)]
      · next exception refused =>
          constructor
          · exact Or.inl
          · rintro (present | ⟨⟨rfl, notBlank⟩, positive⟩)
            · exact present
            · by_contra absent
              have accepted :=
                (register_isOk_iff_of_registeredAs
                  ⟨rfl, notBlank, positive⟩).mpr absent
              rcases accepted with ⟨next, accepted⟩
              rw [refused] at accepted
              cases accepted

theorem mem_names_changed_iff {changes : List RegistryChange}
    {name : Name} :
    name ∈ (registry.changed changes).names ↔
      registry.Survives changes name := by
  induction changes generalizing registry with
  | nil =>
      simp only [Survives, List.foldl_nil, decide_eq_true_eq]
      exact Iff.rfl
  | cons change rest induction =>
      have first :
          decide (name ∈ (registry.change change).names) =
            change.leaves name (name ∈ registry.names) := by
        rw [Bool.eq_iff_iff, decide_eq_true_eq]
        exact mem_names_change_iff
      refine induction.trans ?_
      simp only [Survives, List.foldl_cons, first]

/-- A name resolves if it is registered, or its first segment is. -/
theorem resolves_iff {name : Name} :
    registry.Resolves name ↔
      name ∈ registry.names ∨ firstSegment name ∈ registry.names := by
  simp only [Resolves, resolveSpec, ReadinessRegistry.names,
    ← OrderedDict.get?_isSome_iff]
  cases registry.specs.get? name with
  | some spec => simp
  | none => cases registry.specs.get? (firstSegment name) <;> simp

theorem resolveSpec_eq_error_iff {name : Name} {exception : PyExc} :
    registry.resolveSpec name = .error exception ↔
      ¬registry.Resolves name ∧
        exception = .keyError (firstSegment name) := by
  simp only [Resolves, resolveSpec]
  cases registry.specs.get? name with
  | some spec => simp
  | none =>
      cases registry.specs.get? (firstSegment name) with
      | some spec => simp
      | none => simp [eq_comm]

theorem defaultTimeoutSeconds_changed (changes : List RegistryChange) :
    (registry.changed changes).defaultTimeoutSeconds =
      registry.defaultTimeoutSeconds := by
  induction changes generalizing registry with
  | nil => exact Eq.refl _
  | cons change rest induction =>
      exact induction.trans (defaultTimeoutSeconds_change change)

theorem changed_append (earlier later : List RegistryChange) :
    registry.changed (earlier ++ later) =
      (registry.changed earlier).changed later :=
  List.foldl_append

theorem get?_changed_of_ne {changes : List RegistryChange} {name : Name}
    (others : ∀ change ∈ changes, change.name ≠ name) :
    (registry.changed changes).specs.get? name =
      registry.specs.get? name := by
  induction changes generalizing registry with
  | nil => exact Eq.refl _
  | cons change rest induction =>
      rw [List.forall_mem_cons] at others
      exact (induction others.2).trans (get?_change_of_ne others.1)

end ReadinessRegistry

/-! ## The response by a later registry -/

section Respond

variable {later : ReadinessRegistry} {result : HealthCheckResult}

/-- The response depends on the policies of the reported names. -/
theorem respond_congr {registry : ReadinessRegistry}
    (timeouts :
      later.defaultTimeoutSeconds = registry.defaultTimeoutSeconds)
    (policies :
      ∀ service ∈ result.services,
        later.resolveSpec service.service =
          registry.resolveSpec service.service) :
    respond later result = respond registry result := by
  have details :
      (result.services.mapM fun service =>
          (readinessDetail later service).map (service.service, ·)) =
        result.services.mapM fun service =>
          (readinessDetail registry service).map (service.service, ·) := by
    apply mapM_congr_left
    intro service member
    simp only [readinessDetail_eq, policies service member,
      ReadinessRegistry.detailUnder, policyError,
      ReadinessRegistry.effectiveTimeout, timeouts]
  simp only [respond, collectDetails_eq, details]

/-- The first entry without a spec decides the exception. -/
theorem respond_eq_error_iff {exception : PyExc} :
    respond later result = .error exception ↔
      ∃ before service rest, result.services = before ++ service :: rest ∧
        (∀ earlier ∈ before, later.Resolves earlier.service) ∧
          ¬later.Resolves service.service ∧
            exception = .keyError (firstSegment service.service) := by
  have detail (service : ServiceHealthStatus) :
      ((readinessDetail later service).map (service.service, ·) =
          .error exception ↔
        later.resolveSpec service.service = .error exception) ∧
      ((∃ named,
          (readinessDetail later service).map (service.service, ·) =
            .ok named) ↔
        later.Resolves service.service) := by
    simp only [readinessDetail_eq, ReadinessRegistry.Resolves]
    cases later.resolveSpec service.service with
    | error raised => simp [Except.map]
    | ok spec => simp [Except.map]
  have raises :
      respond later result = .error exception ↔
        (result.services.mapM fun service =>
            (readinessDetail later service).map (service.service, ·)) =
          .error exception := by
    simp only [respond, collectDetails_eq]
    cases result.services.mapM fun service =>
        (readinessDetail later service).map (service.service, ·) with
    | error raised => simp [Except.map]
    | ok named => simp [Except.map]
  simp only [raises, mapM_eq_error_iff, (detail _).1, (detail _).2,
    ReadinessRegistry.resolveSpec_eq_error_iff]

/-- The status is 503 exactly if a failing entry is required by now. -/
theorem statusCode_respond_iff {reply : HealthReply}
    (responded : respond later result = .ok reply) :
    reply.statusCode = 503 ↔
      ∃ service ∈ result.services, service.ok = false ∧
        ∃ spec, later.resolveSpec service.service = .ok spec ∧
          spec.required = true := by
  have resolved := respond_isOk_iff.mp ⟨reply, responded⟩
  rw [respond_eq_ok resolved, Except.ok.injEq] at responded
  have error : reply.statusCode = 503 ↔
      ((later.visibleDetails result.services).foldl CollectedDetails.store
        {}).RequiredFailure := by
    rw [← responded, ← CollectedDetails.reply_error_iff,
      CollectedDetails.reply]
    split
    · next error =>
        simp [error, HealthReply.statusCode, HealthReply.body]
    · next other =>
        simp [HealthReply.statusCode]
  simp only [error, CollectedDetails.RequiredFailure, failures_foldl_store,
    List.nil_append, List.mem_filter, ReadinessRegistry.visibleDetails,
    List.mem_map, Bool.not_eq_true']
  constructor
  · rintro ⟨_, ⟨⟨service, member, rfl⟩, notOk⟩, required⟩
    rcases resolved service member with ⟨spec, governs⟩
    rw [later.visibleDetail_of_resolveSpec governs] at required
    exact ⟨service, member, later.visibleDetail_ok service ▸ notOk, spec,
      governs, required⟩
  · rintro ⟨service, member, notOk, spec, governs, required⟩
    refine ⟨_, ⟨⟨service, member, rfl⟩, ?_⟩, ?_⟩
    · exact (later.visibleDetail_ok service).trans notOk
    · rw [later.visibleDetail_of_resolveSpec governs]
      exact required

end Respond

/-! ## One request -/

namespace ReadinessRequest

variable {sdk : HealthSdk} (request : ReadinessRequest)

/-- No change is about a reported name, or about its first segment. -/
def Untouched (sdk : HealthSdk) (changes : List RegistryChange) : Prop :=
  ∀ result, request.result? sdk = some result →
    ∀ service ∈ result.services, ∀ change ∈ changes,
      change.name ≠ service.service ∧
        change.name ≠ firstSegment service.service

/-- What a request without any other task is answered. -/
def alone (sdk : HealthSdk) : Option (Except PyExc HealthReply) :=
  readiness request.selected request.config sdk request.environment

variable {request}

theorem answer_selected :
    request.answer sdk request.selected = request.alone sdk :=
  Eq.refl _

/-- A request whose checks come to a result is answered for the result. -/
theorem answer_of_result {result : HealthCheckResult}
    (reported : request.result? sdk = some result)
    (later : ReadinessRegistry) :
    request.answer sdk later = some (respond later result) := by
  simp only [result?] at reported
  simp only [answer]
  split at reported
  · cases reported
  · next nonempty =>
      rw [if_neg nonempty]
      split at reported
      · next checked =>
          cases reported
          rw [checked]
      · next checked =>
          cases reported
          rw [checked]
      · cases reported

/-- Without a result the registry is not read again. -/
theorem answer_of_unreported (unreported : request.result? sdk = none)
    (later : ReadinessRegistry) :
    request.answer sdk later = request.alone sdk := by
  rw [← answer_selected]
  simp only [result?] at unreported
  simp only [answer]
  split
  · exact Eq.refl _
  · next nonempty =>
      rw [if_neg nonempty] at unreported
      split at unreported
      · cases unreported
      · cases unreported
      · next returned raised =>
          split
          · exact Eq.refl _
          · next checked => exact (returned _ checked).elim
          · next checked => exact (raised _ _ checked).elim
          · exact Eq.refl _
          · exact Eq.refl _

/-- A name governs an entry by the registry after the changes. -/
def Governs (request : ReadinessRequest) (changes : List RegistryChange)
    (name : Name) : Prop :=
  request.selected.Survives changes name ∨
    request.selected.Survives changes (firstSegment name)

theorem resolves_changed_iff {changes : List RegistryChange} {name : Name} :
    (request.selected.changed changes).Resolves name ↔
      request.Governs changes name := by
  simp only [Governs, ReadinessRegistry.resolves_iff,
    ReadinessRegistry.mem_names_changed_iff]

/-- What the answer says if the registry is changed in the meantime. -/
structure AnsweredAmid (request : ReadinessRequest) (sdk : HealthSdk)
    (changes : List RegistryChange) (answer : Except PyExc HealthReply) :
    Prop where
  unreported :
    request.result? sdk = none → request.alone sdk = some answer
  untouched :
    request.Untouched sdk changes → request.alone sdk = some answer
  returned :
    ∀ result, request.result? sdk = some result →
      ((∃ reply, answer = .ok reply) ↔
        ∀ service ∈ result.services,
          request.Governs changes service.service)
  raised :
    ∀ result, request.result? sdk = some result →
      ∀ exception, answer = .error exception ↔
        ∃ before service rest,
          result.services = before ++ service :: rest ∧
            (∀ earlier ∈ before,
              request.Governs changes earlier.service) ∧
            ¬request.Governs changes service.service ∧
              exception = .keyError (firstSegment service.service)
  unavailable :
    ∀ result, request.result? sdk = some result →
      ∀ reply, answer = .ok reply →
        (reply.statusCode = 503 ↔
          ∃ service ∈ result.services, service.ok = false ∧
            ∃ spec,
              (request.selected.changed changes).resolveSpec
                  service.service = .ok spec ∧
                spec.required = true)

/-- Every answer after some changes has these properties. -/
theorem answeredAmid_of_answer {changes : List RegistryChange}
    {answer : Except PyExc HealthReply}
    (answers :
      request.answer sdk (request.selected.changed changes) =
        some answer) :
    request.AnsweredAmid sdk changes answer := by
  cases reported : request.result? sdk with
  | none =>
      have same := (answer_of_unreported reported _).symm.trans answers
      refine ⟨fun _ => same, fun _ => same, ?_, ?_, ?_⟩
      all_goals
        intro result other
        rw [reported] at other
        cases other
  | some result =>
      have response :
          respond (request.selected.changed changes) result = answer :=
        Option.some.inj ((answer_of_result reported _).symm.trans answers)
      refine ⟨?_, ?_, ?_, ?_, ?_⟩
      · intro unreported
        rw [reported] at unreported
        cases unreported
      · intro untouched
        rw [← answer_selected, answer_of_result reported, ← response]
        apply congrArg some
        apply Eq.symm
        apply respond_congr
        · exact ReadinessRegistry.defaultTimeoutSeconds_changed changes
        · intro service member
          have others := untouched result reported service member
          simp only [ReadinessRegistry.resolveSpec,
            ReadinessRegistry.get?_changed_of_ne
              fun change changed => (others change changed).1,
            ReadinessRegistry.get?_changed_of_ne
              fun change changed => (others change changed).2]
      · intro other same
        cases reported.symm.trans same
        simp only [← response, respond_isOk_iff, resolves_changed_iff]
      · intro other same exception
        cases reported.symm.trans same
        simp only [← response, respond_eq_error_iff, resolves_changed_iff]
      · intro other same reply replied
        cases reported.symm.trans same
        exact statusCode_respond_iff (response.trans replied)

end ReadinessRequest

/-! ## Every request of a run -/

@[simp]
theorem changesOf_append (earlier later : List HealthLabel) :
    changesOf (earlier ++ later) = changesOf earlier ++ changesOf later :=
  List.filterMap_append

namespace HealthServer

variable (start : HealthServer)

/-- The request which is received after some steps. -/
def received (before : List HealthLabel) (config : AppConfig)
    (environment : CheckEnvironment) : ReadinessRequest :=
  ⟨config, environment, start.registry.changed (changesOf before)⟩

/-- A request has been received and has not been answered since. -/
def Awaits (labels : List HealthLabel) (id : Nat)
    (request : ReadinessRequest) : Prop :=
  ∃ before config environment middle,
    labels = before ++ .receive id config environment :: middle ∧
      request = start.received before config environment ∧
        ∀ label ∈ middle, label.request? ≠ some id

/-- An answer after some steps is one to the last request of its identity. -/
def Answered (sdk : HealthSdk) (labels : List HealthLabel) (id : Nat)
    (answer : Except PyExc HealthReply) : Prop :=
  ∃ before config environment middle,
    labels = before ++ .receive id config environment :: middle ∧
      (∀ label ∈ middle, label.request? ≠ some id) ∧
        (start.received before config environment).AnsweredAmid sdk
          (changesOf middle) answer

/-- Every answer among the steps belongs to a request. -/
def Answers (sdk : HealthSdk) (labels : List HealthLabel) : Prop :=
  ∀ earlier later id answer,
    labels = earlier ++ .reply id answer :: later →
      start.Answered sdk earlier id answer

/-- What the steps so far say about the server. -/
structure Follows (sdk : HealthSdk) (labels : List HealthLabel)
    (server : HealthServer) : Prop where
  registry :
    server.registry = start.registry.changed (changesOf labels)
  waiting :
    ∀ id request, (id, request) ∈ server.waiting →
      start.Awaits labels id request
  answers : start.Answers sdk labels

variable {start} {sdk : HealthSdk} {labels : List HealthLabel}

/-- A request waits on during a step which is about another one. -/
theorem Awaits.snoc {id : Nat} {request : ReadinessRequest}
    (awaits : start.Awaits labels id request) {label : HealthLabel}
    (other : label.request? ≠ some id) :
    start.Awaits (labels ++ [label]) id request := by
  rcases awaits with
    ⟨before, config, environment, middle, rfl, received, others⟩
  refine
    ⟨before, config, environment, middle ++ [label], by simp, received, ?_⟩
  intro step member
  rcases List.mem_append.mp member with earlier | last
  · exact others step earlier
  · cases List.mem_singleton.mp last
    exact other

/-- A step adds at most its own answer. -/
theorem Answers.snoc (answers : start.Answers sdk labels)
    {label : HealthLabel}
    (last :
      ∀ id answer, label = .reply id answer →
        start.Answered sdk labels id answer) :
    start.Answers sdk (labels ++ [label]) := by
  intro earlier later id answer split
  rcases List.eq_nil_or_concat' later with rfl | ⟨others, final, rfl⟩
  · rcases List.append_inj' split (Eq.refl _) with ⟨rfl, same⟩
    exact last id answer (List.singleton_inj.mp same)
  · rw [← List.cons_append, ← List.append_assoc] at split
    rcases List.append_inj' split (Eq.refl _) with ⟨before, -⟩
    exact answers earlier others id answer before

/-- An answer by the present registry is one amid the changes so far. -/
theorem Awaits.answered {id : Nat} {request : ReadinessRequest}
    {answer : Except PyExc HealthReply}
    (awaits : start.Awaits labels id request)
    (answers :
      request.answer sdk (start.registry.changed (changesOf labels)) =
        some answer) :
    start.Answered sdk labels id answer := by
  rcases awaits with
    ⟨before, config, environment, middle, rfl, rfl, others⟩
  refine ⟨before, config, environment, middle, Eq.refl _, others, ?_⟩
  apply ReadinessRequest.answeredAmid_of_answer
  rw [changesOf_append, ReadinessRegistry.changed_append] at answers
  exact answers

/-- What the steps so far say is kept by one more step. -/
theorem Follows.step {before after : HealthServer} {label : HealthLabel}
    (follows : start.Follows sdk labels before)
    (step : HealthStep sdk before label after) :
    start.Follows sdk (labels ++ [label]) after := by
  cases step with
  | change change =>
      refine ⟨?_, ?_, follows.answers.snoc nofun⟩
      · rw [changesOf_append, ReadinessRegistry.changed_append,
          ← follows.registry]
        exact Eq.refl _
      · intro id request waits
        exact (follows.waiting id request waits).snoc nofun
  | receive id config environment fresh =>
      refine ⟨?_, ?_, follows.answers.snoc nofun⟩
      · rw [changesOf_append, ReadinessRegistry.changed_append,
          ← follows.registry]
        exact Eq.refl _
      · intro other request waits
        rcases List.mem_cons.mp waits with new | waited
        · cases new
          refine
            ⟨labels, config, environment, [], Eq.refl _, ?_, nofun⟩
          simp only [received, follows.registry]
        · apply (follows.waiting other request waited).snoc
          rintro ⟨⟩
          exact fresh (List.mem_map_of_mem waited)
  | reply waits answers =>
      rename_i id request answer
      refine ⟨?_, ?_, follows.answers.snoc ?_⟩
      · rw [changesOf_append, ReadinessRegistry.changed_append,
          ← follows.registry]
        exact Eq.refl _
      · intro other pending waited
        rcases List.mem_filter.mp waited with ⟨member, different⟩
        apply (follows.waiting other pending member).snoc
        rintro ⟨⟩
        simp at different
      · rintro _ _ ⟨⟩
        apply (follows.waiting id request waits).answered
        rw [← follows.registry]
        exact answers

/-- A request whose checks end can be answered at any time. -/
theorem exists_reply {server : HealthServer} {id : Nat}
    {request : ReadinessRequest} (waits : (id, request) ∈ server.waiting)
    (ends : request.alone sdk ≠ none) :
    ∃ answer next, HealthStep sdk server (.reply id answer) next := by
  cases reported : request.result? sdk with
  | some result =>
      exact ⟨_, _, .reply waits
        (ReadinessRequest.answer_of_result reported server.registry)⟩
  | none =>
      rcases Option.ne_none_iff_exists'.mp ends with ⟨answer, alone⟩
      exact ⟨answer, _, .reply waits
        ((ReadinessRequest.answer_of_unreported reported
          server.registry).trans alone)⟩

/--
In every run each answer is one to the last request of its identity, which
is answered once, and has the properties of a request amid the changes
between the two.  A request which waits can be answered if its checks end.
-/
theorem answers_of_run {server : HealthServer}
    (idle : start.waiting = [])
    (run : Run (HealthStep sdk) start labels server) :
    start.Answers sdk labels ∧
      ∀ id request, (id, request) ∈ server.waiting →
        request.alone sdk ≠ none →
          ∃ answer next,
            HealthStep sdk server (.reply id answer) next := by
  have follows : start.Follows sdk labels server := by
    apply run.labelled_invariant
    · refine ⟨Eq.refl _, ?_, ?_⟩
      · intro id request waits
        rw [idle] at waits
        cases waits
      · intro earlier later id answer split
        cases earlier <;> cases split
    · intro earlier before label after step follows
      exact follows.step step
  exact ⟨follows.answers, fun _ _ waits ends => exists_reply waits ends⟩

/-- A check which is lost while it is awaited ends two requests. -/
theorem answers_databaseUnregistered :
    HealthServer.Answers
      ⟨ReadinessRegistry.databaseAndCache, []⟩ .documented
      [.receive 0 {} ReadinessRegistry.databaseAndCacheDown,
        .receive 1 {} ReadinessRegistry.databaseAndCacheDown,
        .change (.unregister "database"),
        .reply 1 (.error (.keyError "database")),
        .reply 0 (.error (.keyError "database"))] :=
  (answers_of_run (Eq.refl _)
    (((((Run.nil.snoc (.receive 0 _ _ nofun)).snoc
      (.receive 1 _ _ (by simp))).snoc (.change _)).snoc
        (.reply (.head _) (Eq.refl _))).snoc
          (.reply (.head _) (Eq.refl _)))).1

end HealthServer

end FastapiCore
