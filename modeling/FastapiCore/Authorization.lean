import FastapiCore.CorrelationAgreement
import FastapiCore.Library.JsonTree
import FastapiCore.Library.Words

/-!
# Who may call a route

`get_current_user` reads the user of a bearer token, and the guards
`require_roles`, `require_scopes` and `require_permissions` compare what the
user has with what a route asks for.  `GET /user` reports the same roles and
scopes.  The main result is that this report decides every guard, alone or
in a list of guards, and with every error.
-/

namespace FastapiCore

open Library

/-! ## Users -/

/-- What the code reads of an `AuthenticatedUser`. -/
structure AuthenticatedUser where
  sub : String
  preferredUsername : Option String := none
  email : Option String := none
  name : Option String := none
  realmRoles : List String := []
  clientRoles : OrderedDict String (List String) := .empty
  claims : OrderedDict String JsonTree := .empty

/-- `text.split()`. -/
def splitWords (text : String) : List String :=
  (words isSpace text.toList).map String.ofList

/-- `_get_roles`. -/
def getRoles (user : AuthenticatedUser) : List String :=
  (user.realmRoles ++ user.clientRoles.values.flatten).eraseDups

/-- `_get_scopes`. -/
def getScopes (user : AuthenticatedUser) : List String :=
  match user.claims.get? "scope" with
  | some (.scalar (.text rawScope)) => splitWords rawScope
  | _ => []

/-! ## Tokens -/

/-- What a dependency or a route raises. -/
inductive Raised where
  | httpException (exception : ErrorApp.HttpException)
  | exception (exception : PyExc)

/-- The header which asks for a bearer token. -/
def bearerHeaders : OrderedDict String String :=
  OrderedDict.empty.insert "WWW-Authenticate" "Bearer"

/-- `HTTPException(401, detail)`, which asks for a bearer token. -/
def unauthorized (detail : String) : ErrorApp.HttpException where
  statusCode := 401
  detail := detail
  headers := some bearerHeaders

/-- `HTTPException(403, "Forbidden")`. -/
def forbidden : ErrorApp.HttpException where
  statusCode := 403
  detail := "Forbidden"
  headers := none

/-- The class `TokenValidationError`. -/
def tokenValidationError : ExcClass := .other "TokenValidationError"

section Guards

variable (mro : ExcClass → List ExcClass)
variable (extractUserInfo : String → Except PyExc AuthenticatedUser)

/-- `get_current_user`, with the method of the provider. -/
def getCurrentUser (token : Option String) :
    Except Raised AuthenticatedUser :=
  match token with
  | none => .error (.httpException (unauthorized "Not authenticated"))
  | some token =>
      if token = "" then
        .error (.httpException (unauthorized "Not authenticated"))
      else
        match extractUserInfo token with
        | .ok user => .ok user
        | .error exception =>
            if tokenValidationError ∈ mro exception.cls then
              .error (.httpException (unauthorized "Invalid token"))
            else .error (.exception exception)

/-- `_raise_for_missing`. -/
def raiseForMissing (required granted : List String) : Except Raised Unit :=
  if required.all fun name => name ∈ granted then .ok ()
  else .error (.httpException forbidden)

variable (token : Option String)

/-- The dependency of `require_roles`. -/
def requireRoles (roles : List String) : Except Raised AuthenticatedUser := do
  let currentUser ← getCurrentUser mro extractUserInfo token
  raiseForMissing roles (getRoles currentUser)
  pure currentUser

/-- The dependency of `require_scopes`. -/
def requireScopes (scopes : List String) :
    Except Raised AuthenticatedUser := do
  let currentUser ← getCurrentUser mro extractUserInfo token
  raiseForMissing scopes (getScopes currentUser)
  pure currentUser

/-- The dependency of `require_permissions`. -/
def requirePermissions (permissions : List String) :
    Except Raised AuthenticatedUser := do
  let currentUser ← getCurrentUser mro extractUserInfo token
  raiseForMissing permissions (getRoles currentUser ++ getScopes currentUser)
  pure currentUser

/-- A guard of a route. -/
inductive Guard where
  | requireRoles (roles : List String)
  | requireScopes (scopes : List String)
  | requirePermissions (permissions : List String)

/-- The dependency of a guard. -/
def Guard.dependency : Guard → Except Raised AuthenticatedUser
  | .requireRoles roles =>
      FastapiCore.requireRoles mro extractUserInfo token roles
  | .requireScopes scopes =>
      FastapiCore.requireScopes mro extractUserInfo token scopes
  | .requirePermissions permissions =>
      FastapiCore.requirePermissions mro extractUserInfo token permissions

/-- The guards of a route, solved one after the other. -/
def solveGuards : List Guard → Except Raised Unit
  | [] => .ok ()
  | guard :: rest => do
      let _ ← guard.dependency mro extractUserInfo token
      solveGuards rest

/-! ## The report of a user -/

/-- `UserInfo`. -/
structure UserInfo where
  sub : String
  username : String
  email : Option String
  name : Option String
  roles : List String
  scopes : List String

/-- `_to_user_info`. -/
def toUserInfo (user : AuthenticatedUser) : UserInfo where
  sub := user.sub
  username := textOr user.preferredUsername user.sub
  email := user.email
  name := user.name
  roles := getRoles user
  scopes := getScopes user

/-- `read_user`. -/
def readUser : Except Raised UserInfo := do
  let currentUser ← getCurrentUser mro extractUserInfo token
  pure (toUserInfo currentUser)

end Guards

/-! ## What guards ask for -/

/-- One thing which a guard asks for. -/
inductive Requirement where
  | role (name : String)
  | scope (name : String)
  | permission (name : String)
deriving DecidableEq

/-- What a guard asks for. -/
def Guard.requirements : Guard → List Requirement
  | .requireRoles roles => roles.map .role
  | .requireScopes scopes => scopes.map .scope
  | .requirePermissions permissions => permissions.map .permission

/-- A report shows what is asked for; a permission is a role or a scope. -/
def UserInfo.Shows (info : UserInfo) : Requirement → Prop
  | .role name => name ∈ info.roles
  | .scope name => name ∈ info.scopes
  | .permission name => name ∈ info.roles ∨ name ∈ info.scopes

instance (info : UserInfo) (requirement : Requirement) :
    Decidable (info.Shows requirement) := by
  cases requirement
  all_goals
    unfold UserInfo.Shows
    infer_instance

/-- What the answer of `GET /user` says about a route with requirements. -/
def decision (answer : Except Raised UserInfo)
    (requirements : List Requirement) : Except Raised Unit :=
  match answer with
  | .error raised => .error raised
  | .ok info =>
      if ∀ requirement ∈ requirements, info.Shows requirement then .ok ()
      else .error (.httpException forbidden)

theorem decision_congr {first second : List Requirement}
    (same : ∀ requirement, requirement ∈ first ↔ requirement ∈ second)
    (answer : Except Raised UserInfo) :
    decision answer first = decision answer second := by
  cases answer with
  | error raised => rfl
  | ok info => simp only [decision, same]

theorem decision_append (info : UserInfo) (first second : List Requirement) :
    decision (.ok info) (first ++ second) =
      (do
        decision (.ok info) first
        decision (.ok info) second) := by
  simp only [decision, List.forall_mem_append]
  by_cases shown : ∀ requirement ∈ first, info.Shows requirement
  · rw [if_pos shown]
    simp only [and_iff_right shown]
    rfl
  · rw [if_neg shown, if_neg fun both => shown both.1]
    rfl

/-! ## The guards of a route -/

section Decision

variable {mro : ExcClass → List ExcClass}
variable {extractUserInfo : String → Except PyExc AuthenticatedUser}
variable {token : Option String}

theorem dependency_of_raised {raised : Raised}
    (refused : getCurrentUser mro extractUserInfo token = .error raised)
    (guard : Guard) :
    guard.dependency mro extractUserInfo token = .error raised := by
  cases guard with
  | requireRoles roles =>
      rw [Guard.dependency, requireRoles, refused]
      rfl
  | requireScopes scopes =>
      rw [Guard.dependency, requireScopes, refused]
      rfl
  | requirePermissions permissions =>
      rw [Guard.dependency, requirePermissions, refused]
      rfl

theorem raiseForMissing_eq (required granted : List String) :
    raiseForMissing required granted =
      if ∀ name ∈ required, name ∈ granted then .ok ()
      else .error (.httpException forbidden) := by
  simp only [raiseForMissing, List.all_eq_true, decide_eq_true_eq]

/-- One guard decides by what the report of the user shows. -/
theorem dependency_of_user {user : AuthenticatedUser}
    (current : getCurrentUser mro extractUserInfo token = .ok user)
    (guard : Guard) :
    (do
      let _ ← guard.dependency mro extractUserInfo token
      pure ()) =
      decision (.ok (toUserInfo user)) guard.requirements := by
  have checked (required granted : List String) :
      (do
        let _ ← (do
          raiseForMissing required granted
          pure user : Except Raised AuthenticatedUser)
        pure ()) =
        raiseForMissing required granted := by
    cases raiseForMissing required granted with
    | error raised => rfl
    | ok _ => rfl
  cases guard with
  | requireRoles roles =>
      rw [Guard.dependency, requireRoles, current, decision,
        Guard.requirements]
      simp only [List.forall_mem_map, UserInfo.Shows, toUserInfo]
      exact (checked roles (getRoles user)).trans (raiseForMissing_eq _ _)
  | requireScopes scopes =>
      rw [Guard.dependency, requireScopes, current, decision,
        Guard.requirements]
      simp only [List.forall_mem_map, UserInfo.Shows, toUserInfo]
      exact (checked scopes (getScopes user)).trans (raiseForMissing_eq _ _)
  | requirePermissions permissions =>
      rw [Guard.dependency, requirePermissions, current, decision,
        Guard.requirements]
      simp only [List.forall_mem_map, UserInfo.Shows, toUserInfo,
        ← List.mem_append]
      exact (checked permissions (getRoles user ++ getScopes user)).trans
        (raiseForMissing_eq _ _)

theorem solveGuards_cons (guard : Guard) (rest : List Guard) :
    solveGuards mro extractUserInfo token (guard :: rest) =
      (do
        (do
          let _ ← guard.dependency mro extractUserInfo token
          pure ())
        solveGuards mro extractUserInfo token rest) := by
  rw [solveGuards]
  cases guard.dependency mro extractUserInfo token with
  | error raised => rfl
  | ok user => rfl

/-- `GET /user` with a token decides every list of guards for the token. -/
theorem solveGuards_eq_decision {guards : List Guard}
    (nonempty : guards ≠ []) :
    solveGuards mro extractUserInfo token guards =
      decision (readUser mro extractUserInfo token)
        (guards.flatMap Guard.requirements) := by
  cases current : getCurrentUser mro extractUserInfo token with
  | error raised =>
      cases guards with
      | nil => exact absurd rfl nonempty
      | cons guard rest =>
          rw [solveGuards, dependency_of_raised current guard, readUser,
            current]
          rfl
  | ok user =>
      have answer :
          readUser mro extractUserInfo token = .ok (toUserInfo user) := by
        rw [readUser, current]
        rfl
      rw [answer]
      clear nonempty
      induction guards with
      | nil =>
          rw [solveGuards, List.flatMap_nil, decision,
            if_pos (List.forall_mem_nil _)]
      | cons guard rest induction =>
          rw [solveGuards_cons, dependency_of_user current guard, induction,
            List.flatMap_cons, decision_append]

/--
A list of guards lets a token pass exactly if `GET /user` answers it with
everything the guards ask for.  It refuses a token as `GET /user` does, and
with 403 if the answer lacks something.
-/
theorem solveGuards_iff_readUser {guards : List Guard}
    (nonempty : guards ≠ []) :
    (solveGuards mro extractUserInfo token guards = .ok () ↔
        ∃ info, readUser mro extractUserInfo token = .ok info ∧
          ∀ requirement ∈ guards.flatMap Guard.requirements,
            info.Shows requirement) ∧
      ∀ raised,
        solveGuards mro extractUserInfo token guards = .error raised ↔
          readUser mro extractUserInfo token = .error raised ∨
            raised = .httpException forbidden ∧
              ∃ info, readUser mro extractUserInfo token = .ok info ∧
                ∃ requirement ∈ guards.flatMap Guard.requirements,
                  ¬info.Shows requirement := by
  rw [solveGuards_eq_decision nonempty]
  cases answer : readUser mro extractUserInfo token with
  | error other =>
      refine ⟨by simp [decision], fun raised => ?_⟩
      simp [decision]
  | ok info =>
      rw [decision]
      split
      · next shown =>
          refine ⟨by simpa using shown, fun raised => ?_⟩
          simpa using fun _ => shown
      · next lacks =>
          refine ⟨by simpa using lacks, fun raised => ?_⟩
          simp only [not_forall, exists_prop] at lacks
          constructor
          · rintro ⟨⟩
            exact Or.inr ⟨rfl, info, rfl, lacks⟩
          · rintro (⟨⟨⟩⟩ | ⟨rfl, -⟩)
            rfl

/-- A user of the realm role `reader`, with the scope `items`. -/
def readerUser : AuthenticatedUser where
  sub := "reader"
  realmRoles := ["reader"]
  claims := OrderedDict.empty.insert "scope" (.text " items ")

theorem solveGuards_iff_readerUser :
    (solveGuards (fun cls => [cls]) (fun _ => .ok readerUser) (some "token")
          [.requireRoles ["reader"], .requirePermissions ["items"]] =
        .ok () ↔
        ∃ info,
          readUser (fun cls => [cls]) (fun _ => .ok readerUser)
              (some "token") = .ok info ∧
            ∀ requirement ∈
                [Guard.requireRoles ["reader"],
                  .requirePermissions ["items"]].flatMap Guard.requirements,
              info.Shows requirement) ∧
      ∀ raised,
        solveGuards (fun cls => [cls]) (fun _ => .ok readerUser)
              (some "token")
              [.requireRoles ["reader"], .requirePermissions ["items"]] =
            .error raised ↔
          readUser (fun cls => [cls]) (fun _ => .ok readerUser)
                (some "token") = .error raised ∨
            raised = .httpException forbidden ∧
              ∃ info,
                readUser (fun cls => [cls]) (fun _ => .ok readerUser)
                    (some "token") = .ok info ∧
                  ∃ requirement ∈
                      [Guard.requireRoles ["reader"],
                        .requirePermissions ["items"]].flatMap
                          Guard.requirements,
                    ¬info.Shows requirement :=
  solveGuards_iff_readUser (List.cons_ne_nil _ _)

/--
Only what guards ask for together counts: not their order, how it is spread
over them, or how often they ask.
-/
theorem solveGuards_congr {first second : List Guard}
    (nonempty : first ≠ []) (nonempty' : second ≠ [])
    (same : ∀ requirement,
      requirement ∈ first.flatMap Guard.requirements ↔
        requirement ∈ second.flatMap Guard.requirements) :
    solveGuards mro extractUserInfo token first =
      solveGuards mro extractUserInfo token second := by
  rw [solveGuards_eq_decision nonempty, solveGuards_eq_decision nonempty',
    decision_congr same]

theorem solveGuards_readerUser_congr :
    solveGuards (fun cls => [cls]) (fun _ => .ok readerUser) (some "token")
        [.requireRoles ["reader"], .requireScopes ["items", "items"]] =
      solveGuards (fun cls => [cls]) (fun _ => .ok readerUser) (some "token")
        [.requireScopes ["items"], .requireRoles ["reader"]] :=
  solveGuards_congr (List.cons_ne_nil _ _) (List.cons_ne_nil _ _)
    (by simp [Guard.requirements, or_comm])

theorem unauthorized_of_readUser {exception : ErrorApp.HttpException}
    (refused :
      readUser mro extractUserInfo token =
        .error (.httpException exception)) :
    ∃ detail, exception = unauthorized detail := by
  have current :
      getCurrentUser mro extractUserInfo token =
        .error (.httpException exception) := by
    rw [readUser] at refused
    cases current : getCurrentUser mro extractUserInfo token with
    | error raised =>
        rw [current] at refused
        cases refused
        rfl
    | ok user =>
        rw [current] at refused
        cases refused
  unfold getCurrentUser at current
  split at current
  · cases current
    exact ⟨_, rfl⟩
  split at current
  · cases current
    exact ⟨_, rfl⟩
  split at current
  · cases current
  split at current
  · cases current
    exact ⟨_, rfl⟩
  · cases current

end Decision

/-! ## The answers to refused requests -/

/-- A renderer sends the headers of a mapping, and none of their names. -/
def KeepsHeaders (renderer : ErrorRenderer) : Prop :=
  ∀ request mapping response, renderer request mapping = .ok response →
    ∃ correlationId raw length mediaType payload,
      rawHeaders (correlatedHeaders mapping correlationId) = .ok raw ∧
        response =
          .single mapping.statusCode
            (raw ++ contentHeaders mapping.statusCode length mediaType raw)
            payload

theorem keepsHeaders_problemRenderer (sdk : ErrorSdk) :
    KeepsHeaders (problemRenderer sdk) := by
  intro request mapping response rendered
  rcases exists_single_of_jsonResponse rendered with
    ⟨raw, length, encoded, rfl⟩
  exact ⟨_, raw, length, _, _, encoded, rfl⟩

/-- No hook of a product changes the headers of a mapping. -/
theorem keepsHeaders_createErrorRenderer (sdk : ErrorSdk)
    (options : RendererOptions) :
    KeepsHeaders (createErrorRenderer sdk options) := by
  intro request mapping response rendered
  have correlated (correlationId : String) :
      correlatedHeaders (options.selectedMapping mapping) correlationId =
        correlatedHeaders mapping correlationId := by
    rw [correlatedHeaders, correlatedHeaders, headers_selectedMapping]
  rcases bind_eq_ok_iff.mp rendered with ⟨correlationId, -, rest⟩
  rw [← statusCode_selectedMapping options mapping]
  simp only at rest
  split at rest
  · rcases exists_single_of_jsonResponse rest with
      ⟨raw, length, encoded, rfl⟩
    exact ⟨correlationId, raw, length, _, _,
      (congrArg rawHeaders (correlated correlationId)).symm.trans encoded,
      rfl⟩
  · rcases bind_eq_ok_iff.mp rest with ⟨content, -, made⟩
    rcases exists_single_of_jsonResponse made with
      ⟨raw, length, encoded, rfl⟩
    exact ⟨correlationId, raw, length, _, _,
      (congrArg rawHeaders (correlated correlationId)).symm.trans encoded,
      rfl⟩

theorem headerValues_append (first second : List Header) (name : String) :
    headerValues (first ++ second) name =
      headerValues first name ++ headerValues second name := by
  rw [headerValues, List.filter_append, List.map_append]
  rfl

theorem headerValues_contentHeaders {status length : Nat}
    {mediaType name : String} {headers : List Header}
    (noLength : name ≠ "content-length") (noType : name ≠ "content-type") :
    headerValues (contentHeaders status length mediaType headers) name =
      [] := by
  rw [contentHeaders, headerValues_append]
  split
  · split
    · simp [headerValues, noLength.symm, noType.symm]
    · simp [headerValues, noLength.symm]
  · split
    · simp [headerValues, noType.symm]
    · simp [headerValues]

/-- What a reply to a refused request says in its challenge header. -/
theorem headerValues_of_rawHeaders {mapping : ErrorMapping}
    {correlationId : String} {raw : List Header}
    (encoded :
      rawHeaders (correlatedHeaders mapping correlationId) = .ok raw) :
    (mapping.headers = some bearerHeaders →
      headerValues raw "www-authenticate" = ["Bearer"]) ∧
      (mapping.headers = none →
        headerValues raw "www-authenticate" = []) := by
  have correlation : lower "X-Correlation-ID" ≠ "www-authenticate" := by
    decide
  have challenge : lower "WWW-Authenticate" = "www-authenticate" := by
    decide
  rw [rawHeaders] at encoded
  split at encoded
  · cases encoded
    constructor
    · intro bearer
      have entries :
          (correlatedHeaders mapping correlationId).entries =
            [("WWW-Authenticate", "Bearer"),
              ("X-Correlation-ID", correlationId)] := by
        rw [correlatedHeaders, bearer]
        rfl
      simp [headerValues, entries, correlation, challenge]
    · intro absent
      have entries :
          (correlatedHeaders mapping correlationId).entries =
            [("X-Correlation-ID", correlationId)] := by
        rw [correlatedHeaders, absent]
        rfl
      simp [headerValues, entries, correlation]
  · cases encoded

section Replies

variable {mro : ExcClass → List ExcClass}
variable {extractUserInfo : String → Except PyExc AuthenticatedUser}
variable {token : Option String} {app : ErrorApp} {request : Request}

theorem keepsHeaders_of_standard
    (standard :
      app.renderer request = problemRenderer app.sdk ∨
        ∃ options, app.renderer request = createErrorRenderer app.sdk options) :
    KeepsHeaders (app.renderer request) := by
  rcases standard with same | ⟨options, same⟩
  · rw [same]
    exact keepsHeaders_problemRenderer app.sdk
  · rw [same]
    exact keepsHeaders_createErrorRenderer app.sdk options

theorem exists_reply_of_httpException
    (keeps : KeepsHeaders (app.renderer request))
    {exception : ErrorApp.HttpException} {reply : Reply}
    (answered : app.httpExceptionHandler request exception = .ok reply) :
    ∃ headers payload,
      reply = .single exception.statusCode headers payload ∧
        (exception.headers = some bearerHeaders →
          headerValues headers "www-authenticate" = ["Bearer"]) ∧
        (exception.headers = none →
          headerValues headers "www-authenticate" = []) := by
  rcases keeps request _ reply answered with
    ⟨correlationId, raw, length, mediaType, payload, encoded, rfl⟩
  refine ⟨_, payload, rfl, ?_⟩
  have noContent :
      headerValues
        (contentHeaders exception.statusCode length mediaType raw)
        "www-authenticate" = [] :=
    headerValues_contentHeaders (by decide) (by decide)
  constructor
  · intro bearer
    rw [headerValues_append]
    exact (congrArg₂ _ ((headerValues_of_rawHeaders encoded).1 bearer)
      noContent).trans (List.append_nil _)
  · intro absent
    rw [headerValues_append]
    exact (congrArg₂ _ ((headerValues_of_rawHeaders encoded).2 absent)
      noContent).trans (List.append_nil _)

/--
A guarded route which refuses a token with 401 asks for a bearer token, and
then `GET /user` refuses it alike; with 403 it does not ask, and `GET /user`
answers.
-/
theorem challenge_of_refused
    (standard :
      app.renderer request = problemRenderer app.sdk ∨
        ∃ options, app.renderer request = createErrorRenderer app.sdk options)
    {guards : List Guard} {exception : ErrorApp.HttpException}
    (refused :
      solveGuards mro extractUserInfo token guards =
        .error (.httpException exception))
    {reply : Reply}
    (answered : app.httpExceptionHandler request exception = .ok reply) :
    ∃ status headers payload,
      reply = .single status headers payload ∧
        ((status = 401 ∧
            headerValues headers "www-authenticate" = ["Bearer"] ∧
            readUser mro extractUserInfo token =
              .error (.httpException exception)) ∨
          (status = 403 ∧
            headerValues headers "www-authenticate" = [] ∧
            ∃ info, readUser mro extractUserInfo token = .ok info ∧
              ∃ requirement ∈ guards.flatMap Guard.requirements,
                ¬info.Shows requirement)) := by
  have keeps := keepsHeaders_of_standard standard
  rcases exists_reply_of_httpException keeps answered with
    ⟨headers, payload, rfl, bearer, absent⟩
  refine ⟨exception.statusCode, headers, payload, rfl, ?_⟩
  have nonempty : guards ≠ [] := by
    rintro rfl
    cases refused
  rw [solveGuards_eq_decision nonempty] at refused
  cases answer : readUser mro extractUserInfo token with
  | error raised =>
      rw [answer, decision] at refused
      cases refused
      rcases unauthorized_of_readUser answer with ⟨detail, rfl⟩
      exact Or.inl ⟨rfl, bearer rfl, rfl⟩
  | ok info =>
      rw [answer, decision] at refused
      split at refused
      · cases refused
      · next lacks =>
          cases refused
          simp only [not_forall, exists_prop] at lacks
          exact Or.inr ⟨rfl, absent rfl, info, rfl, lacks⟩

theorem challenge_readerUser :
    ∃ reply,
      problemApp.httpExceptionHandler itemsGet forbidden = .ok reply ∧
        ∃ status headers payload,
          reply = .single status headers payload ∧
            ((status = 401 ∧
                headerValues headers "www-authenticate" = ["Bearer"] ∧
                readUser (fun cls => [cls]) (fun _ => .ok readerUser)
                    (some "token") =
                  .error (.httpException forbidden)) ∨
              (status = 403 ∧
                headerValues headers "www-authenticate" = [] ∧
                ∃ info,
                  readUser (fun cls => [cls]) (fun _ => .ok readerUser)
                      (some "token") =
                    .ok info ∧
                  ∃ requirement ∈
                      [Guard.requireRoles ["admin"]].flatMap
                        Guard.requirements,
                    ¬info.Shows requirement)) :=
  ⟨_, rfl, @challenge_of_refused (fun cls => [cls])
    (fun _ => .ok readerUser) (some "token") problemApp itemsGet
    (Or.inr ⟨defaultOptions, rfl⟩) [.requireRoles ["admin"]] forbidden rfl _
    rfl⟩

end Replies

end FastapiCore
