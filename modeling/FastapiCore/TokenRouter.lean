import FastapiCore.Authorization
import FastapiCore.FunctionLogging
import FastapiCore.Library.Effect

/-!
# Issuing tokens

`POST /token` asks the provider for a token.  An exception of the provider is
logged with its text if the logger writes warnings, and answered with a status
and a detail which only depend on its class.  The scopes of the form are sent
as one text, which the guards of later requests split again.
-/

namespace FastapiCore

open Library

/-! ## The route -/

/-- What the route reads of a token of the provider. -/
structure IssuedToken where
  accessToken : String
  refreshToken : Option String := none
  tokenType : Option String := none

/-- `TokenResponse`. -/
structure TokenResponse where
  accessToken : String
  refreshToken : Option String
  tokenType : String

/-- `OAuth2PasswordRequestForm`. -/
structure OAuth2PasswordRequestForm where
  username : String
  password : String
  scope : String := ""

/-- `form_data.scopes`. -/
def OAuth2PasswordRequestForm.scopes (formData : OAuth2PasswordRequestForm) :
    List String :=
  splitWords formData.scope

/-- `" ".join(form_data.scopes) or None`. -/
def requestedScope (formData : OAuth2PasswordRequestForm) : Option String :=
  let scope := " ".intercalate formData.scopes
  if scope = "" then none else some scope

/-- What a failure is answered and logged with. -/
structure TokenIssueMapping where
  statusCode : Nat
  detail : String
  outcome : String
deriving DecidableEq

/-- `_TOKEN_ISSUE_ERRORS`. -/
def tokenIssueErrors : List (ExcClass × TokenIssueMapping) :=
  [ (.other "KeycloakTokenAuthenticationError",
      ⟨401, "Authentication failed", "authentication_failed"⟩),
    (.other "KeycloakTokenConfigurationError",
      ⟨500, "Authentication service misconfigured", "configuration_error"⟩),
    (.other "KeycloakTokenTemporaryError",
      ⟨503, "Authentication service unavailable", "temporary_error"⟩),
    (.other "KeycloakTokenError",
      ⟨502, "Authentication service error", "upstream_error"⟩) ]

/-- `_UNEXPECTED_TOKEN_ISSUE_ERROR`. -/
def unexpectedTokenIssueError : TokenIssueMapping :=
  ⟨500, "Authentication service error", "unexpected_error"⟩

/-- A record `token_issue_failed`, before `build_service_log_event`. -/
structure TokenIssueFailure where
  outcome : String
  error : String
  scope : Option String
  statusCode : Nat
deriving DecidableEq

/-- What the provider answers to `fetch_access_token`. -/
abbrev FetchAccessToken :=
  Option String → String → String → Except PyExc IssuedToken

/-- The records of `token_issue_failed`, with `logger.warning`. -/
def LogSettings.tokenIssueFailed (settings : LogSettings)
    (failure : TokenIssueFailure) : List TokenIssueFailure :=
  if settings.isEnabledFor "fastapi_core.routers.auth" .warning then [failure]
  else []

section Route

variable (settings : LogSettings) (mro : ExcClass → List ExcClass)

/-- The first mapping whose class the exception is an instance of. -/
def tokenIssueMapping (exception : PyExc) : TokenIssueMapping :=
  match tokenIssueErrors.find? fun entry => entry.1 ∈ mro exception.cls with
  | some entry => entry.2
  | none => unexpectedTokenIssueError

/-- The `HTTPException` of a mapping. -/
def TokenIssueMapping.httpException (mapping : TokenIssueMapping) :
    ErrorApp.HttpException where
  statusCode := mapping.statusCode
  detail := mapping.detail
  headers := some bearerHeaders

/-- `_raise_token_issue_error`. -/
def raiseTokenIssueError (exception : PyExc) (scope : Option String) :
    Effect (List TokenIssueFailure) Raised TokenResponse := do
  let mapping := tokenIssueMapping mro exception
  Effect.update fun records =>
    records ++
      settings.tokenIssueFailed
        { outcome := mapping.outcome
          error := exception.str
          scope := scope
          statusCode := mapping.statusCode }
  Effect.raise (.httpException mapping.httpException)

/-- `issue_token`, with the method of the provider. -/
def issueToken (fetchAccessToken : FetchAccessToken)
    (formData : OAuth2PasswordRequestForm) :
    Effect (List TokenIssueFailure) Raised TokenResponse :=
  let scope := requestedScope formData
  match fetchAccessToken scope formData.username formData.password with
  | .ok token =>
      pure
        { accessToken := token.accessToken
          refreshToken := token.refreshToken
          tokenType := lower (token.tokenType.getD "bearer") }
  | .error exception =>
      if exception.cls.isException then
        raiseTokenIssueError settings mro exception scope
      else Effect.raise (.exception exception)

/-- The answers to requests which reach `issue_token` one after the other. -/
def issueTokens : List (FetchAccessToken × OAuth2PasswordRequestForm) →
    Effect (List TokenIssueFailure) Raised
      (List (Except Raised TokenResponse))
  | [] => pure []
  | (fetchAccessToken, formData) :: rest => do
      let answer ←
        Effect.attempt (issueToken settings mro fetchAccessToken formData)
      let later ← issueTokens rest
      pure (answer :: later)

end Route

/-! ## What the provider answers -/

/-- What the provider answers to the request of a form. -/
def fetched (request : FetchAccessToken × OAuth2PasswordRequestForm) :
    Except PyExc IssuedToken :=
  request.1 (requestedScope request.2) request.2.username request.2.password

/-- The response for a token. -/
def tokenResponse (token : IssuedToken) : TokenResponse where
  accessToken := token.accessToken
  refreshToken := token.refreshToken
  tokenType := lower (token.tokenType.getD "bearer")

section Answers

variable (settings : LogSettings) (mro : ExcClass → List ExcClass)

/-- The answer to a request, from what the provider answers. -/
def answerOf : Except PyExc IssuedToken → Except Raised TokenResponse
  | .ok token => .ok (tokenResponse token)
  | .error exception =>
      if exception.cls.isException then
        .error (.httpException (tokenIssueMapping mro exception).httpException)
      else .error (.exception exception)

/-- The record of a failure, if it is written. -/
def failureOf (scope : Option String) :
    Except PyExc IssuedToken → List TokenIssueFailure
  | .ok _ => []
  | .error exception =>
      if exception.cls.isException then
        settings.tokenIssueFailed
          { outcome := (tokenIssueMapping mro exception).outcome
            error := exception.str
            scope := scope
            statusCode := (tokenIssueMapping mro exception).statusCode }
      else []

variable {settings mro}

theorem run_issueToken
    (request : FetchAccessToken × OAuth2PasswordRequestForm)
    (records : List TokenIssueFailure) :
    (issueToken settings mro request.1 request.2).run records =
      (answerOf mro (fetched request),
        records ++ failureOf settings mro (requestedScope request.2)
          (fetched request)) := by
  simp only [issueToken, fetched]
  cases request.1 (requestedScope request.2) request.2.username
      request.2.password with
  | ok token =>
      rw [failureOf, List.append_nil]
      rfl
  | error exception =>
      rw [answerOf, failureOf]
      by_cases ordinary : exception.cls.isException = true
      · simp only [if_pos ordinary]
        rfl
      · simp only [if_neg ordinary, List.append_nil]
        rfl

theorem run_issueTokens
    (requests : List (FetchAccessToken × OAuth2PasswordRequestForm))
    (records : List TokenIssueFailure) :
    (issueTokens settings mro requests).run records =
      (.ok (requests.map fun request => answerOf mro (fetched request)),
        records ++ requests.flatMap fun request =>
          failureOf settings mro (requestedScope request.2)
            (fetched request)) := by
  induction requests generalizing records with
  | nil => simp [issueTokens]
  | cons request rest induction =>
      rw [issueTokens, Effect.run_attempt_bind, run_issueToken,
        Effect.run_bind, induction, List.map_cons, List.flatMap_cons,
        List.append_assoc]
      rfl

/-! ## The log of failures -/

/-- The status with which a request is refused. -/
def refusedStatus : Except Raised TokenResponse → Option Nat
  | .error (.httpException exception) => some exception.statusCode
  | _ => none

/-- The statuses of the records for some answers. -/
def LogSettings.loggedStatuses (settings : LogSettings)
    (answers : List (Except Raised TokenResponse)) : List Nat :=
  if settings.isEnabledFor "fastapi_core.routers.auth" .warning then
    answers.filterMap refusedStatus
  else []

theorem map_statusCode_failureOf (scope : Option String)
    (answer : Except PyExc IssuedToken) :
    (failureOf settings mro scope answer).map
        TokenIssueFailure.statusCode =
      settings.loggedStatuses [answerOf mro answer] := by
  cases answer with
  | ok token =>
      rw [LogSettings.loggedStatuses]
      split <;> rfl
  | error exception =>
      rw [failureOf, answerOf]
      by_cases ordinary : exception.cls.isException = true
      · simp only [if_pos ordinary, LogSettings.tokenIssueFailed,
          LogSettings.loggedStatuses]
        split <;> rfl
      · simp only [if_neg ordinary, LogSettings.loggedStatuses]
        split <;> rfl

theorem loggedStatuses_eq_flatMap
    (answers : List (Except Raised TokenResponse)) :
    settings.loggedStatuses answers =
      answers.flatMap fun answer => settings.loggedStatuses [answer] := by
  simp only [LogSettings.loggedStatuses]
  split
  · rw [List.filterMap_eq_flatMap_toList]
    exact List.flatMap_congr fun answer _ => by
      cases refused : refusedStatus answer <;> simp [refused]
  · simp

theorem statusCode_tokenIssueMapping (exception : PyExc) :
    (tokenIssueMapping mro exception).statusCode ∈ [401, 500, 502, 503] := by
  rw [tokenIssueMapping]
  split
  · next entry found =>
      have member := List.mem_of_find?_eq_some found
      have all :
          ∀ entry ∈ tokenIssueErrors,
            entry.2.statusCode ∈ [401, 500, 502, 503] := by
        decide
      exact all entry member
  · decide

/--
Requests which reach `issue_token` one after the other are logged, if the
logger writes warnings, with one record for each which is refused, in their
order and with the status of the answer.
-/
theorem statuses_of_issueTokens
    (requests : List (FetchAccessToken × OAuth2PasswordRequestForm))
    (records : List TokenIssueFailure) :
    ∃ answers failures,
      (issueTokens settings mro requests).run records =
          (.ok answers, records ++ failures) ∧
        answers.length = requests.length ∧
        failures.map TokenIssueFailure.statusCode =
          (if settings.isEnabledFor "fastapi_core.routers.auth" .warning then
            answers.filterMap refusedStatus
          else []) ∧
        ∀ status ∈ answers.filterMap refusedStatus,
          status ∈ [401, 500, 502, 503] := by
  refine ⟨_, _, run_issueTokens requests records, List.length_map _, ?_, ?_⟩
  · calc
      _ = requests.flatMap fun request =>
          settings.loggedStatuses [answerOf mro (fetched request)] := by
        rw [List.map_flatMap]
        exact List.flatMap_congr fun request _ =>
          map_statusCode_failureOf _ _
      _ = settings.loggedStatuses
          (requests.map fun request => answerOf mro (fetched request)) := by
        rw [loggedStatuses_eq_flatMap, List.flatMap_map]
      _ = _ := Eq.refl _
  · intro status member
    rcases List.mem_filterMap.mp member with ⟨answer, among, refused⟩
    rcases List.mem_map.mp among with ⟨request, -, rfl⟩
    cases fetch : fetched request with
    | ok token =>
        rw [fetch] at refused
        cases refused
    | error exception =>
        rw [fetch, answerOf] at refused
        split at refused
        · cases refused
          exact statusCode_tokenIssueMapping exception
        · cases refused

/-! ## What a client learns -/

/-- Two answers of the provider which a client must not tell apart. -/
def Alike : Except PyExc IssuedToken → Except PyExc IssuedToken → Prop
  | .ok token, .ok other => token = other
  | .error exception, .error other =>
      exception.cls = other.cls ∧
        (exception.cls.isException = false → exception = other)
  | _, _ => False

theorem answerOf_congr {answer other : Except PyExc IssuedToken}
    (alike : Alike answer other) :
    answerOf mro answer = answerOf mro other := by
  cases answer with
  | ok token =>
      cases other with
      | ok found =>
          cases alike
          rfl
      | error exception => cases alike
  | error exception =>
      cases other with
      | ok token => cases alike
      | error raised =>
          rcases alike with ⟨same, equal⟩
          rw [answerOf, answerOf, tokenIssueMapping, tokenIssueMapping, ← same]
          split
          · rfl
          · next special => rw [equal (by simpa using special)]

/--
A client learns nothing but the class of an exception: not its text, and
nothing about the other forms, their scopes or the log.
-/
theorem answers_congr
    {requests others : List (FetchAccessToken × OAuth2PasswordRequestForm)}
    (alike : List.Forall₂
      (fun request other => Alike (fetched request) (fetched other))
      requests others)
    (settings' : LogSettings) (records records' : List TokenIssueFailure) :
    ((issueTokens settings mro requests).run records).1 =
      ((issueTokens settings' mro others).run records').1 := by
  rw [run_issueTokens, run_issueTokens]
  induction alike with
  | nil => rfl
  | cons first rest induction =>
      rw [List.map_cons, List.map_cons, answerOf_congr first]
      exact congrArg (Except.map (List.cons _)) induction

/-- A provider which fails with a text, whatever it is asked for. -/
def failing (message : String) : FetchAccessToken := fun _ _ _ =>
  .error { cls := .other "KeycloakTokenTemporaryError", message := message }

/-- Log settings of an application, with all or no levels. -/
def tokenLog (enabled : Bool) : LogSettings where
  isEnabledFor _ _ := enabled
  traceback _ _ := ""

theorem answers_failing :
    ((issueTokens (tokenLog true) (fun cls => [cls])
        [(failing "db1 refused", ⟨"reader", "secret", "items"⟩)]).run []).1 =
      ((issueTokens (tokenLog false) (fun cls => [cls])
        [(failing "timeout", ⟨"writer", "other", ""⟩)]).run []).1 := by
  refine answers_congr (.cons ?_ .nil) _ [] []
  exact ⟨rfl, fun special => absurd special (by decide)⟩

end Answers

/-! ## Scopes -/

/-- Joining the words of a text with spaces and splitting it again. -/
theorem splitWords_intercalate_splitWords (text : String) :
    splitWords (" ".intercalate (splitWords text)) = splitWords text := by
  have joined :
      (" ".intercalate (splitWords text)).toList =
        [' '].intercalate (words isSpace text.toList) := by
    rw [String.toList_intercalate, splitWords, List.map_map]
    simp [Function.comp_def]
  rw [splitWords, joined, words_intercalate_words (by decide)]
  rfl

/--
The scopes of a form reach the guards: a user whose token has the requested
scope, or no scope if none was requested, has exactly those of the form.
-/
theorem getScopes_of_requestedScope {formData : OAuth2PasswordRequestForm}
    {user : AuthenticatedUser}
    (granted :
      user.claims.get? "scope" =
        (requestedScope formData).map JsonTree.text) :
    getScopes user = formData.scopes := by
  have kept :
      splitWords (" ".intercalate formData.scopes) = formData.scopes :=
    splitWords_intercalate_splitWords formData.scope
  simp only [requestedScope] at granted
  by_cases blank : " ".intercalate formData.scopes = ""
  · rw [if_pos blank] at granted
    rw [blank] at kept
    rw [getScopes, granted, ← kept]
    rfl
  · rw [if_neg blank] at granted
    rw [getScopes, granted]
    exact kept

/-- Such a user passes a guard for scopes of the form, and for no others. -/
theorem solveGuards_of_requestedScope {mro : ExcClass → List ExcClass}
    {extractUserInfo : String → Except PyExc AuthenticatedUser}
    {token : String} {formData : OAuth2PasswordRequestForm}
    {user : AuthenticatedUser} (nonempty : token ≠ "")
    (extracted : extractUserInfo token = .ok user)
    (granted :
      user.claims.get? "scope" =
        (requestedScope formData).map JsonTree.text)
    (scopes : List String) :
    solveGuards mro extractUserInfo (some token) [.requireScopes scopes] =
        .ok () ↔
      ∀ scope ∈ scopes, scope ∈ formData.scopes := by
  have current :
      getCurrentUser mro extractUserInfo (some token) = .ok user := by
    simp only [getCurrentUser, if_neg nonempty, extracted]
  have answer :
      readUser mro extractUserInfo (some token) = .ok (toUserInfo user) := by
    rw [readUser, current]
    rfl
  rw [solveGuards_eq_decision (List.cons_ne_nil _ _), answer, decision,
    ← getScopes_of_requestedScope granted]
  simp only [List.flatMap_cons, List.flatMap_nil, List.append_nil,
    Guard.requirements, List.forall_mem_map, UserInfo.Shows, toUserInfo]
  split
  · next shown => exact iff_of_true rfl shown
  · next lacks => exact iff_of_false (by simp) lacks

/-- A form for two scopes, with more spaces than it needs. -/
def twoScopes : OAuth2PasswordRequestForm where
  username := "reader"
  password := "secret"
  scope := " items  orders "

/-- The user of a token for these scopes. -/
def twoScopesUser : AuthenticatedUser where
  sub := "reader"
  claims := OrderedDict.empty.insert "scope" (.text "items orders")

theorem solveGuards_twoScopes :
    solveGuards (fun cls => [cls]) (fun _ => .ok twoScopesUser)
        (some "token") [.requireScopes ["orders"]] = .ok () ↔
      ∀ scope ∈ ["orders"], scope ∈ twoScopes.scopes := by
  have requested : requestedScope twoScopes = some "items orders" := by
    decide
  refine @solveGuards_of_requestedScope (fun cls => [cls])
    (fun _ => .ok twoScopesUser) "token" twoScopes twoScopesUser (by decide)
    rfl ?_ ["orders"]
  rw [requested]
  rfl

end FastapiCore
