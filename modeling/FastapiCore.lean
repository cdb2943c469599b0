import FastapiCore.Library.OrderedDict
import FastapiCore.Library.FallibleLoop
import FastapiCore.Library.Effect
import FastapiCore.PythonObjects
import FastapiCore.ReadinessRegistry
import FastapiCore.ReadinessCheck
import FastapiCore.ReadinessCheckLaw
import FastapiCore.AppConfig
import FastapiCore.HealthRouter
import FastapiCore.HealthStatusLaw
import FastapiCore.HealthRedaction
import FastapiCore.Library.Interleaving
import FastapiCore.FunctionLogging
import FastapiCore.ReadinessLogging
import FastapiCore.LogRedaction
import FastapiCore.ResourceRegistry
import FastapiCore.Lifecycle
import FastapiCore.LifespanBlocks
import FastapiCore.LifecycleTrace
import FastapiCore.Library.Transition
import FastapiCore.ResourceOwnership
import FastapiCore.StaleChecks
import FastapiCore.StartupNames
import FastapiCore.StartupReport
import FastapiCore.ForeignChecks
import FastapiCore.Factory
import FastapiCore.RuntimeConnection
import FastapiCore.LifespanViews
import FastapiCore.LifespanEvents
import FastapiCore.RuntimeChecks
import FastapiCore.AuthProvider
import FastapiCore.Streaming
import FastapiCore.StreamingClose
import FastapiCore.ReadinessDetails
import FastapiCore.TransportPolicy
import FastapiCore.Routing
import FastapiCore.RouteOperations
import FastapiCore.PolicyLocality
import FastapiCore.Library.Interaction
import FastapiCore.Asgi
import FastapiCore.ErrorRendering
import FastapiCore.ErrorHandlers
import FastapiCore.IntegerText
import FastapiCore.OpenApiContract
import FastapiCore.HttpMiddleware
import FastapiCore.AccessEvents
import FastapiCore.ServedResponses
import FastapiCore.CorrelationHeaders
import FastapiCore.ReportedStatus
import FastapiCore.CorrelationAgreement
import FastapiCore.SafeFields
import FastapiCore.ProblemMembers
import FastapiCore.ReadinessTimeout
import FastapiCore.LifespanErrors
import FastapiCore.StreamingOutcome
import FastapiCore.ResourceLookup
import FastapiCore.RuntimeAtomicity
import FastapiCore.Library.ClassHierarchy
import FastapiCore.ExceptionMappings
import FastapiCore.Library.ValueEquality
import FastapiCore.PolicyConflicts
import FastapiCore.Library.JsonTree
import FastapiCore.OpenApiAssertion
import FastapiCore.OpenApiExpectations
import FastapiCore.OpenApiAssertionLaw
import FastapiCore.Library.ContextManager
import FastapiCore.ProcessEnvironment
import FastapiCore.TestEnvironment
import FastapiCore.Library.SeparatedText
import FastapiCore.ListSettings
import FastapiCore.Library.JsonText
import FastapiCore.Library.JsonMeaning
import FastapiCore.LogLines
import FastapiCore.Library.Words
import FastapiCore.Authorization
import FastapiCore.TokenRouter
import FastapiCore.ExceptionDispatch
import FastapiCore.ApplicationCreation
import FastapiCore.ApplicationOrder
import FastapiCore.Library.JsonPath
import FastapiCore.DictionaryChanges
import FastapiCore.OpenApiSchemaPaths
import FastapiCore.OpenApiPasses
import FastapiCore.OpenApiServed
import FastapiCore.OpenApiServedContract
import FastapiCore.ModuleContract
import FastapiCore.ServiceClients
import FastapiCore.ConcurrentReadiness
import FastapiCore.Library.WorkerPool
import FastapiCore.Invocation
import FastapiCore.InvocationLaw
import FastapiCore.RegisteredChecks
