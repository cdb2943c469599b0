import FastapiCore.PythonObjects
import FastapiCore.ReadinessRegistry

/-!
# The application settings

`AppConfig` holds the settings which readiness, startup and runtime assembly
read.  The constraints of its field and model validators are fields of the
structure, so every configuration in this development has passed them.
-/

namespace FastapiCore

/-- What a failing startup check does to the startup. -/
inductive StartupFailureMode where
  | fail
  | report
deriving DecidableEq, Repr

/-- The settings of an application. -/
structure AppConfig where
  readinessParallel : Bool := false
  readinessTimeoutSeconds : Option ℚ := none
  readinessOverallTimeoutSeconds : Option ℚ := none
  serviceAlternatives : List (List Name) := []
  startupHealthcheck : Bool := false
  startupFailureMode : StartupFailureMode := .fail
  startupHealthcheckAttempts : Nat := 1
  startupHealthcheckRetryDelaySeconds : ℚ := 0
  enabledServices : List Name := []
  requiredServices : List Name := []
  readinessTimeout : rejectedTimeout readinessTimeoutSeconds = false :=
    by decide
  readinessOverallTimeout :
    rejectedTimeout readinessOverallTimeoutSeconds = false := by decide
  attempts : 1 ≤ startupHealthcheckAttempts := by decide
  retryDelay : 0 ≤ startupHealthcheckRetryDelaySeconds := by decide
  requiredEnabled :
    ∀ service ∈ requiredServices, service ∈ enabledServices := by decide

/-- The default settings with these services enabled. -/
def AppConfig.enabling (services : List Name) : AppConfig where
  enabledServices := services
  requiredEnabled := by simp

end FastapiCore
