import ServicePublisher.LogFilter

/-! The one log subscriber of a process. It is installed at most once, and not where the host has
installed one of its own. -/
namespace ServicePublisher

inductive TelemetryError where
  | alreadyInstalled
  | subscriberAlreadySet
deriving DecidableEq, Repr

def TelemetryError.message : TelemetryError → String
  | .alreadyInstalled => "telemetry has already been installed"
  | .subscriberAlreadySet => "a global tracing subscriber has already been set"

/-- Who receives the log lines of a process. -/
inductive Subscriber where
  | none
  | ofHost
  | own (filter : LogFilter)
deriving DecidableEq, Repr

def Subscriber.install (setting : Option String) :
    Subscriber → Except TelemetryError Unit × Subscriber
  | .none => (.ok (), .own (LogFilter.ofSetting setting))
  | .ofHost => (.error .subscriberAlreadySet, .ofHost)
  | .own f => (.error .alreadyInstalled, .own f)

end ServicePublisher
