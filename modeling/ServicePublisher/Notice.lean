import ServicePublisher.Error
import ServicePublisher.Level
import ServicePublisher.ServiceKey

/-! The log lines of the publisher. Each has a level, a message, and named fields. -/
namespace ServicePublisher

inductive FieldValue where
  | text (s : String)
  | number (n : Nat)
deriving DecidableEq, Repr

inductive ProviderNotice where
  | publicationScheduled (delayMs : Nat)
  | publicationCancelled
  | scheduledPublicationFailed (e : ProviderError)
  | publishing (id : Option String)
  | publishedBefore (count : Nat)
  | processorBound (bound : Nat)
  | bindingsKept (remaining : Nat)
  | withdrawing (id : Option String)
  | keyReleased (remaining : Nat)
  | republishing
  | comparisonFailed (e : ProviderError)
  | updateFailed (e : ProviderError)
  | restoreFailed (name : String) (e : ProviderError)
  | rollbackFailed (e : ProviderError)
  | bindingFailed (server : String) (e : ProviderError)
  | unbindingFailed (server : String) (e : ProviderError)
  | announcementFailed (registry : String) (e : ProviderError)
  | retractionFailed (registry : String) (e : ProviderError)

inductive Notice where
  | ofProvider (app : String) (key : ServiceKey) (n : ProviderNotice)
  | repeatedMethod (app interface method : String)
  | registryCreated (registry identity : String)
  | shutDown (count : Nat)

namespace ProviderNotice

def level : ProviderNotice → Level
  | .publicationScheduled _ | .publicationCancelled | .processorBound _ | .bindingsKept _
  | .keyReleased _ => .debug
  | .publishing _ | .withdrawing _ | .republishing => .info
  | .publishedBefore _ | .unbindingFailed .. | .announcementFailed ..
  | .retractionFailed .. => .warn
  | .scheduledPublicationFailed _ | .comparisonFailed _ | .updateFailed _ | .restoreFailed ..
  | .rollbackFailed _ | .bindingFailed .. => .error

def message (key : String) : ProviderNotice → String
  | .publicationScheduled _ => "delayed export scheduled"
  | .publicationCancelled => "delayed export cancelled by unexport"
  | .scheduledPublicationFailed _ => "delayed export failed"
  | .publishing id => "Export provider config : " ++ key ++ " with bean id " ++ id.getD ""
  | .publishedBefore _ =>
    "Duplicate provider config with key " ++ key ++ " has been exported! " ++ wrongConfigHint
  | .processorBound _ => "processor bound to servers"
  | .bindingsKept _ => "bindings kept for other exports of the same key"
  | .withdrawing id =>
    "Unexport provider config : " ++ key ++ " " ++ (id.map ("with bean id " ++ ·)).getD ""
  | .keyReleased _ => "export key released"
  | .republishing => "Reexport service " ++ key
  | .comparisonFailed _ => "Catch exception when provider attribute compare"
  | .updateFailed _ => "Catch exception when provider attribute changed"
  | .restoreFailed .. => "failed to restore provider attribute"
  | .rollbackFailed _ => "rollback export failed"
  | .bindingFailed server _ => "Catch exception when register processor to server: " ++ server
  | .unbindingFailed server _ =>
    "Catch exception when unRegister processor to server: " ++ server ++
      ", but you can ignore if it's called during process shutdown"
  | .announcementFailed registry _ => "Catch exception when register to registry: " ++ registry
  | .retractionFailed registry _ =>
    "Catch exception when unRegister from registry: " ++ registry ++
      ", but you can ignore if it's called during process shutdown"

/-- The fields of a line about a provider beyond its application and key. -/
def fields : ProviderNotice → List (String × FieldValue)
  | .publicationScheduled delay => [("delay_ms", .number delay)]
  | .publishedBefore count => [("count", .number count)]
  | .processorBound bound => [("bound", .number bound)]
  | .bindingsKept remaining => [("remaining", .number remaining)]
  | .keyReleased remaining => [("remaining", .number remaining)]
  | .scheduledPublicationFailed e => [("error", .text e.message)]
  | .comparisonFailed e => [("error", .text e.message)]
  | .updateFailed e => [("error", .text e.message)]
  | .restoreFailed name e => [("attribute", .text name), ("error", .text e.message)]
  | .rollbackFailed e => [("error", .text e.message)]
  | .bindingFailed server e => [("server", .text server), ("error", .text e.message)]
  | .unbindingFailed server e => [("server", .text server), ("error", .text e.message)]
  | .announcementFailed registry e => [("registry", .text registry), ("error", .text e.message)]
  | .retractionFailed registry e => [("registry", .text registry), ("error", .text e.message)]
  | .publicationCancelled | .publishing _ | .withdrawing _ | .republishing => []

end ProviderNotice

namespace Notice

def level : Notice → Level
  | .ofProvider _ _ n => n.level
  | .repeatedMethod .. => .warn
  | .registryCreated .. => .debug
  | .shutDown _ => .info

def message : Notice → String
  | .ofProvider _ key n => n.message key.text
  | .repeatedMethod _ interface method =>
    "Method with same name \"" ++ interface ++ "." ++ method ++
      "\" exists ! The usage of overloading method in rpc is deprecated."
  | .registryCreated .. => "registry created"
  | .shutDown _ => "providers unexported on destroy"

def fields : Notice → List (String × FieldValue)
  | .ofProvider app key n => ("app", .text app) :: ("key", .text key.text) :: n.fields
  | .repeatedMethod app _ _ => [("app", .text app)]
  | .registryCreated registry identity =>
    [("registry", .text registry), ("identity", .text identity)]
  | .shutDown count => [("count", .number count)]

end Notice

end ServicePublisher
