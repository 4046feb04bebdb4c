/-! Errors of publishing, in two classes: framework errors, which end the operation in which they
occur, and faults of a collaborator, which concern that collaborator alone. -/
namespace ServicePublisher

mutual

inductive ProviderError where
  | configuration (field value detail : String)
  /-- A key has as many live publications as its limit allows. -/
  | duplicate (key : String) (limit : Nat)
  | runtime (message : String) (cause : Option ErrorCause)
  | collaborator (context : String) (cause : ErrorCause)

/-- What lies beneath an error: a plain message, or another error with causes of its own. -/
inductive ErrorCause where
  | text (message : String)
  | error (e : ProviderError)

end

instance : Inhabited ProviderError := ⟨.runtime "" none⟩

def wrongConfigHint : String :=
  "Maybe it's wrong config, please check it. Ignore this if you did that on purpose!"

/-- The message of the framework error that stands for a fault which ended a publication. -/
def buildProxyError : String := "Build provider proxy error!"

mutual

def ProviderError.message : ProviderError → String
  | .configuration field value detail =>
    s!"The value of config {field} [{value}] is illegal, {detail}"
  | .duplicate key limit =>
    s!"Duplicate provider config with key {key} has been exported more than {limit} times! " ++
      wrongConfigHint
  | .runtime message _ => message
  | .collaborator context cause => context ++ ": " ++ cause.message

def ErrorCause.message : ErrorCause → String
  | .text message => message
  | .error e => e.message

end

mutual

/-- The texts of the causes beneath an error, the outermost first. -/
def ProviderError.causes : ProviderError → List String
  | .configuration .. => []
  | .duplicate .. => []
  | .runtime _ none => []
  | .runtime _ (some cause) => cause.chain
  | .collaborator _ cause => cause.chain

def ErrorCause.chain : ErrorCause → List String
  | .text message => [message]
  | .error e => e.message :: e.causes

end

namespace ProviderError

def code : ProviderError → String
  | .configuration .. => "provider.config.invalid"
  | .duplicate .. => "provider.export.duplicate"
  | .runtime .. => "provider.runtime"
  | .collaborator .. => "provider.collaborator"

/-- Every error but a collaborator's fault ends the operation in which it occurs. -/
def isFramework : ProviderError → Bool
  | .collaborator .. => false
  | _ => true

/-- The framework error that a caller is given: a fault becomes the cause of a runtime error. -/
def intoFramework (e : ProviderError) : ProviderError :=
  if e.isFramework then e else .runtime buildProxyError (some (.error e))

variable {e : ProviderError}

theorem intoFramework_of_framework (h : e.isFramework = true) : e.intoFramework = e :=
  if_pos h

theorem intoFramework_of_fault (h : e.isFramework = false) :
    e.intoFramework = .runtime buildProxyError (some (.error e)) :=
  if_neg (ne_true_of_eq_false h)

@[simp] theorem isFramework_intoFramework (e : ProviderError) :
    e.intoFramework.isFramework = true := by
  cases h : e.isFramework with
  | true => rwa [intoFramework_of_framework h]
  | false =>
    rw [intoFramework_of_fault h]
    rfl

end ProviderError

end ServicePublisher
