import ServicePublisher.Config

/-! Providers and what they hand to others: the invoker that a server calls, and the listener that
hears of changed attributes. -/
namespace ServicePublisher

/-- New values of attributes by key; an absent value removes the attribute. -/
abbrev Updates := Std.ExtTreeMap String (Option String)

/-- A provider publishes one configuration within a group of shared services. Providers are numbered
in the order of their creation. -/
structure Provider where
  number : Nat
  group : Nat
  config : ProviderConfig

/-- What a server calls: a configuration with a method policy. Every attempt to publish a provider
makes an invoker of its own, known by the number of the provider and that of the attempt. -/
structure Invoker where
  provider : Nat
  attempt : Nat
  config : ProviderConfig
  policy : MethodPolicy

inductive Listener where
  | republish (p : Provider)
  /-- Keeps a record of what it hears and gives always the same answer. -/
  | recorder (answer : Option ProviderError)

inductive Change where
  | replaced (values : Attributes)
  | updated (values : Updates)

def Invoker.allows (v : Invoker) (name : String) : Bool := v.policy.allows name

end ServicePublisher
