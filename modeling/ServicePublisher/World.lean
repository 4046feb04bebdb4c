import ServicePublisher.Call
import ServicePublisher.ExportCounts
import ServicePublisher.MethodArgs
import ServicePublisher.Notice

/-! The state of the publisher together with the servers and registries it talks to. A collaborator
may answer any call as it likes; a call that it accepts has its effect, a refused one has none. -/
namespace ServicePublisher

open Std (ExtTreeMap)

inductive Event where
  | notice (n : Notice)
  | call (c : Call) (answer : Option ProviderError)
  /-- A recording listener has heard of a change. -/
  | heard (change : Change)

structure ConfigState where
  attributes : Attributes
  listener : Option Listener := none
  /-- The method policy of the latest publication. -/
  policy : Option MethodPolicy := none

structure ProviderState where
  published : Bool := false
  invoker : Option Invoker := none
  /-- The number of attempts so far to bind and announce the provider. -/
  attempts : Nat := 0
  /-- The number of withdrawals so far; a publication scheduled before the latest is void. -/
  epoch : Nat := 0
  /-- Whether someone outside still refers to the provider. -/
  held : Bool := true

/-- A registry: the configuration that created it and the keys it lists. -/
structure RegistryState where
  origin : RegistryConfig
  keys : List ServiceKey := []

/-- The invokers that a server calls, by key. -/
abbrev Processors := ExtTreeMap ServiceKey Invoker

/-- The tables that the providers of one group share. -/
structure Services where
  counts : ExportCounts := ∅
  registries : ExtTreeMap String RegistryState := ∅
  /-- The published providers by number, to be withdrawn on shutdown. -/
  published : ExtTreeMap Nat Provider := ∅
  args : MethodArgs := ∅

/-- A publication that is due later; it is void once the provider has left the epoch. -/
structure Scheduled where
  provider : Provider
  epoch : Nat
  due : Nat

/-- The whole state. Servers, configurations and providers are known by their numbers, and one that
has no entry is as it was created. -/
structure World (σ : Type) where
  /-- The state of the collaborators beyond what is modelled here. -/
  outside : σ
  clock : Nat := 0
  configs : ExtTreeMap Nat ConfigState := ∅
  providers : ExtTreeMap Nat ProviderState := ∅
  servers : ExtTreeMap Nat Processors := ∅
  groups : ExtTreeMap Nat Services := ∅
  scheduled : List Scheduled := []
  events : List Event := []

/-- How collaborators answer calls: nothing when the call is accepted, else an error. -/
abbrev Ask (σ : Type) := Call → σ → Option ProviderError × σ

structure Outcome (σ α : Type) where
  result : Except ProviderError α
  world : World σ

namespace World

variable {σ : Type}

/-- The state of a configuration, which starts with the attributes configured. -/
def config (w : World σ) (c : ProviderConfig) : ConfigState :=
  w.configs[c.serial]?.getD { attributes := c.attributes }

def provider (w : World σ) (p : Provider) : ProviderState := w.providers[p.number]?.getD {}

def services (w : World σ) (group : Nat) : Services := w.groups[group]?.getD {}

def modifyConfig (w : World σ) (c : ProviderConfig) (f : ConfigState → ConfigState) : World σ :=
  { w with configs := w.configs.insert c.serial (f (w.config c)) }

def modifyProvider (w : World σ) (p : Provider) (f : ProviderState → ProviderState) : World σ :=
  { w with providers := w.providers.insert p.number (f (w.provider p)) }

def modifyServices (w : World σ) (group : Nat) (f : Services → Services) : World σ :=
  { w with groups := w.groups.insert group (f (w.services group)) }

def modifyRegistry (w : World σ) (group : Nat) (identity : String)
    (f : List ServiceKey → List ServiceKey) : World σ :=
  w.modifyServices group fun t =>
    { t with registries := t.registries.modify identity fun r => { r with keys := f r.keys } }

def modifyServer (w : World σ) (serial : Nat) (f : Processors → Processors) : World σ :=
  { w with servers := w.servers.modify serial f }

def record (w : World σ) (e : Event) : World σ := { w with events := w.events ++ [e] }

def log (w : World σ) (n : Notice) : World σ := w.record (.notice n)

def report (w : World σ) (c : ProviderConfig) (n : ProviderNotice) : World σ :=
  w.log (.ofProvider c.appName c.key n)

@[simp] theorem config_modifyConfig (w : World σ) (c c' : ProviderConfig)
    (f : ConfigState → ConfigState) :
    (w.modifyConfig c f).config c' =
      if c.serial = c'.serial then f (w.config c) else w.config c' := by
  simp only [config, modifyConfig, Std.ExtTreeMap.getElem?_insert, Nat.compare_eq_eq]
  split <;> rfl

@[simp] theorem provider_modifyProvider (w : World σ) (p p' : Provider)
    (f : ProviderState → ProviderState) :
    (w.modifyProvider p f).provider p' =
      if p.number = p'.number then f (w.provider p) else w.provider p' := by
  simp only [provider, modifyProvider, Std.ExtTreeMap.getElem?_insert, Nat.compare_eq_eq]
  split <;> rfl

@[simp] theorem services_modifyServices (w : World σ) (g g' : Nat) (f : Services → Services) :
    (w.modifyServices g f).services g' = if g = g' then f (w.services g) else w.services g' := by
  simp only [services, modifyServices, Std.ExtTreeMap.getElem?_insert, Nat.compare_eq_eq]
  split <;> rfl

def isPublished (w : World σ) (p : Provider) : Bool := (w.provider p).published

/-- Whether a provider is still referred to: from outside, by the table of published providers, or
by a scheduled publication. -/
def isAlive (w : World σ) (p : Provider) : Bool :=
  (w.provider p).held || (w.services p.group).published.contains p.number ||
    w.scheduled.any (·.provider.number == p.number)

def view (w : World σ) (c : ProviderConfig) : ConfigView := ⟨c, (w.config c).attributes⟩

/-- The effect of a call that a collaborator accepts. A registry lists a key once, in the order of
the first registration. -/
def accept (w : World σ) : Call → World σ
  | .server s .create => { w with servers := w.servers.insert s.serial ∅ }
  | .server s (.register view v) => w.modifyServer s.serial (·.insert view.config.key v)
  | .server s (.unregister view _) => w.modifyServer s.serial (·.erase view.config.key)
  | .server _ .start => w
  | .registry g r .create =>
    w.modifyServices g fun t => { t with registries := t.registries.insert r.identity ⟨r, []⟩ }
  | .registry g r (.register view) =>
    w.modifyRegistry g r.identity fun keys =>
      if view.config.key ∈ keys then keys else keys ++ [view.config.key]
  | .registry g r (.unregister view) =>
    w.modifyRegistry g r.identity fun keys => keys.filter (· ≠ view.config.key)
  | .registry _ _ _ => w

/-- A call with its answer and, if accepted, its effect. -/
def perform (ask : Ask σ) (w : World σ) (c : Call) : Outcome σ Unit :=
  let (answer, outside) := ask c w.outside
  let w := { w with outside }.record (.call c answer)
  match answer with
  | none => ⟨.ok (), w.accept c⟩
  | some e => ⟨.error e, w⟩

end World

end ServicePublisher
