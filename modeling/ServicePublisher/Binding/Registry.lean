import ServicePublisher.Binding.Walk

/-! Providers announced in registries. A group of services has one registry for each identity,
created when it is first needed. -/
namespace ServicePublisher

/-- The registries in which a provider is announced: all of its own, or none at all. -/
def ProviderConfig.announcedIn (c : ProviderConfig) : List RegistryConfig :=
  if c.register then c.registries else []

namespace World

variable {σ : Type} (ask : Ask σ)

/-- The registry of a group for a configuration, known by the configuration that created it. -/
def registryFor (group : Nat) (r : RegistryConfig) (w : World σ) : Outcome σ RegistryConfig :=
  match (w.services group).registries[r.identity]? with
  | some x => ⟨.ok x.origin, w⟩
  | none =>
    match w.perform ask (.registry group r .create) with
    | ⟨.error e, w⟩ => ⟨.error e, w⟩
    | ⟨.ok (), w⟩ => ⟨.ok r, w.log (.registryCreated r.id r.identity)⟩

/-- Creates the registries that do not exist yet. -/
def prime (group : Nat) : List RegistryConfig → World σ → Outcome σ Unit
  | [], w => ⟨.ok (), w⟩
  | r :: rs, w =>
    match registryFor ask group r w with
    | ⟨.error e, w⟩ => ⟨.error e, w⟩
    | ⟨.ok _, w⟩ => prime group rs w

/-- Announces a provider in one registry, which is made ready before. -/
def announceIn (p : Provider) (r : RegistryConfig) (w : World σ) : Outcome σ Unit :=
  match registryFor ask p.group r w with
  | ⟨.error e, w⟩ => ⟨.error e, w⟩
  | ⟨.ok x, w⟩ =>
    match w.perform ask (.registry p.group x .init) with
    | ⟨.error e, w⟩ => ⟨.error e, w⟩
    | ⟨.ok (), w⟩ =>
      match w.perform ask (.registry p.group x .start) with
      | ⟨.error e, w⟩ => ⟨.error e, w⟩
      | ⟨.ok (), w⟩ => w.perform ask (.registry p.group x (.register (w.view p.config)))

/-- One stop of an announcement: the provider is accepted when nothing went wrong. -/
def announceStop (p : Provider) (r : RegistryConfig) (w : World σ) : Stop σ :=
  let outcome := announceIn ask p r w
  ⟨outcome.result.isOk, outcome⟩

def announce (w : World σ) (p : Provider) : Walk σ RegistryConfig :=
  visitAll (announceStop ask p) (fun w r e => w.report p.config (.announcementFailed r.id e))
    p.config.announcedIn w

def retractFrom (p : Provider) (r : RegistryConfig) (w : World σ) : Outcome σ Unit :=
  match registryFor ask p.group r w with
  | ⟨.error e, w⟩ => ⟨.error e, w⟩
  | ⟨.ok x, w⟩ => w.perform ask (.registry p.group x (.unregister (w.view p.config)))

def retract (w : World σ) (p : Provider) (registries : List RegistryConfig) : World σ :=
  sweep (retractFrom ask p) (fun w r e => w.report p.config (.retractionFailed r.id e))
    registries w

end World

end ServicePublisher
