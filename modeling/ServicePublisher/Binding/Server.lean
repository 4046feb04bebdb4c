import ServicePublisher.Binding.Walk

/-! Providers bound to servers. A server is created when it is first needed, and once only. -/
namespace ServicePublisher.World

variable {σ : Type} (ask : Ask σ)

/-- Creates a server unless it exists. -/
def build (w : World σ) (s : ServerConfig) : Outcome σ Unit :=
  if w.servers.contains s.serial then ⟨.ok (), w⟩ else w.perform ask (.server s .create)

/-- Binds an invoker to one server and starts the server if it starts by itself. -/
def bindServer (c : ProviderConfig) (v : Invoker) (s : ServerConfig) (w : World σ) : Stop σ :=
  match w.build ask s with
  | ⟨.error e, w⟩ => ⟨false, ⟨.error e, w⟩⟩
  | ⟨.ok (), w⟩ =>
    match w.perform ask (.server s (.register (w.view c) v)) with
    | ⟨.error e, w⟩ => ⟨false, ⟨.error e, w⟩⟩
    | ⟨.ok (), w⟩ =>
      -- A server that does not start has accepted the invoker all the same.
      ⟨true, if s.settings.autoStart then w.perform ask (.server s .start) else ⟨.ok (), w⟩⟩

def bindServers (w : World σ) (c : ProviderConfig) (v : Invoker) : Walk σ ServerConfig :=
  visitAll (bindServer ask c v) (fun w s e => w.report c (.bindingFailed s.id e)) c.servers w

/-- Unbinds a configuration from one server, if that server exists. -/
def unbindServer (c : ProviderConfig) (s : ServerConfig) (w : World σ) : Outcome σ Unit :=
  if w.servers.contains s.serial then
    w.perform ask (.server s (.unregister (w.view c) s.settings.autoStart))
  else ⟨.ok (), w⟩

def unbindServers (w : World σ) (c : ProviderConfig) (servers : List ServerConfig) : World σ :=
  sweep (unbindServer ask c) (fun w s e => w.report c (.unbindingFailed s.id e)) servers w

end ServicePublisher.World
