import ServicePublisher.Binding.Registry
import ServicePublisher.Binding.Server

/-! Publication and withdrawal of a provider. A publication either ends with everything in place, or
takes back its count and, if it was the last one under its key, the bindings it made. -/
namespace ServicePublisher

/-- An attempt to bind and announce a provider: who accepted it, and how it ended. -/
structure Attempt (σ : Type) where
  servers : List ServerConfig
  registries : List RegistryConfig
  outcome : Outcome σ Unit

namespace World

variable {σ : Type} (ask : Ask σ)

def nextInvoker (w : World σ) (p : Provider) : Invoker :=
  ⟨p.number, (w.provider p).attempts, p.config, p.config.policy⟩

def openInvoker (w : World σ) (p : Provider) : World σ :=
  w.modifyProvider p fun s => { s with invoker := w.nextInvoker p, attempts := s.attempts + 1 }

def closeInvoker (w : World σ) (p : Provider) : World σ :=
  w.modifyProvider p fun s => { s with invoker := none }

def setListener (w : World σ) (c : ProviderConfig) (l : Option Listener) : World σ :=
  w.modifyConfig c fun s => { s with listener := l }

/-- Decides on the methods of a provider anew, and records the types of their parameters. -/
def decideMethods (w : World σ) (p : Provider) : World σ :=
  let c := p.config
  let w := c.interface.repeated.foldl
    (fun w n => w.log (.repeatedMethod c.appName c.interface.id n)) w
  let w := w.modifyServices p.group fun t => { t with args := t.args.recordAll c.interface }
  w.modifyConfig c fun s => { s with policy := some c.policy }

def acquire (w : World σ) (group : Nat) (k : ServiceKey) (limit : Int) : Outcome σ Nat :=
  match (w.services group).counts.acquire k limit with
  | .error e => ⟨.error e, w⟩
  | .ok (n, counts) => ⟨.ok n, w.modifyServices group fun t => { t with counts }⟩

def release (w : World σ) (group : Nat) (k : ServiceKey) : Nat × World σ :=
  let r := (w.services group).counts.release k
  (r.1, w.modifyServices group fun t => { t with counts := r.2 })

def enlist (w : World σ) (p : Provider) : World σ :=
  w.modifyServices p.group fun t => { t with published := t.published.insert p.number p }

def delist (w : World σ) (p : Provider) : World σ :=
  w.modifyServices p.group fun t => { t with published := t.published.erase p.number }

/-- Nobody outside refers to a provider any more. -/
def letGo (w : World σ) (p : Provider) : World σ :=
  w.modifyProvider p fun s => { s with held := false }

/-- Binds a provider to its servers and announces it in its registries. -/
def attempt (w : World σ) (p : Provider) : Attempt σ :=
  let c := p.config
  let v := w.nextInvoker p
  -- A registry that cannot be created is met before the first server takes calls.
  match prime ask p.group c.announcedIn (w.openInvoker p) with
  | ⟨.error e, w⟩ => ⟨[], [], ⟨.error e, w⟩⟩
  | ⟨.ok (), w⟩ =>
    let bound := w.bindServers ask c v
    match bound.outcome with
    | ⟨.error e, w⟩ => ⟨bound.accepted, [], ⟨.error e, w⟩⟩
    | ⟨.ok (), w⟩ =>
      -- Changes of attributes are heard from here on, though a registry may still end the attempt.
      let w := (w.report c (.processorBound bound.served)).setListener c (some (.republish p))
      let announced := w.announce ask p
      ⟨bound.accepted, announced.accepted, announced.outcome⟩

/-- Takes back a failed attempt, up to its bindings while other publications of the key live. -/
def discard (w : World σ) (p : Provider) (a : Attempt σ) : World σ :=
  let c := p.config
  let (remaining, w) := ((w.setListener c none).closeInvoker p).release p.group c.key
  -- Other publications of the key rely on the same entries.
  if 0 < remaining then w.report c (.bindingsKept remaining)
  else (w.retract ask p a.registries).unbindServers ask c a.servers

def publishNow (w : World σ) (p : Provider) : Outcome σ Unit :=
  if w.isPublished p then ⟨.ok (), w⟩
  else
    let c := p.config
    match c.check with
    | .error e => ⟨.error e, w⟩
    | .ok () =>
      let w := (w.decideMethods p).report c (.publishing c.id)
      -- The count is taken before anything is bound, and given back when the attempt is discarded.
      match w.acquire p.group c.key c.repeatLimit.toInt with
      | ⟨.error e, w⟩ => ⟨.error e, w⟩
      | ⟨.ok count, w⟩ =>
        let a := (if 1 < count then w.report c (.publishedBefore count) else w).attempt ask p
        match a.outcome with
        | ⟨.error e, w⟩ => ⟨.error e.intoFramework, w.discard ask p a⟩
        | ⟨.ok (), w⟩ =>
          ⟨.ok (), (w.enlist p).modifyProvider p fun s => { s with published := true }⟩

/-- Publishes a provider at once or, when it has a delay, schedules that. A scheduled publication
belongs to the epoch in which it was asked for. -/
def publish (w : World σ) (p : Provider) : Outcome σ Unit :=
  let delay := p.config.delayMs
  if delay = 0 then w.publishNow ask p
  else if w.isPublished p then ⟨.ok (), w⟩
  else
    let due : Scheduled := ⟨p, (w.provider p).epoch, w.clock + delay⟩
    ⟨.ok (), { w with scheduled := w.scheduled ++ [due] }.report p.config
      (.publicationScheduled delay)⟩

/-- Withdraws a provider if it is published. In any case the publications scheduled for it before
are void from now on. -/
def withdraw (w : World σ) (p : Provider) : World σ :=
  let c := p.config
  let w := w.modifyProvider p fun s => { s with epoch := s.epoch + 1 }
  if !w.isPublished p then w
  else
    let w := (w.report c (.withdrawing c.id)).retract ask p c.announcedIn
    let w := (w.closeInvoker p).unbindServers ask c c.servers
    let (remaining, w) := (w.setListener c none).release p.group c.key
    let w := (w.report c (.keyReleased remaining)).delist p
    w.modifyProvider p fun s => { s with published := false }

end World

end ServicePublisher
