import ServicePublisher.Lifecycle

/-! Publications that are due later. Each one happens in a single step, and the clock moves only
while someone waits for them. -/
namespace ServicePublisher.World

variable {σ : Type} (ask : Ask σ)

/-- What a scheduled publication does when its time has come: nothing if the provider has been
withdrawn since, else it publishes the provider and reports an error. -/
def carryOut (w : World σ) (s : Scheduled) : World σ :=
  let c := s.provider.config
  if (w.provider s.provider).epoch ≠ s.epoch then w.report c .publicationCancelled
  else
    match w.publishNow ask s.provider with
    | ⟨.ok (), w⟩ => w
    | ⟨.error e, w⟩ => w.report c (.scheduledPublicationFailed e)

def fire (w : World σ) (i : Nat) : World σ :=
  match w.scheduled[i]? with
  | none => w
  | some s => { w with scheduled := w.scheduled.eraseIdx i }.carryOut ask s

/-- The position of the scheduled publication that is due first; of several due together, the one
scheduled first. -/
def nextDue (schedule : List Scheduled) : Option Nat :=
  (schedule.map Scheduled.due).min?.bind fun first => schedule.findIdx? (·.due == first)

/-- Carries out what is due by a time, at most the given number of publications. -/
def fireUntil (time : Nat) : Nat → World σ → World σ
  | 0, w => w
  | n + 1, w =>
    match nextDue w.scheduled with
    | none => w
    | some i =>
      if (w.scheduled[i]?).all (·.due ≤ time) then fireUntil time n (w.fire ask i) else w

/-- Waits until no publication of a provider is scheduled any more; others that are due by then
happen as well. -/
def settle (w : World σ) (p : Provider) : World σ :=
  match ((w.scheduled.filter (·.provider.number == p.number)).map Scheduled.due).max? with
  | none => w
  | some time =>
    let w := fireUntil ask time w.scheduled.length w
    { w with clock := max w.clock time }

end ServicePublisher.World
