import ServicePublisher.Attributes
import ServicePublisher.Lifecycle

/-! Changed configurations. A provider whose attributes change is withdrawn, given the new values,
and published again; when that fails the old values come back and it is published once more. -/
namespace ServicePublisher.World

variable {σ : Type} (ask : Ask σ)

def queryAttribute (w : World σ) (c : ProviderConfig) (key : String) :
    Except ProviderError (Option String) :=
  c.query (w.config c).attributes key

def updateAttribute (w : World σ) (c : ProviderConfig) (key : String) (value : Option String)
    (ignoreIfSame : Bool) : Outcome σ Bool :=
  match c.update (w.config c).attributes key value ignoreIfSame with
  | .error e => ⟨.error e, w⟩
  | .ok (touched, a) => ⟨.ok touched, w.modifyConfig c fun s => { s with attributes := a }⟩

/-- Writes attributes in order, up to the first that is refused. -/
def updateAll (c : ProviderConfig) : List (String × Option String) → World σ → Outcome σ Unit
  | [], w => ⟨.ok (), w⟩
  | (key, value) :: rest, w =>
    match w.updateAttribute c key value true with
    | ⟨.error e, w⟩ => ⟨.error e, w⟩
    | ⟨.ok _, w⟩ => updateAll c rest w

/-- The present values of those attributes that the updates would change. -/
def staleValues (w : World σ) (c : ProviderConfig) :
    List (String × Option String) → Except ProviderError (List (String × Option String))
  | [] => .ok []
  | (key, value) :: rest =>
    match w.queryAttribute c key with
    | .error e => .error e
    | .ok old =>
      (w.staleValues c rest).map fun more => if old = value then more else (key, old) :: more

/-- Writes old values back in order and reports those that are refused. -/
def restore (c : ProviderConfig) : List (String × Option String) → World σ → World σ
  | [], w => w
  | (key, value) :: rest, w =>
    match w.updateAttribute c key value true with
    | ⟨.error e, w⟩ => restore c rest (w.report c (.restoreFailed key e))
    | ⟨.ok _, w⟩ => restore c rest w

def republish (w : World σ) (p : Provider) (updates : List (String × Option String)) :
    Outcome σ Unit :=
  match updateAll p.config updates (w.withdraw ask p) with
  | ⟨.error e, w⟩ => ⟨.error e, w⟩
  | ⟨.ok (), w⟩ => w.publish ask p

def rollBack (w : World σ) (p : Provider) (old : List (String × Option String)) :
    Outcome σ Unit :=
  match (restore p.config old w).publish ask p with
  | ⟨.error e, w⟩ => ⟨.error e, w.report p.config (.rollbackFailed e)⟩
  | ⟨.ok (), w⟩ => ⟨.ok (), w⟩

/-- What a provider does when it hears of updates. -/
def reconfigure (w : World σ) (p : Provider) (updates : List (String × Option String)) :
    Outcome σ Unit :=
  let c := p.config
  match w.staleValues c updates with
  -- One key that is not accepted voids the whole change, before anything is withdrawn.
  | .error e => ⟨.ok (), w.report c (.comparisonFailed e)⟩
  | .ok [] => ⟨.ok (), w⟩
  | .ok old =>
    match (w.report c .republishing).republish ask p updates with
    | ⟨.ok (), w⟩ => ⟨.ok (), w⟩
    | ⟨.error e, w⟩ => (w.report c (.updateFailed e)).rollBack ask p old

/-- Tells the listener of a configuration of a change. Without a listener nobody hears of it, and a
listener whose provider is gone does nothing. -/
def notify (w : World σ) (c : ProviderConfig) (change : Change) : Outcome σ Unit :=
  match (w.config c).listener, change with
  | none, _ => ⟨.ok (), w⟩
  | some (.republish _), .replaced _ => ⟨.ok (), w⟩
  | some (.republish p), .updated values =>
    if w.isAlive p then w.reconfigure ask p values.toList else ⟨.ok (), w⟩
  | some (.recorder _), .replaced values => ⟨.ok (), w.record (.heard (.replaced values))⟩
  | some (.recorder none), .updated values => ⟨.ok (), w.record (.heard (.updated values))⟩
  | some (.recorder (some e)), .updated values =>
    ⟨.error e, w.record (.heard (.updated values))⟩

end ServicePublisher.World
