import ServicePublisher.World

/-! Walks over collaborators. On the way out, a fault of one collaborator is reported and the walk
goes on, while a framework error ends it; on the way back, nothing ends the walk. -/
namespace ServicePublisher

variable {σ α : Type}

/-- What a walk leaves behind: who accepted the provider, how many were served without any failure,
and how it ended. -/
structure Walk (σ α : Type) where
  accepted : List α
  served : Nat
  outcome : Outcome σ Unit

structure Stop (σ : Type) where
  accepted : Bool
  outcome : Outcome σ Unit

def Walk.after (walk : Walk σ α) (here : List α) (served : Nat) : Walk σ α :=
  ⟨here ++ walk.accepted, served + walk.served, walk.outcome⟩

/-- Visits all in order. Faults are reported, the first framework error ends the walk. -/
def visitAll (visit : α → World σ → Stop σ) (report : World σ → α → ProviderError → World σ) :
    List α → World σ → Walk σ α
  | [], w => ⟨[], 0, ⟨.ok (), w⟩⟩
  | x :: xs, w =>
    let stop := visit x w
    let here := if stop.accepted then [x] else []
    match stop.outcome with
    | ⟨.ok (), w⟩ => (visitAll visit report xs w).after here 1
    | ⟨.error e, w⟩ =>
      if e.isFramework then ⟨here, 0, ⟨.error e, w⟩⟩
      else (visitAll visit report xs (report w x e)).after here 0

/-- Visits all in order and reports every error. -/
def sweep (visit : α → World σ → Outcome σ Unit)
    (report : World σ → α → ProviderError → World σ) : List α → World σ → World σ
  | [], w => w
  | x :: xs, w =>
    match visit x w with
    | ⟨.ok (), w⟩ => sweep visit report xs w
    | ⟨.error e, w⟩ => sweep visit report xs (report w x e)

end ServicePublisher
