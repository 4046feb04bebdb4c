import ServicePublisher.Lifecycle

/-! Shutdown of a group of services: all its published providers are withdrawn. -/
namespace ServicePublisher.World

variable {σ : Type} (ask : Ask σ)

/-- The published providers of a group in the order of their creation. -/
def publishedIn (w : World σ) (group : Nat) : List Provider :=
  (w.services group).published.toList.map (·.2)

/-- Withdraws the published providers of a group in the order of their creation, and tells their
number. -/
def shutDown (w : World σ) (group : Nat) : Nat × World σ :=
  let providers := w.publishedIn group
  let w := providers.foldl (fun w p => w.withdraw ask p) w
  (providers.length, w.log (.shutDown providers.length))

end ServicePublisher.World
