import ServicePublisher.World

/-! Names by which an observer tells the instances of servers and registries apart. The first
instance with an id is called by the id, further ones by the id and their number. -/
namespace ServicePublisher.Simulation

structure Roster (α : Type) where
  /-- Each instance with its id and its name. -/
  entries : List (α × String × String) := []

namespace Roster

variable {α : Type}

def enter (r : Roster α) (x : α) (id : String) : Roster α :=
  let n := r.entries.countP (·.2.1 == id) + 1
  ⟨r.entries ++ [(x, id, if n = 1 then id else id ++ "#" ++ toString n)]⟩

def name? [BEq α] (r : Roster α) (x : α) : Option String :=
  (r.entries.find? (·.1 == x)).map (·.2.2)

def find? (r : Roster α) (name : String) : Option α :=
  (r.entries.find? (·.2.2 == name)).map (·.1)

end Roster

/-- The names of all instances: servers by serial number, registries by group and identity. -/
structure Names where
  servers : Roster Nat := {}
  registries : Roster (Nat × String) := {}

namespace Names

/-- The names after an event; an accepted creation makes a new instance. -/
def observe (n : Names) : Event → Names
  | .call (.server s .create) none => { n with servers := n.servers.enter s.serial s.id }
  | .call (.registry g r .create) none =>
    { n with registries := n.registries.enter (g, r.identity) r.id }
  | _ => n

def instance? (n : Names) : Call → Option String
  | .server s _ => n.servers.name? s.serial
  | .registry g r _ => n.registries.name? (g, r.identity)

end Names

end ServicePublisher.Simulation
