import ServicePublisher.Proofs.Conduct

/-! What has been created. A factory that accepts a call creates a server or a registry, and nothing
else does. -/
namespace ServicePublisher

open World

variable {σ : Type} {w w' : World σ}

def Call.isCreation : Call → Bool
  | .server _ .create | .registry _ _ .create => true
  | _ => false

def registryMade? (g : Nat) (identity : String) : Exchange → Option RegistryConfig
  | (.registry g' r .create, none) => if g' = g ∧ r.identity = identity then some r else none
  | _ => none

def serverMade? (serial : Nat) : Exchange → Option ServerConfig
  | (.server s .create, none) => if s.serial = serial then some s else none
  | _ => none

theorem registryMade?_eq_some {g : Nat} {identity : String} {x : Exchange} {r : RegistryConfig} :
    registryMade? g identity x = some r ↔
      x = (.registry g r .create, none) ∧ r.identity = identity := by
  constructor
  · intro h
    simp only [registryMade?] at h
    split at h
    · next g' r' =>
      split at h
      · next hplace =>
        cases h
        exact ⟨by rw [hplace.1], hplace.2⟩
      · cases h
    · cases h
  · rintro ⟨rfl, hidentity⟩
    exact if_pos ⟨rfl, hidentity⟩

theorem serverMade?_eq_some {serial : Nat} {x : Exchange} {s : ServerConfig} :
    serverMade? serial x = some s ↔ x = (.server s .create, none) ∧ s.serial = serial := by
  constructor
  · intro h
    simp only [serverMade?] at h
    split at h
    · split at h
      · next hserial =>
        cases h
        exact ⟨rfl, hserial⟩
      · cases h
    · cases h
  · rintro ⟨rfl, hserial⟩
    exact if_pos hserial

namespace World

/-- All calls of factories so far, whatever they came to. -/
def creations (w : World σ) : List Exchange := w.exchanges.filter fun x => x.1.isCreation

def registriesMade (w : World σ) (g : Nat) (identity : String) : List RegistryConfig :=
  w.exchanges.filterMap (registryMade? g identity)

def serversMade (w : World σ) (serial : Nat) : List ServerConfig :=
  w.exchanges.filterMap (serverMade? serial)

theorem Makes.creations {made : List Exchange} (h : Makes w w' made)
    (hnone : ∀ x ∈ made, x.1.isCreation = false) : w'.creations = w.creations := by
  have hlate : made.filter (fun x => x.1.isCreation) = [] :=
    List.filter_eq_nil_iff.2 fun x hx => by simp [hnone x hx]
  rw [World.creations, h, List.filter_append, hlate, List.append_nil, World.creations]

theorem creations_of_exchanges (h : w'.exchanges = w.exchanges) : w'.creations = w.creations := by
  rw [creations, h, creations]

theorem Makes.registriesMade {made : List Exchange} (h : Makes w w' made) (g : Nat)
    (identity : String) : w'.registriesMade g identity =
      w.registriesMade g identity ++ made.filterMap (registryMade? g identity) := by
  rw [World.registriesMade, h, List.filterMap_append, World.registriesMade]

theorem Makes.serversMade {made : List Exchange} (h : Makes w w' made) (serial : Nat) :
    w'.serversMade serial = w.serversMade serial ++ made.filterMap (serverMade? serial) := by
  rw [World.serversMade, h, List.filterMap_append, World.serversMade]

/-- After a call, a server exists if it did before or has been created. -/
theorem contains_perform (ask : Ask σ) (w : World σ) (c : Call) (serial : Nat) :
    (w.perform ask c).world.servers.contains serial =
      (w.servers.contains serial || (serverMade? serial (c, (ask c w.outside).1)).isSome) := by
  have hcourse := perform_course ask w c
  generalize w.perform ask c = outcome at hcourse
  cases hcourse with
  | refused hanswer =>
    rw [hanswer]
    cases c with
    | registry g r request => simp [serverMade?]
    | server s request => cases request <;> simp [serverMade?]
  | accepted hanswer =>
    rw [hanswer]
    cases c with
    | registry g r request =>
      cases request <;> simp [serverMade?, accept, modifyRegistry, World.modifyServices]
    | server s request =>
      cases request with
      | create =>
        by_cases hs : s.serial = serial <;>
          simp [serverMade?, accept, Std.ExtTreeMap.contains_insert, hs]
      | register view v => simp [serverMade?, accept, modifyServer, Std.ExtTreeMap.contains_modify]
      | start => simp [serverMade?, accept]
      | unregister view close =>
        simp [serverMade?, accept, modifyServer, Std.ExtTreeMap.contains_modify]

/-- After a call, a registry comes from where it did before, or has been created. -/
theorem origin?_made (ask : Ask σ) (w : World σ) (c : Call) (g : Nat) (identity : String) :
    (w.perform ask c).world.origin? g identity =
      (registryMade? g identity (c, (ask c w.outside).1)).or (w.origin? g identity) := by
  by_cases hc : ∃ g r, c = .registry g r .create
  · obtain ⟨g', r, rfl⟩ := hc
    have hcourse := perform_course ask w (.registry g' r .create)
    generalize w.perform ask (.registry g' r .create) = outcome at hcourse
    cases hcourse with
    | refused hanswer => rw [hanswer]; rfl
    | accepted hanswer =>
      rw [hanswer, registryMade?, origin?, accept, services_modifyServices]
      by_cases hg : g' = g
      · subst hg
        by_cases hr : r.identity = identity <;>
          simp [hr, origin?, Std.ExtTreeMap.getElem?_insert]
      · simp [hg, origin?]
  · have hnone : registryMade? g identity (c, (ask c w.outside).1) = none := by
      rw [Option.eq_none_iff_forall_ne_some]
      intro r hmade
      exact hc ⟨g, r, (Prod.mk.inj (registryMade?_eq_some.1 hmade).1).1⟩
    rw [hnone, Option.none_or]
    exact origin?_perform ask w c (fun g r heq => hc ⟨g, r, heq⟩) g identity

end World

end ServicePublisher
