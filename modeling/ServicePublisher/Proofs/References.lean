import Mathlib.Data.List.Forall2
import Mathlib.Data.List.Induction
import ServicePublisher.Manifest.Assembly

/-! References in a manifest. An id stands for its first declaration, and a protocol for the factory
registered last; a manifest is assembled when all references can be resolved so, and otherwise the
first that cannot be is named. -/
namespace ServicePublisher

inductive Role where
  | server
  | registry
deriving DecidableEq, Repr

/-- A factory registered in a role for a protocol. -/
structure Registration where
  role : Role
  protocol : String
  factory : Factory

namespace Role

def listField : Role → String
  | .server => "provider.servers"
  | .registry => "provider.registries"

def protocolField : Role → String
  | .server => "server.protocol"
  | .registry => "registry.protocol"

def unknownId : Role → String
  | .server => "unknown server id"
  | .registry => "unknown registry id"

def noFactory : Role → String
  | .server => "no server factory registered"
  | .registry => "no registry factory registered"

end Role

namespace Extensions

def table (x : Extensions) : Role → Std.ExtTreeMap String Factory
  | .server => x.servers
  | .registry => x.registries

def register (x : Extensions) (r : Registration) : Extensions :=
  match r.role with
  | .server => x.withServer r.protocol r.factory
  | .registry => x.withRegistry r.protocol r.factory

def ofRegistrations (rs : List Registration) : Extensions := rs.foldl register ∅

end Extensions

/-- The factory is the one registered last in a role for a protocol. -/
def LastFor (rs : List Registration) (role : Role) (protocol : String) (f : Factory) : Prop :=
  ∃ before after, rs = before ++ ⟨role, protocol, f⟩ :: after ∧
    ∀ r ∈ after, ¬(r.role = role ∧ r.protocol = protocol)

section Registering

open Extensions

variable {rs : List Registration} {role : Role} {protocol : String} {f : Factory}

theorem table_empty : (∅ : Extensions).table role = ∅ := by cases role <;> rfl

theorem getElem?_register (x : Extensions) (r : Registration) :
    ((x.register r).table role)[protocol]? =
      if r.role = role ∧ r.protocol = protocol then some r.factory
      else (x.table role)[protocol]? := by
  obtain ⟨role', protocol', f⟩ := r
  cases role' <;> cases role <;>
    simp [register, table, withServer, withRegistry, Std.ExtTreeMap.getElem?_insert]

theorem lastFor_append (r : Registration) : LastFor (rs ++ [r]) role protocol f ↔
    if r.role = role ∧ r.protocol = protocol then r.factory = f
    else LastFor rs role protocol f := by
  constructor
  · rintro ⟨before, after, hrs, hafter⟩
    obtain rfl | ⟨init, last, rfl⟩ := List.eq_nil_or_concat after
    · obtain ⟨-, hr⟩ := List.append_inj' hrs rfl
      obtain rfl := List.singleton_inj.1 hr
      simp
    · rw [List.concat_eq_append, ← List.cons_append, ← List.append_assoc] at hrs
      obtain ⟨hinit, hr⟩ := List.append_inj' hrs rfl
      obtain rfl := List.singleton_inj.1 hr
      rw [if_neg (hafter r (by simp))]
      exact ⟨before, init, hinit, fun r' hr' => hafter r' (by simp [hr'])⟩
  · split
    · rintro rfl
      next hr =>
        obtain ⟨rfl, rfl⟩ := hr
        exact ⟨rs, [], rfl, by simp⟩
    · next hr =>
      rintro ⟨before, after, rfl, hafter⟩
      refine ⟨before, after ++ [r], by simp, fun r' hr' => ?_⟩
      obtain hr' | hr' := List.mem_append.1 hr'
      · exact hafter r' hr'
      · rwa [List.mem_singleton.1 hr']

theorem getElem?_ofRegistrations :
    ((ofRegistrations rs).table role)[protocol]? = some f ↔ LastFor rs role protocol f := by
  induction rs using List.reverseRecOn with
  | nil => simp [ofRegistrations, table_empty, LastFor]
  | append_singleton rs r ih =>
    rw [ofRegistrations, List.foldl_append, List.foldl_cons, List.foldl_nil, ← ofRegistrations,
      getElem?_register, lastFor_append]
    split
    · exact Option.some_inj
    · exact ih

theorem getElem?_ofRegistrations_eq_none_iff :
    ((ofRegistrations rs).table role)[protocol]? = none ↔
      ∀ r ∈ rs, ¬(r.role = role ∧ r.protocol = protocol) := by
  induction rs using List.reverseRecOn with
  | nil => simp [ofRegistrations, table_empty]
  | append_singleton rs r ih =>
    rw [ofRegistrations, List.foldl_append, List.foldl_cons, List.foldl_nil, ← ofRegistrations,
      getElem?_register]
    split
    · next hr => simp [hr]
    · next hr => rw [ih, List.forall_mem_append, List.forall_mem_singleton, and_iff_left hr]

end Registering

structure Catalogue (α : Type) where
  role : Role
  declared : List α
  id : α → String
  protocol : α → String

namespace Catalogue

variable {α : Type} (C : Catalogue α) (rs : List Registration)

/-- The declaration is the first with the id. -/
structure Declares (id : String) (a : α) : Prop where
  named : C.id a = id
  first : ∃ before after, C.declared = before ++ a :: after ∧ ∀ b ∈ before, C.id b ≠ id

/-- The declaration is the first with the id, and the factory is the one for its protocol. -/
structure Finds (id : String) (a : α) (f : Factory) : Prop where
  declared : C.Declares id a
  served : LastFor rs C.role (C.protocol a) f

/-- Why a reference is refused: nothing is declared under the id, or there is no factory for the
protocol of the first declaration. -/
inductive Refuses (id : String) : ProviderError → Prop
  | unknown (h : ∀ a ∈ C.declared, C.id a ≠ id) :
      Refuses id (.configuration C.role.listField id C.role.unknownId)
  | unserved {a : α} (hdeclared : C.Declares id a)
      (h : ∀ r ∈ rs, ¬(r.role = C.role ∧ r.protocol = C.protocol a)) :
      Refuses id (.configuration C.role.protocolField (C.protocol a) C.role.noFactory)

/-- The error is that of the first reference in a list that is refused. -/
def RefusesFirst (ids : List String) (e : ProviderError) : Prop :=
  ∃ before id after, ids = before ++ id :: after ∧ (∀ i ∈ before, ∃ a f, C.Finds rs i a f) ∧
    C.Refuses rs id e

/-- The first declaration with an id, and the factory of its protocol. -/
def resolve (x : Extensions) (id : String) : Except ProviderError (α × Factory) :=
  match C.declared.find? (C.id · = id) with
  | none => .error (.configuration C.role.listField id C.role.unknownId)
  | some a =>
    match (x.table C.role)[C.protocol a]? with
    | some f => .ok (a, f)
    | none => .error (.configuration C.role.protocolField (C.protocol a) C.role.noFactory)

variable {C rs} {id : String}

theorem find?_eq_some_iff {a : α} : C.declared.find? (C.id · = id) = some a ↔ C.Declares id a := by
  rw [List.find?_eq_some_iff_append]
  constructor
  · rintro ⟨hnamed, before, after, hdeclared, hbefore⟩
    exact ⟨of_decide_eq_true hnamed, before, after, hdeclared, by simpa using hbefore⟩
  · rintro ⟨hnamed, before, after, hdeclared, hbefore⟩
    exact ⟨decide_eq_true hnamed, before, after, hdeclared, by simpa using hbefore⟩

theorem find?_eq_none_iff :
    C.declared.find? (C.id · = id) = none ↔ ∀ a ∈ C.declared, C.id a ≠ id := by
  simp [List.find?_eq_none]

theorem resolve_eq_ok_iff {r : α × Factory} :
    C.resolve (.ofRegistrations rs) id = .ok r ↔ C.Finds rs id r.1 r.2 := by
  rw [resolve]
  constructor
  · intro h
    split at h
    · cases h
    · next a hfound =>
      split at h
      · next f hserved =>
        cases h
        exact ⟨find?_eq_some_iff.1 hfound, getElem?_ofRegistrations.1 hserved⟩
      · cases h
  · rintro ⟨hdeclared, hserved⟩
    simp only [find?_eq_some_iff.2 hdeclared, getElem?_ofRegistrations.2 hserved]

theorem resolve_eq_error_iff {e : ProviderError} :
    C.resolve (.ofRegistrations rs) id = .error e ↔ C.Refuses rs id e := by
  rw [resolve]
  constructor
  · intro h
    split at h
    · next hnone =>
      cases h
      exact .unknown (find?_eq_none_iff.1 hnone)
    · next a hfound =>
      split at h
      · cases h
      · next hunserved =>
        cases h
        exact .unserved (find?_eq_some_iff.1 hfound)
          (getElem?_ofRegistrations_eq_none_iff.1 hunserved)
  · intro h
    cases h with
    | unknown h => simp only [find?_eq_none_iff.2 h]
    | unserved hdeclared h =>
      simp only [find?_eq_some_iff.2 hdeclared, getElem?_ofRegistrations_eq_none_iff.2 h]

end Catalogue

section Walks

variable {α β ε : Type} {f : α → Except ε β} {xs : List α} {ys : List β} {e : ε}

theorem mapM_eq_ok_iff : xs.mapM f = .ok ys ↔ List.Forall₂ (fun x y => f x = .ok y) xs ys := by
  induction xs generalizing ys with
  | nil => cases ys <;> simp [pure, Except.pure]
  | cons x xs ih =>
    rw [List.mapM_cons]
    constructor
    · intro h
      cases hx : f x with
      | error e => simp [hx, bind, Except.bind] at h
      | ok y =>
        cases hxs : xs.mapM f with
        | error e => simp [hx, hxs, bind, Except.bind] at h
        | ok zs =>
          simp only [hx, hxs, bind, Except.bind, pure, Except.pure] at h
          cases h
          exact .cons hx (ih.1 hxs)
    · intro h
      cases h with
      | cons hx hxs => simp [hx, ih.2 hxs, bind, Except.bind, pure, Except.pure]

/-- A walk fails with what its first failing step fails with. -/
theorem mapM_eq_error_iff : xs.mapM f = .error e ↔ ∃ before x after, xs = before ++ x :: after ∧
    (∀ y ∈ before, ∃ z, f y = .ok z) ∧ f x = .error e := by
  induction xs with
  | nil => simp [pure, Except.pure]
  | cons x xs ih =>
    rw [List.mapM_cons]
    cases hx : f x with
    | error e' =>
      simp only [bind, Except.bind, Except.error.injEq]
      constructor
      · rintro rfl
        exact ⟨[], x, xs, rfl, nofun, hx⟩
      · rintro ⟨_ | ⟨y, before⟩, z, after, hxs, hbefore, hz⟩
        · cases hxs
          exact Except.error.inj (hx.symm.trans hz)
        · cases hxs
          obtain ⟨z', hz'⟩ := hbefore x List.mem_cons_self
          cases hx.symm.trans hz'
    | ok y =>
      have hrest : xs.mapM f = .error e ↔
          ((Except.ok y : Except ε β) >>= fun z => xs.mapM f >>= fun zs => pure (z :: zs)) =
            .error e := by
        cases xs.mapM f <;> simp [bind, Except.bind, pure, Except.pure]
      rw [← hrest, ih]
      constructor
      · rintro ⟨before, z, after, rfl, hbefore, hz⟩
        exact ⟨x :: before, z, after, rfl, List.forall_mem_cons.2 ⟨⟨y, hx⟩, hbefore⟩, hz⟩
      · rintro ⟨_ | ⟨z, before⟩, z', after, hxs, hbefore, hz⟩
        · cases hxs
          cases hx.symm.trans hz
        · cases hxs
          exact ⟨before, z', after, rfl, (List.forall_mem_cons.1 hbefore).2, hz⟩

theorem exists_mapM_eq_ok_iff : (∃ ys, xs.mapM f = .ok ys) ↔ ∀ x ∈ xs, ∃ y, f x = .ok y := by
  simp only [mapM_eq_ok_iff]
  induction xs with
  | nil => simp
  | cons x xs ih =>
    rw [List.forall_mem_cons, ← ih]
    constructor
    · rintro ⟨_, hall⟩
      cases hall with
      | cons hx hxs => exact ⟨⟨_, hx⟩, _, hxs⟩
    · rintro ⟨⟨y, hx⟩, ys, hxs⟩
      exact ⟨y :: ys, .cons hx hxs⟩

theorem mapM_map_result {γ : Type} (g : β → γ) :
    (xs.mapM fun x => (f x).map g) = (xs.mapM f).map (List.map g) := by
  induction xs with
  | nil => rfl
  | cons x xs ih =>
    rw [List.mapM_cons, List.mapM_cons, ih]
    cases f x with
    | error e => rfl
    | ok y => cases xs.mapM f <;> rfl

end Walks

namespace Catalogue

variable {α : Type} {C : Catalogue α} {rs : List Registration} {ids : List String}

theorem mapM_resolve_eq_ok_iff {found : List (α × Factory)} :
    ids.mapM (C.resolve (.ofRegistrations rs)) = .ok found ↔
      List.Forall₂ (fun id r => C.Finds rs id r.1 r.2) ids found := by
  simp only [mapM_eq_ok_iff, resolve_eq_ok_iff]

theorem exists_resolve_eq_ok_iff {id : String} :
    (∃ r, C.resolve (.ofRegistrations rs) id = .ok r) ↔ ∃ a f, C.Finds rs id a f := by
  simp only [resolve_eq_ok_iff, Prod.exists]

theorem exists_mapM_resolve_eq_ok_iff :
    (∃ found, ids.mapM (C.resolve (.ofRegistrations rs)) = .ok found) ↔
      ∀ id ∈ ids, ∃ a f, C.Finds rs id a f := by
  simp only [exists_mapM_eq_ok_iff, exists_resolve_eq_ok_iff]

theorem mapM_resolve_eq_error_iff {e : ProviderError} :
    ids.mapM (C.resolve (.ofRegistrations rs)) = .error e ↔ C.RefusesFirst rs ids e := by
  simp only [mapM_eq_error_iff, resolve_eq_error_iff, exists_resolve_eq_ok_iff, RefusesFirst]

end Catalogue

namespace Manifest

variable {m : Manifest} {i : Interface} {x : Implementation} {rs : List Registration}
  {serial serverSerial : Nat} {id : String} {e : ProviderError}

def serverCatalogue (m : Manifest) : Catalogue ServerSettings :=
  ⟨.server, m.servers, ServerSettings.id, ServerSettings.protocol⟩

def registryCatalogue (m : Manifest) : Catalogue RegistrySettings :=
  ⟨.registry, m.registries, RegistrySettings.id, RegistrySettings.protocol⟩

/-- The configuration is the one that the manifest describes. Its servers and registries are those
that the references stand for, in their order, and its servers are numbered in that order. -/
structure Describes (m : Manifest) (i : Interface) (x : Implementation) (rs : List Registration)
    (serial serverSerial : Nat) (c : ProviderConfig) : Prop where
  serial : c.serial = serial
  interface : c.interface = i
  implementation : c.implementation = some x
  key : c.key = ServiceKey.ofParts m.provider.interface m.provider.uniqueId
  id : c.id = m.provider.id
  uniqueId : c.uniqueId = m.provider.uniqueId
  appName : c.appName = m.provider.appName.getD ""
  included : c.included = m.provider.included
  excluded : c.excluded = m.provider.excluded
  delayMs : c.delayMs = m.provider.delayMs.toNat
  repeatLimit : c.repeatLimit = m.provider.repeatLimit
  register : c.register = m.provider.register
  attributes : c.attributes = m.provider.attributes
  servers : List.Forall₂ (fun id s => m.serverCatalogue.Finds rs id s.settings s.factory)
    m.provider.servers c.servers
  registries : List.Forall₂ (fun id r => m.registryCatalogue.Finds rs id r.settings r.factory)
    m.provider.registries c.registries
  numbers : c.servers.map ServerConfig.serial =
    List.range' serverSerial m.provider.servers.length

/-- Why a manifest is not assembled: it is about another interface, or a reference is refused;
servers come before registries. -/
inductive Blames (m : Manifest) (i : Interface) (rs : List Registration) : ProviderError → Prop
  | interface (h : m.provider.interface ≠ i.id) :
      Blames m i rs (.configuration "interface" m.provider.interface
        s!"manifest does not describe interface {i.id}")
  | server {e : ProviderError} (hinterface : m.provider.interface = i.id)
      (h : m.serverCatalogue.RefusesFirst rs m.provider.servers e) : Blames m i rs e
  | registry {e : ProviderError} (hinterface : m.provider.interface = i.id)
      (hservers : ∀ id ∈ m.provider.servers, ∃ s f, m.serverCatalogue.Finds rs id s f)
      (h : m.registryCatalogue.RefusesFirst rs m.provider.registries e) : Blames m i rs e

theorem server_eq_resolve (e : Extensions) (id : String) :
    m.server e id = m.serverCatalogue.resolve e id := by
  rw [server, Catalogue.resolve, serverCatalogue, Extensions.table]
  dsimp only
  cases m.servers.find? (·.id = id) with
  | none => rfl
  | some s =>
    dsimp only
    rw [Extensions.serverFactory]
    cases e.servers[s.protocol]? <;> rfl

theorem registry_eq_resolve (e : Extensions) (id : String) :
    m.registry e id = (m.registryCatalogue.resolve e id).map fun r => ⟨r.1, r.2⟩ := by
  rw [registry, Catalogue.resolve, registryCatalogue, Extensions.table]
  dsimp only
  cases m.registries.find? (·.id = id) with
  | none => rfl
  | some r =>
    dsimp only
    rw [Extensions.registryFactory]
    cases e.registries[r.protocol]? <;> rfl

def configured (m : Manifest) (i : Interface) (x : Implementation) (serial : Nat)
    (servers : List ServerConfig) (registries : List RegistryConfig) : ProviderConfig where
  serial
  interface := i
  id := m.provider.id
  implementation := some x
  uniqueId := m.provider.uniqueId
  appName := m.provider.appName.getD ""
  servers
  registries
  included := m.provider.included
  excluded := m.provider.excluded
  delayMs := m.provider.delayMs.toNat
  repeatLimit := m.provider.repeatLimit
  register := m.provider.register
  attributes := m.provider.attributes

theorem assemble_eq (h : m.provider.interface = i.id) (e : Extensions) :
    m.assemble i x e serial serverSerial = do
      let servers ← m.provider.servers.mapM (m.serverCatalogue.resolve e)
      let registries ← m.provider.registries.mapM (m.registryCatalogue.resolve e)
      return m.configured i x serial (numbered serverSerial servers)
        (registries.map fun r => ⟨r.1, r.2⟩) := by
  have hservers : m.server e = m.serverCatalogue.resolve e := funext (server_eq_resolve e)
  have hregistries : m.registry e = fun id => (m.registryCatalogue.resolve e id).map
      fun r => ⟨r.1, r.2⟩ := funext (registry_eq_resolve e)
  rw [assemble, if_neg (not_not_intro h), hservers, hregistries, mapM_map_result]
  cases m.provider.servers.mapM (m.serverCatalogue.resolve e) with
  | error e' => rfl
  | ok servers => cases m.provider.registries.mapM (m.registryCatalogue.resolve e) <;> rfl

theorem numbered_spec {R : String → ServerSettings → Factory → Prop} {ids : List String}
    {servers : List (ServerSettings × Factory)} (n : Nat)
    (h : List.Forall₂ (fun id s => R id s.1 s.2) ids servers) :
    List.Forall₂ (fun id s => R id s.settings s.factory) ids (numbered n servers) ∧
      (numbered n servers).map ServerConfig.serial = List.range' n ids.length := by
  induction h generalizing n with
  | nil => exact ⟨.nil, rfl⟩
  | cons hfirst _ ih =>
    obtain ⟨hrest, hnumbers⟩ := ih (n + 1)
    exact ⟨.cons hfirst hrest, by rw [numbered, List.map_cons, hnumbers]; rfl⟩

theorem describes_configured (h : m.provider.interface = i.id)
    {servers : List (ServerSettings × Factory)} {registries : List (RegistrySettings × Factory)}
    (hservers : List.Forall₂ (fun id s => m.serverCatalogue.Finds rs id s.1 s.2)
      m.provider.servers servers)
    (hregistries : List.Forall₂ (fun id r => m.registryCatalogue.Finds rs id r.1 r.2)
      m.provider.registries registries) :
    m.Describes i x rs serial serverSerial (m.configured i x serial (numbered serverSerial servers)
      (registries.map fun r => ⟨r.1, r.2⟩)) := by
  obtain ⟨hfound, hnumbers⟩ := numbered_spec serverSerial hservers
  constructor <;> try rfl
  case key => rw [h]; rfl
  case servers => exact hfound
  case registries => exact List.forall₂_map_right_iff.2 hregistries
  case numbers => exact hnumbers

theorem assemble_eq_ok_iff {c : ProviderConfig} :
    m.assemble i x (.ofRegistrations rs) serial serverSerial = .ok c ↔
      m.provider.interface = i.id ∧
      ∃ (servers : List (ServerSettings × Factory))
        (registries : List (RegistrySettings × Factory)),
        List.Forall₂ (fun id s => m.serverCatalogue.Finds rs id s.1 s.2) m.provider.servers
          servers ∧
        List.Forall₂ (fun id r => m.registryCatalogue.Finds rs id r.1 r.2) m.provider.registries
          registries ∧
        m.configured i x serial (numbered serverSerial servers)
          (registries.map fun r => ⟨r.1, r.2⟩) = c := by
  simp only [← Catalogue.mapM_resolve_eq_ok_iff]
  by_cases h : m.provider.interface = i.id
  · rw [assemble_eq h]
    cases m.provider.servers.mapM (m.serverCatalogue.resolve (.ofRegistrations rs)) with
    | error e => simp [h, bind, Except.bind]
    | ok servers =>
      cases m.provider.registries.mapM (m.registryCatalogue.resolve (.ofRegistrations rs)) with
      | error e => simp [h, bind, Except.bind]
      | ok registries => simp [h, bind, Except.bind, pure, Except.pure]
  · rw [assemble, if_pos h]
    simp [h]

theorem assemble_eq_error_iff :
    m.assemble i x (.ofRegistrations rs) serial serverSerial = .error e ↔ m.Blames i rs e := by
  constructor
  · intro herror
    by_cases h : m.provider.interface = i.id
    · rw [assemble_eq h] at herror
      cases hservers : m.provider.servers.mapM
          (m.serverCatalogue.resolve (.ofRegistrations rs)) with
      | error e' =>
        rw [hservers] at herror
        cases herror
        exact .server h (Catalogue.mapM_resolve_eq_error_iff.1 hservers)
      | ok servers =>
        cases hregistries : m.provider.registries.mapM
            (m.registryCatalogue.resolve (.ofRegistrations rs)) with
        | error e' =>
          rw [hservers, hregistries] at herror
          cases herror
          exact .registry h (Catalogue.exists_mapM_resolve_eq_ok_iff.1 ⟨servers, hservers⟩)
            (Catalogue.mapM_resolve_eq_error_iff.1 hregistries)
        | ok registries =>
          rw [hservers, hregistries] at herror
          cases herror
    · rw [assemble, if_pos h] at herror
      cases herror
      exact .interface h
  · intro hblames
    cases hblames with
    | interface h => exact if_pos h
    | server hinterface h =>
      rw [assemble_eq hinterface, Catalogue.mapM_resolve_eq_error_iff.2 h]
      rfl
    | registry hinterface hservers h =>
      obtain ⟨servers, hservers⟩ := Catalogue.exists_mapM_resolve_eq_ok_iff.2 hservers
      rw [assemble_eq hinterface, hservers, Catalogue.mapM_resolve_eq_error_iff.2 h]
      rfl

end Manifest

/-- A manifest is assembled exactly if it is about the interface, every reference to a server or a
registry has a declaration, and the first such declaration has a protocol for which a factory was
registered. The configuration then has what the references stand for, one for each, and otherwise
what the manifest says; else the error is that of the first thing that is wrong. -/
theorem assembly_resolves_references (m : Manifest) (i : Interface) (x : Implementation)
    (rs : List Registration) (serial serverSerial : Nat) :
    let outcome := m.assemble i x (.ofRegistrations rs) serial serverSerial
    ((∃ c, outcome = .ok c) ↔ m.provider.interface = i.id ∧
      (∀ id ∈ m.provider.servers, ∃ s f, m.serverCatalogue.Finds rs id s f) ∧
      ∀ id ∈ m.provider.registries, ∃ r f, m.registryCatalogue.Finds rs id r f) ∧
    (∀ c, outcome = .ok c → m.Describes i x rs serial serverSerial c) ∧
    ∀ e, outcome = .error e ↔ m.Blames i rs e := by
  refine ⟨?_, fun c hc => ?_, fun e => Manifest.assemble_eq_error_iff⟩
  · simp only [Manifest.assemble_eq_ok_iff, ← Catalogue.exists_mapM_resolve_eq_ok_iff,
      Catalogue.mapM_resolve_eq_ok_iff]
    constructor
    · rintro ⟨c, h, servers, registries, hservers, hregistries, -⟩
      exact ⟨h, ⟨servers, hservers⟩, registries, hregistries⟩
    · rintro ⟨h, ⟨servers, hservers⟩, registries, hregistries⟩
      exact ⟨_, h, servers, registries, hservers, hregistries, rfl⟩
  · obtain ⟨h, servers, registries, hservers, hregistries, rfl⟩ := Manifest.assemble_eq_ok_iff.1 hc
    exact Manifest.describes_configured h hservers hregistries

/-- A server that is referred to twice is configured twice, one that is declared twice is the first,
and of two factories for one protocol the later one counts. -/
theorem assembly_resolves_repeated :
    let m : Manifest := {
      provider := {
        interface := "demo.Echo", servers := ["two", "one", "two"], registries := ["hub"] }
      servers := [{ id := "one" }, { id := "one", protocol := "mock" },
        { id := "two", protocol := "mock" }]
      registries := [⟨"hub", "mock", "here"⟩] }
    let i : Interface := ⟨"demo.Echo", "Echo", []⟩
    let rs : List Registration :=
      [⟨.server, "mock", ⟨"early"⟩⟩, ⟨.registry, "mock", ⟨"hubs"⟩⟩, ⟨.server, "bolt", ⟨"bolts"⟩⟩,
        ⟨.server, "mock", ⟨"late"⟩⟩]
    ∃ c, m.assemble i ⟨"Echo"⟩ (.ofRegistrations rs) 0 7 = .ok c ∧ m.Describes i ⟨"Echo"⟩ rs 0 7 c ∧
      c.servers = [⟨7, { id := "two", protocol := "mock" }, ⟨"late"⟩⟩,
        ⟨8, { id := "one" }, ⟨"bolts"⟩⟩, ⟨9, { id := "two", protocol := "mock" }, ⟨"late"⟩⟩] := by
  intro m i rs
  have hservers : (m.assemble i ⟨"Echo"⟩ (.ofRegistrations rs) 0 7).toOption.map (·.servers) =
      some [⟨7, { id := "two", protocol := "mock" }, ⟨"late"⟩⟩, ⟨8, { id := "one" }, ⟨"bolts"⟩⟩,
        ⟨9, { id := "two", protocol := "mock" }, ⟨"late"⟩⟩] := by decide +kernel
  obtain ⟨-, hdescribes, -⟩ := assembly_resolves_references m i ⟨"Echo"⟩ rs 0 7
  cases hc : m.assemble i ⟨"Echo"⟩ (.ofRegistrations rs) 0 7 with
  | error e => simp [hc, Except.toOption] at hservers
  | ok c => exact ⟨c, rfl, hdescribes c hc, by simpa [hc, Except.toOption] using hservers⟩

end ServicePublisher
