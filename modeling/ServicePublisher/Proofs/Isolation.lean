import ServicePublisher.Proofs.Accepting
import ServicePublisher.Proofs.Creations
import ServicePublisher.Proofs.Replies
import ServicePublisher.Proofs.Verdicts

/-! Faults stay where they occur. Collaborators that fail, but neither with a framework error nor
when a registry is created, are passed over, so what the others are asked does not depend on
them. -/
namespace ServicePublisher

open World

variable {α τ : Type} {a b : AnswerPattern τ} {w w' : World (Place → τ)} {p : Provider}

section Tours

variable {script : α → List Call → Prop} {place : α → Place} {xs : List α}
  {visits : List (α × List Exchange)}

/-- All calls of a visit are received at one place. -/
def Addresses (script : α → List Call → Prop) (place : α → Place) : Prop :=
  ∀ x calls, script x calls → ∀ c ∈ calls, c.receiver = place x

/-- Who is not visited hears nothing. -/
theorem Tour.heard_elsewhere (h : Tour script xs visits) (haddressed : Addresses script place)
    {q : Place} (hq : ∀ x ∈ xs, place x ≠ q) : heardBy q (exchangesOf visits) = [] := by
  have hhere {x : α} {calls : List Call} {here : List Exchange} (hx : script x calls)
      (hturn : InTurn calls here) (hne : place x ≠ q) : heardBy q here = [] :=
    heardBy_eq_nil fun y hy => by rwa [haddressed x calls hx y.1 (hturn.mem hy)]
  induction h with
  | done => rfl
  | ended xs hx hturn he =>
    rw [exchangesOf, List.flatMap_singleton]
    exact hhere hx hturn (hq _ List.mem_cons_self)
  | next hx hturn he hrest ih =>
    rw [exchangesOf, List.flatMap_cons, heardBy_append, hhere hx hturn (hq _ List.mem_cons_self)]
    exact ih fun y hy => hq y (List.mem_cons_of_mem _ hy)

/-- When places differ and no framework error occurs, everybody hears the calls of one visit. -/
theorem Tour.heard (h : Tour script xs visits) (haddressed : Addresses script place)
    (hdistinct : (xs.map place).Nodup) (hcalm : firstFrameworkError (exchangesOf visits) = none) :
    (∀ x ∈ xs, ∃ calls, script x calls ∧
      InTurn calls (heardBy (place x) (exchangesOf visits))) ∧
    ∀ line : α → ProviderError → Blame, blamesOf line visits = xs.filterMap fun x =>
      (firstRefusal (heardBy (place x) (exchangesOf visits))).map (line x) := by
  induction h with
  | done => exact ⟨by simp, fun _ => rfl⟩
  | ended xs hx hturn he =>
    rw [exchangesOf, List.flatMap_singleton] at hcalm
    exact absurd hcalm he
  | @next x calls here xs visits hx hturn he hrest ih =>
    rw [List.map_cons, List.nodup_cons] at hdistinct
    rw [exchangesOf, List.flatMap_cons, firstFrameworkError_append, he, Option.none_or] at hcalm
    obtain ⟨hvisits, hblames⟩ := ih hdistinct.2 hcalm
    -- No later visit leads to the same place.
    have hother : ∀ y ∈ xs, place y ≠ place x := fun y hy hsame =>
      hdistinct.1 (hsame ▸ List.mem_map_of_mem hy)
    have hfirst : heardBy (place x) (exchangesOf ((x, here) :: visits)) = here := by
      have hself : heardBy (place x) here = here :=
        heardBy_eq_self fun y hy => haddressed x calls hx y.1 (hturn.mem hy)
      rw [exchangesOf, List.flatMap_cons, heardBy_append, hself]
      rw [← exchangesOf, hrest.heard_elsewhere haddressed hother, List.append_nil]
    have hlater : ∀ y ∈ xs, heardBy (place y) (exchangesOf ((x, here) :: visits)) =
        heardBy (place y) (exchangesOf visits) := by
      intro y hy
      have hnone : heardBy (place y) here = [] := heardBy_eq_nil fun z hz => by
        rw [haddressed x calls hx z.1 (hturn.mem hz)]
        exact (hother y hy).symm
      rw [exchangesOf, List.flatMap_cons, heardBy_append, hnone]
      rfl
    refine ⟨fun y hy => ?_, fun line => ?_⟩
    · obtain rfl | hy := List.mem_cons.1 hy
      · exact ⟨calls, hx, hfirst.symm ▸ hturn⟩
      · rw [hlater y hy]
        exact hvisits y hy
    · have hrest : blamesOf line visits = xs.filterMap fun y =>
          (firstRefusal (heardBy (place y) (exchangesOf ((x, here) :: visits)))).map (line y) :=
        (hblames line).trans (List.filterMap_congr fun y hy => by rw [hlater y hy])
      rw [List.filterMap_cons, hfirst, ← hrest, blamesOf, List.filterMap_cons, hturn.fault he]
      rfl

end Tours

section Phases

variable {c : ProviderConfig} {v : Invoker} {g : Nat}

/-- What a server is asked for a provider if nobody else has to do with that server. -/
def World.bindingOf (w : World (Place → τ)) (c : ProviderConfig) (v : Invoker) (s : ServerConfig) :
    List Call :=
  w.creating s ++ s.bindingCalls (w.view c) v

theorem addresses_filing (w : World (Place → τ)) (g : Nat) :
    Addresses (fun r calls => calls = w.filing g r) fun r => .registry g r.identity := by
  intro r calls hcalls c hc
  rw [hcalls, filing] at hc
  split at hc
  · cases hc
  · rw [List.mem_singleton.1 hc]
    rfl

theorem addresses_bindingOf (w : World (Place → τ)) (c : ProviderConfig) (v : Invoker) :
    Addresses (fun s calls => calls = w.bindingOf c v s) fun s => .server s.serial := by
  intro s calls hcalls call hcall
  rw [hcalls, bindingOf, creating, ServerConfig.bindingCalls] at hcall
  obtain hcall | hcall := List.mem_append.1 hcall
  · split at hcall
    · cases hcall
    · rw [List.mem_singleton.1 hcall]
      rfl
  · obtain rfl | hcall := List.mem_cons.1 hcall
    · rfl
    · split at hcall
      · rw [List.mem_singleton.1 hcall]
        rfl
      · cases hcall

/-- Registries can be created, so all that are missing are created, one after another. -/
theorem prime_tours (hmild : a.Mild) {w₀ w : World (Place → τ)} {registries : List RegistryConfig}
    (hdistinct : (registries.map RegistryConfig.identity).Nodup)
    (hsame : ∀ r ∈ registries, w.filing g r = w₀.filing g r) :
    (prime a.ask g registries w).result = .ok () ∧
      ∃ visits, Tour (fun r calls => calls = w₀.filing g r) registries visits ∧
        Makes w (prime a.ask g registries w).world (exchangesOf visits) ∧
        (prime a.ask g registries w).world.blames = w.blames ∧
        ∀ x ∈ exchangesOf visits, x.2 = none := by
  induction registries generalizing w with
  | nil => exact ⟨rfl, [], .done, .refl w, rfl, by simp [exchangesOf]⟩
  | cons r rs ih =>
    rw [List.map_cons, List.nodup_cons] at hdistinct
    obtain ⟨made, hturn, hmade, hblames, herror⟩ := conducts_registryFor a.ask w g r
    have hanswered : Answered a w (registryFor a.ask g r w).world :=
      registryFor_keeps (P := Answered a w) (fun w' h => h.trans (answered_perform a w' _))
        (fun _ _ _ h => h.log _) (.refl w)
    have hcreated : firstRefusal made = none := by
      refine hmild.firstRefusal hanswered hmade fun x hx => ⟨g, r, ?_⟩
      have hcall := hturn.mem hx
      rw [filing] at hcall
      split at hcall
      · cases hcall
      · exact List.mem_singleton.1 hcall
    have hlooked := @origin?_registryFor (Place → τ) a.ask w g r
    rw [prime]
    generalize registryFor a.ask g r w = found at hmade hblames herror hlooked ⊢
    obtain ⟨result, w₁⟩ := found
    cases result with
    | error e =>
      rw [hcreated] at herror
      cases herror
    | ok x =>
      have hrest : ∀ r' ∈ rs, w₁.filing g r' = w₀.filing g r' := by
        intro r' hr'
        have hother : r'.identity ≠ r.identity := fun hsame =>
          hdistinct.1 (hsame ▸ List.mem_map_of_mem hr')
        rw [← hsame r' (List.mem_cons_of_mem r hr'), filing, filing, contains_eq_isSome_origin?,
          contains_eq_isSome_origin?, (hlooked rfl).2, if_neg hother]
      obtain ⟨hok, visits, htour, hlater, hquiet, haccepted⟩ := ih hdistinct.2 hrest
      have hcalm : firstFrameworkError made = none := by
        rw [hturn.firstFrameworkError, hcreated]
        rfl
      refine ⟨hok, (r, made) :: visits, .next (hsame r List.mem_cons_self) hturn hcalm htour,
        hmade.trans hlater, hquiet.trans hblames, fun y hy => ?_⟩
      rw [exchangesOf, List.flatMap_cons] at hy
      obtain hy | hy := List.mem_append.1 hy
      · exact List.findSome?_eq_none_iff.1 hcreated y hy
      · exact haccepted y hy

theorem contains_perform_server (ask : Ask (Place → τ)) (w : World (Place → τ)) (s : ServerConfig)
    (request : ServerRequest) {n : Nat} (hn : s.serial ≠ n) :
    (w.perform ask (.server s request)).world.servers.contains n = w.servers.contains n := by
  have hother :
      serverMade? n (.server s request, (ask (.server s request) w.outside).1) = none := by
    rw [Option.eq_none_iff_forall_ne_some]
    intro s' hmade
    obtain ⟨hcall, hserial⟩ := serverMade?_eq_some.1 hmade
    cases (Prod.mk.inj hcall).1
    exact hn hserial
  rw [contains_perform, hother, Option.isSome_none, Bool.or_false]

/-- Servers that differ are asked each for itself. -/
theorem bindServers_tours_distinct (ask : Ask (Place → τ)) {w₀ w : World (Place → τ)}
    (hdistinct : (c.servers.map ServerConfig.serial).Nodup)
    (hservers : ∀ s, w.creating s = w₀.creating s) (hview : w.view c = w₀.view c) :
    ∃ visits, (w.bindServers ask c v).Tours (fun s calls => calls = w₀.bindingOf c v s)
      (bindingBlame c) c.servers w visits := by
  refine visitAll_tours (P := fun servers w' => (servers.map ServerConfig.serial).Nodup ∧
    (∀ s ∈ servers, w'.creating s = w₀.creating s) ∧ w'.view c = w₀.view c) ?visit ?report
    ⟨hdistinct, fun s _ => hservers s, hview⟩
  case report =>
    intro _ w' s e hw'
    exact ⟨hw', exchanges_log w' _, blames_bindingFailed w' c s e⟩
  intro s servers w' hw'
  obtain ⟨hdistinct', hservers', hview'⟩ := hw'
  rw [List.map_cons, List.nodup_cons] at hdistinct'
  refine ⟨⟨hdistinct'.2, fun s' hs' => ?_, (view_bindServer ask w' c v s).trans hview'⟩, _, rfl, ?_⟩
  · have hother : s.serial ≠ s'.serial := fun hsame =>
      hdistinct'.1 (hsame ▸ List.mem_map_of_mem hs')
    have hkept : (bindServer ask c v s w').outcome.world.servers.contains s'.serial =
        w'.servers.contains s'.serial :=
      bindServer_keeps (P := fun w'' => w''.servers.contains s'.serial =
        w'.servers.contains s'.serial)
        (fun w'' request _ h => (contains_perform_server ask w'' s request hother).trans h) rfl
    rw [← hservers' s' (List.mem_cons_of_mem s hs'), creating, creating, hkept]
  · rw [bindingOf, ← hservers' s List.mem_cons_self, ← hview']
    exact conducts_bindServer ask w' c v s

/-- As registries are filed under their identities, the one addressed has the identity asked for. -/
theorem addresses_announcing (hfiled : Filed w) (p : Provider) :
    Addresses (AnnouncingScript w p) fun r => .registry p.group r.identity := by
  intro r calls hcalls call hcall
  have hidentity : (w.registryOf p r).identity = r.identity := by
    rw [registryOf]
    cases horigin : w.origin? p.group r.identity with
    | some x =>
      obtain ⟨y, hy, rfl⟩ := Option.map_eq_some_iff.1 horigin
      exact hfiled p.group r.identity y hy
    | none =>
      cases hfound : p.config.announcedIn.find? fun x => x.identity == r.identity with
      | some x => simpa using List.find?_some hfound
      | none => rfl
  rw [hcalls, RegistryConfig.announcingCalls] at hcall
  simp only [List.mem_cons, List.not_mem_nil, or_false] at hcall
  dsimp only
  rw [← hidentity]
  obtain rfl | rfl | rfl := hcall <;> rfl

end Phases

section Attempts

/-- What each collaborator hears of a publication in which nothing but faults occurs. -/
structure Isolated (w : World (Place → τ)) (p : Provider) (made : List Exchange) : Prop where
  servers : ∀ s ∈ p.config.servers, InTurn (w.bindingOf p.config (w.nextInvoker p) s)
    (heardBy (.server s.serial) made)
  registries : ∀ r ∈ p.config.announcedIn, InTurn (w.filing p.group r ++
    (w.registryOf p r).announcingCalls p.group (w.view p.config))
      (heardBy (.registry p.group r.identity) made)
  elsewhere : ∀ x : Place, ¬x.UsedBy p → heardBy x made = []

/-- The lines about the faults of a publication: one for each server or registry that refused. -/
def faultBlames (p : Provider) (made : List Exchange) : List Blame :=
  p.config.servers.filterMap (fun s =>
    (firstRefusal (heardBy (.server s.serial) made)).map (bindingBlame p.config s)) ++
  p.config.announcedIn.filterMap fun r =>
    (firstRefusal (heardBy (.registry p.group r.identity) made)).map (announcingBlame p.config r)

def exchangesOfAll (created : List (RegistryConfig × List Exchange))
    (bound : List (ServerConfig × List Exchange))
    (announced : List (RegistryConfig × List Exchange)) : List Exchange :=
  exchangesOf created ++ exchangesOf bound ++ exchangesOf announced

/-- The three tours of an attempt in which nothing but faults occurs. -/
structure CalmTours (w : World (Place → τ)) (p : Provider)
    (created : List (RegistryConfig × List Exchange)) (bound : List (ServerConfig × List Exchange))
    (announced : List (RegistryConfig × List Exchange)) : Prop where
  filed : Filed w
  servers : (p.config.servers.map ServerConfig.serial).Nodup
  registries : (p.config.announcedIn.map RegistryConfig.identity).Nodup
  filing : Tour (fun r calls => calls = w.filing p.group r) p.config.announcedIn created
  accepted : ∀ x ∈ exchangesOf created, x.2 = none
  binding : Tour (fun s calls => calls = w.bindingOf p.config (w.nextInvoker p) s) p.config.servers
    bound
  bindable : firstFrameworkError (exchangesOf bound) = none
  announcing : Tour (AnnouncingScript w p) p.config.announcedIn announced
  announceable : firstFrameworkError (exchangesOf announced) = none

namespace CalmTours

variable {created announced : List (RegistryConfig × List Exchange)}
  {bound : List (ServerConfig × List Exchange)} (h : CalmTours w p created bound announced)
include h

/-- Servers are only called while they are bound. -/
theorem heard_server (n : Nat) :
    heardBy (.server n) (exchangesOfAll created bound announced) =
      heardBy (.server n) (exchangesOf bound) := by
  have hother (r : RegistryConfig) : Place.registry p.group r.identity ≠ .server n := nofun
  have hcreated := h.filing.heard_elsewhere (addresses_filing w p.group) fun r _ => hother r
  have hannounced :=
    h.announcing.heard_elsewhere (addresses_announcing h.filed p) fun r _ => hother r
  rw [exchangesOfAll, heardBy_append, heardBy_append, hcreated, hannounced, List.append_nil,
    List.nil_append]

/-- Registries are only called before and after that. -/
theorem heard_registry (g : Nat) (identity : String) :
    heardBy (.registry g identity) (exchangesOfAll created bound announced) =
      heardBy (.registry g identity) (exchangesOf created) ++
        heardBy (.registry g identity) (exchangesOf announced) := by
  have hother (s : ServerConfig) : Place.server s.serial ≠ .registry g identity := nofun
  have hbound := h.binding.heard_elsewhere (addresses_bindingOf w p.config (w.nextInvoker p))
    fun s _ => hother s
  rw [exchangesOfAll, heardBy_append, heardBy_append, hbound, List.append_nil]

theorem created_accepted (x : Place) : firstRefusal (heardBy x (exchangesOf created)) = none :=
  List.findSome?_eq_none_iff.2 fun y hy => h.accepted y (List.mem_of_mem_filter hy)

theorem servers_heard :
    (∀ s ∈ p.config.servers, InTurn (w.bindingOf p.config (w.nextInvoker p) s)
      (heardBy (.server s.serial) (exchangesOf bound))) ∧
    ∀ line : ServerConfig → ProviderError → Blame, blamesOf line bound =
      p.config.servers.filterMap fun s =>
        (firstRefusal (heardBy (.server s.serial) (exchangesOf bound))).map (line s) := by
  have hdistinct : (p.config.servers.map fun s => Place.server s.serial).Nodup := by
    have hinjective : Function.Injective Place.server := fun _ _ h => by cases h; rfl
    simpa [List.map_map, Function.comp_def] using h.servers.map hinjective
  obtain ⟨hturns, hblames⟩ := h.binding.heard (addresses_bindingOf w p.config (w.nextInvoker p))
    hdistinct h.bindable
  refine ⟨fun s hs => ?_, hblames⟩
  obtain ⟨calls, rfl, hturn⟩ := hturns s hs
  exact hturn

theorem registries_heard :
    (∀ r ∈ p.config.announcedIn, InTurn (w.filing p.group r ++
      (w.registryOf p r).announcingCalls p.group (w.view p.config))
        (heardBy (.registry p.group r.identity) (exchangesOf created) ++
          heardBy (.registry p.group r.identity) (exchangesOf announced))) ∧
    ∀ line : RegistryConfig → ProviderError → Blame, blamesOf line announced =
      p.config.announcedIn.filterMap fun r =>
        (firstRefusal (heardBy (.registry p.group r.identity) (exchangesOf announced))).map
          (line r) := by
  have hdistinct : (p.config.announcedIn.map fun r => Place.registry p.group r.identity).Nodup := by
    have hinjective : Function.Injective (Place.registry p.group) := fun _ _ h => by cases h; rfl
    simpa [List.map_map, Function.comp_def] using h.registries.map hinjective
  have hcalm : firstFrameworkError (exchangesOf created) = none :=
    List.findSome?_eq_none_iff.2 fun x hx => by rw [h.accepted x hx]; rfl
  obtain ⟨hearly, -⟩ := h.filing.heard (addresses_filing w p.group) hdistinct hcalm
  obtain ⟨hlate, hblames⟩ := h.announcing.heard (addresses_announcing h.filed p)
    hdistinct h.announceable
  refine ⟨fun r hr => ?_, hblames⟩
  obtain ⟨calls, rfl, hfirst⟩ := hearly r hr
  obtain ⟨calls, rfl, hsecond⟩ := hlate r hr
  exact hfirst.append (h.created_accepted _) hsecond

theorem heard_elsewhere (x : Place) (hx : ¬x.UsedBy p) :
    heardBy x (exchangesOfAll created bound announced) = [] := by
  cases x with
  | server n =>
    rw [h.heard_server]
    refine h.binding.heard_elsewhere (addresses_bindingOf w p.config (w.nextInvoker p))
      fun s hs hplace => hx ⟨s, hs, ?_⟩
    cases hplace
    rfl
  | registry g identity =>
    have hunused : ∀ r ∈ p.config.announcedIn,
        Place.registry p.group r.identity ≠ .registry g identity := by
      intro r hr hplace
      cases hplace
      exact hx ⟨rfl, r, hr, rfl⟩
    rw [h.heard_registry, h.filing.heard_elsewhere (addresses_filing w p.group) hunused,
      h.announcing.heard_elsewhere (addresses_announcing h.filed p) hunused]
    rfl

theorem isolated : Isolated w p (exchangesOfAll created bound announced) where
  servers s hs := by
    rw [h.heard_server]
    exact h.servers_heard.1 s hs
  registries r hr := by
    rw [h.heard_registry]
    exact h.registries_heard.1 r hr
  elsewhere := h.heard_elsewhere

theorem blames :
    blamesOf (bindingBlame p.config) bound ++ blamesOf (announcingBlame p.config) announced =
      faultBlames p (exchangesOfAll created bound announced) := by
  rw [h.servers_heard.2, h.registries_heard.2, faultBlames]
  simp only [h.heard_server, h.heard_registry, firstRefusal_append (h.created_accepted _)]

end CalmTours

theorem servers_prime (ask : Ask (Place → τ)) (w : World (Place → τ)) (g : Nat)
    (registries : List RegistryConfig) : (prime ask g registries w).world.servers = w.servers :=
  prime_keeps (P := fun w' => w'.servers = w.servers)
    (fun w' _ _ h => (servers_perform_registry ask w' _ _ _).trans h) (fun _ _ _ h => h) rfl

theorem blames_listening (p : Provider) (bound : Walk (Place → τ) ServerConfig) :
    (listening p bound).blames = bound.outcome.world.blames :=
  (blames_log bound.outcome.world _).trans (List.append_nil _)

/-- An attempt in which nothing but faults occurs succeeds. -/
theorem attempt_isolated (hmild : a.Mild) (hfiled : Filed w)
    (hservers : (p.config.servers.map ServerConfig.serial).Nodup)
    (hregistries : (p.config.announcedIn.map RegistryConfig.identity).Nodup) :
    (w.attempt a.ask p).outcome.result = .ok () ∧ Answered a w (w.attempt a.ask p).outcome.world ∧
      ∃ made, Makes w (w.attempt a.ask p).outcome.world made ∧ Isolated w p made ∧
        (w.attempt a.ask p).outcome.world.blames = w.blames ++ faultBlames p made := by
  obtain ⟨hprimed, created, hcreated, hearly, hquiet, haccepted⟩ :=
    prime_tours (w := w.openInvoker p) hmild hregistries fun r _ => (rfl : _ = w.filing p.group r)
  have hfirst : Makes w (prime a.ask p.group p.config.announcedIn (w.openInvoker p)).world
      (exchangesOf created) := hearly
  have hanswered :
      Answered a w (prime a.ask p.group p.config.announcedIn (w.openInvoker p)).world :=
    answered_prime (w.openInvoker p) a p.group p.config.announcedIn
  have hview : (prime a.ask p.group p.config.announcedIn (w.openInvoker p)).world.view p.config =
      w.view p.config := (sameBooks_prime a.ask (w.openInvoker p) p.group _).view _
  have hcreating (s : ServerConfig) :
      (prime a.ask p.group p.config.announcedIn (w.openInvoker p)).world.creating s =
        w.creating s := by
    rw [creating, servers_prime]
    rfl
  have horigin := origin?_prime a.ask (w.openInvoker p) hprimed
  have hcourse := attempt_course a.ask w p
  generalize w.attempt a.ask p = attempted at hcourse
  cases hcourse with
  | unprimed hprime =>
    rw [hprime] at hprimed
    cases hprimed
  | @unbound w₁ e hprime hbound =>
    -- Only a framework error ends the walk, and there is none.
    rw [hprime] at hview hcreating
    obtain ⟨bound, hbind⟩ :=
      bindServers_tours_distinct (v := w.nextInvoker p) a.ask hservers hcreating hview
    have hcalm := hmild.firstFrameworkError (answered_bindServers w₁ a p.config _) hbind.makes
    have herror := hbind.error.symm.trans (Outcome.error?_eq_some_iff.2 hbound)
    rw [hcalm] at herror
    cases herror
  | @announced w₁ hprime hbound =>
    rw [hprime] at hview hcreating hfirst hanswered hquiet horigin
    obtain ⟨bound, hbind⟩ :=
      bindServers_tours_distinct (v := w.nextInvoker p) a.ask hservers hcreating hview
    have hbound' := answered_bindServers w₁ a p.config (w.nextInvoker p)
    have hlistening : (listening p (w.boundAfter a.ask p w₁)).view p.config = w.view p.config :=
      (view_listening p _).trans
        (((sameBooks_bindServers a.ask w₁ p.config (w.nextInvoker p)).view _).trans hview)
    obtain ⟨announced, hannounce⟩ :=
      announce_tours a.ask (listening_known a.ask w p horigin) hlistening
    have hannounced' := answered_announce (listening p (w.boundAfter a.ask p w₁)) a p
    have hcalm := hmild.firstFrameworkError hannounced' hannounce.makes
    have hlisten : Makes (w.boundAfter a.ask p w₁).outcome.world
        (listening p (w.boundAfter a.ask p w₁)) [] := .of_eq (exchanges_log _ _)
    have htours : CalmTours w p created bound announced :=
      ⟨hfiled, hservers, hregistries, hcreated, haccepted, hbind.tour,
        hmild.firstFrameworkError hbound' hbind.makes, hannounce.tour, hcalm⟩
    refine ⟨Outcome.error?_eq_none_iff.1 (hannounce.error.trans hcalm), ?_, _, ?_, htours.isolated,
      ?_⟩
    · exact ((hanswered.trans hbound').trans (.of_eq (exchanges_log _ _) rfl)).trans hannounced'
    · simpa [exchangesOfAll] using ((hfirst.trans hbind.makes).trans hlisten).trans hannounce.makes
    · rw [← htours.blames, hannounce.blames, blames_listening, ← List.append_assoc]
      exact congrArg (· ++ _) (hbind.blames.trans (congrArg (· ++ _) hquiet))

end Attempts

section Publications

theorem blames_prepared {σ : Type} (w : World σ) (p : Provider) :
    (w.prepared p).blames = w.blames := by
  have hnotices : (methodNotices p.config).filterMap Event.blame? = [] := by
    refine List.filterMap_eq_nil_iff.2 fun e he => ?_
    obtain ⟨n, -, rfl⟩ := List.mem_map.1 he
    rfl
  have hdecided : (w.decideMethods p).blames = w.blames := by
    rw [blames, events_decideMethods, List.filterMap_append, hnotices, List.append_nil]
    rfl
  exact ((blames_log (w.decideMethods p) _).trans (List.append_nil _)).trans hdecided

theorem blames_admitted {σ : Type} (w : World σ) (p : Provider) (n : Nat) (counts : ExportCounts) :
    (w.admitted p n counts).blames = w.blames := by
  have hcounted : ((w.prepared p).modifyServices p.group fun t => { t with counts }).blames =
      w.blames := blames_prepared w p
  rw [admitted]
  split
  · exact ((blames_log _ _).trans (List.append_nil _)).trans hcounted
  · exact hcounted

theorem servers_admitted {σ : Type} (w : World σ) (p : Provider) (n : Nat)
    (counts : ExportCounts) : (w.admitted p n counts).servers = w.servers := by
  rw [admitted, prepared, decideMethods_eq]
  split <;> rfl

/-- What everybody hears is decided by the state before the provider was admitted. -/
theorem Isolated.of_admitted {n : Nat} {counts : ExportCounts} {made : List Exchange}
    (h : Isolated (w.admitted p n counts) p made) : Isolated w p made := by
  have hview := (steady_admitted w p n counts).view
  have hregistries := registries_admitted w p n counts
  refine ⟨fun s hs => ?_, fun r hr => ?_, h.elsewhere⟩
  · have hheard := h.servers s hs
    rwa [bindingOf, creating, servers_admitted, hview, nextInvoker_admitted] at hheard
  · have hheard := h.registries r hr
    rwa [filing, registryOf, origin?, hregistries, hview] at hheard

/-- Whom nothing stands against is published, and his publication is isolated. -/
theorem publishNow_isolated (hmild : a.Mild) (hfiled : Filed w)
    (hservers : (p.config.servers.map ServerConfig.serial).Nodup)
    (hregistries : (p.config.announcedIn.map RegistryConfig.identity).Nodup)
    (hunpublished : w.isPublished p = false) (hclear : firstOf (w.objections p) = none) :
    (w.publishNow a.ask p).result = .ok () ∧
      Answered a w (w.publishNow a.ask p).world ∧
      (∃ made, Makes w (w.publishNow a.ask p).world made ∧ Isolated w p made ∧
        (w.publishNow a.ask p).world.blames = w.blames ++ faultBlames p made) ∧
      Rebooked w (w.publishNow a.ask p).world p
        { w.provider p with
          published := true, invoker := some (w.nextInvoker p),
          attempts := (w.provider p).attempts + 1 }
        (some (.republish p)) (w.liveCount p + 1) (some p) := by
  have hcourse := publishNow_course a.ask w p
  generalize w.publishNow a.ask p = outcome at hcourse
  have hattempt (n : Nat) (counts : ExportCounts) :=
    attempt_isolated hmild ((sameBindings_admitted w p n counts).filed hfiled) hservers hregistries
  cases hcourse with
  | already hpublished => rw [hunpublished] at hpublished; cases hpublished
  | unfit _ hcheck => rw [objections_of_unfit hcheck] at hclear; cases hclear
  | refused _ hcheck hlimit =>
    rw [objections_of_fit hcheck, crowded_of_refused hlimit] at hclear
    cases hclear
  | @failed _ hcheck n counts e hlimit hfailed =>
    rw [(hattempt n counts).1] at hfailed
    cases hfailed
  | @done _ hcheck n counts hlimit hdone =>
    obtain ⟨-, hanswered, made, hmade, hisolated, hblames⟩ := hattempt n counts
    have hadmitted : Answered a w (w.admitted p n counts) :=
      .of_eq (exchanges_admitted w p n counts) (outside_admitted w p n counts)
    have hmade' : Makes w (w.admitted p n counts) [] := .of_eq (exchanges_admitted w p n counts)
    rw [blames_admitted] at hblames
    exact ⟨rfl, (hadmitted.trans hanswered).trans (.of_eq rfl rfl),
      ⟨made, hmade'.trans hmade, hisolated.of_admitted, hblames⟩, rebooked_done hlimit hdone⟩

/-- Whom something stands against is refused before anybody is called, whatever would be
answered. -/
theorem publishNow_objected {σ : Type} {w : World σ} (hunpublished : w.isPublished p = false)
    {e : ProviderError} (h : firstOf (w.objections p) = some e) :
    ∃ w', (∀ ask, w.publishNow ask p = ⟨.error e, w'⟩) ∧ w'.exchanges = w.exchanges ∧
      w'.blames = w.blames ∧ w'.isPublished p = false := by
  cases hcheck : p.config.check with
  | error e' =>
    rw [objections_of_unfit hcheck] at h
    cases h
    refine ⟨w, fun ask => ?_, rfl, rfl, hunpublished⟩
    rw [publishNow, hunpublished]
    simp [hcheck]
  | ok u =>
    refine ⟨w.prepared p, fun ask => ?_, exchanges_prepared w p, blames_prepared w p, ?_⟩
    · rw [objections_of_fit hcheck, crowded?] at h
      split at h <;> cases h
      next hfull => exact publishNow_of_full ask hunpublished hcheck (by rw [HasRoom]; omega)
    · rw [isPublished, provider_prepared]
      exact hunpublished

theorem Isolated.heard_eq {odd x : Place} {made made' : List Exchange} {t t' : τ}
    (h : Isolated w p made) (h' : Isolated w p made') (hagree : a.AgreesBut b odd) (hx : x ≠ odd)
    (hr : a.Replies (w.outside x) (heardBy x made) t)
    (hr' : b.Replies (w.outside x) (heardBy x made') t') : heardBy x made = heardBy x made' := by
  have hsame : a.Replies (w.outside x) (heardBy x made') t' := hr'.congr fun y hy => by
    have hreceiver : y.1.receiver = x := by simpa using (List.mem_filter.1 hy).2
    exact (hagree y.1 (hreceiver ▸ hx)).symm
  by_cases hused : x.UsedBy p
  · cases x with
    | server n =>
      obtain ⟨s, hs, rfl⟩ := hused
      exact (h.servers s hs).unique hr (h'.servers s hs) hsame
    | registry g identity =>
      obtain ⟨rfl, r, hmem, rfl⟩ := hused
      exact (h.registries r hmem).unique hr (h'.registries r hmem) hsame
  · rw [h.elsewhere x hused, h'.elsewhere x hused]

theorem faultBlames_nil (p : Provider) : faultBlames p [] = [] := by
  simp [faultBlames, heardBy]

/-- The books do not tell two publications of one provider apart. -/
theorem World.Rebooked.tables_eq {σ : Type} {w x y : World σ} {s : ProviderState}
    {l : Option Listener} {n : Nat} {t : Option Provider} (h : Rebooked w x p s l n t)
    (h' : Rebooked w y p s l n t) (g : Nat) : (x.services g).counts = (y.services g).counts ∧
      (x.services g).published = (y.services g).published := by
  constructor
  · exact ExportCounts.ext_count fun k => by rw [h.count, h'.count]
  · exact Std.ExtTreeMap.ext_getElem? fun m => by rw [h.published, h'.published]

end Publications

/-- Two publications at once of a provider from one state, with collaborators that differ in one of
them only and that answer nothing worse than faults: either something stands against the provider,
and both are refused with that before anybody is called, or both succeed. All other collaborators
hear the same calls and give the same answers, and the tables end equal. Each run blames exactly
those that refused a call, each in one line. -/
theorem faults_isolated {odd : Place} (hagree : a.AgreesBut b odd) (ha : a.Mild) (hb : b.Mild)
    (hfiled : Filed w) (hdelay : p.config.delayMs = 0)
    (hservers : (p.config.servers.map ServerConfig.serial).Nodup)
    (hregistries : (p.config.registries.map RegistryConfig.identity).Nodup) :
    let x := w.publish a.ask p
    let y := w.publish b.ask p
    let refusal := if w.isPublished p then none else firstOf (w.objections p)
    x.error? = refusal ∧ y.error? = refusal ∧
      (refusal ≠ none → x.world.exchanges = w.exchanges ∧ y.world.exchanges = w.exchanges) ∧
      (refusal = none → x.world.isPublished p = true ∧ y.world.isPublished p = true) ∧
      (∀ g, (x.world.services g).counts = (y.world.services g).counts ∧
        (x.world.services g).published = (y.world.services g).published) ∧
      ∃ made made', Makes w x.world made ∧ Makes w y.world made' ∧
        (∀ q, q ≠ odd → heardBy q made = heardBy q made') ∧
        x.world.blames = w.blames ++ faultBlames p made ∧
        y.world.blames = w.blames ++ faultBlames p made' := by
  intro x y refusal
  have hx : x = w.publishNow a.ask p := publish_at_once a.ask w hdelay
  have hy : y = w.publishNow b.ask p := publish_at_once b.ask w hdelay
  cases hpublished : w.isPublished p with
  | true =>
    rw [publishNow_published a.ask hpublished] at hx
    rw [publishNow_published b.ask hpublished] at hy
    have hnone : refusal = none := if_pos hpublished
    rw [hx, hy, hnone]
    exact ⟨rfl, rfl, fun h => absurd rfl h, fun _ => ⟨hpublished, hpublished⟩,
      fun _ => ⟨rfl, rfl⟩, [], [], .refl w, .refl w, fun _ _ => rfl, by simp [faultBlames_nil],
      by simp [faultBlames_nil]⟩
  | false =>
    have hrefusal : refusal = firstOf (w.objections p) := if_neg (by simp [hpublished])
    rw [hrefusal]
    cases hobjection : firstOf (w.objections p) with
    | some e =>
      obtain ⟨w', hrefused, hquiet, hblames, hstill⟩ := publishNow_objected hpublished hobjection
      rw [hx, hy, hrefused a.ask, hrefused b.ask]
      refine ⟨rfl, rfl, fun _ => ⟨hquiet, hquiet⟩, fun h => (by cases h), fun _ => ⟨rfl, rfl⟩,
        [], [], .of_eq hquiet, .of_eq hquiet, fun _ _ => rfl, ?_, ?_⟩
      · simpa [faultBlames_nil] using hblames
      · simpa [faultBlames_nil] using hblames
    | none =>
      have hdistinct : (p.config.announcedIn.map RegistryConfig.identity).Nodup := by
        rw [ProviderConfig.announcedIn]
        split
        · exact hregistries
        · exact List.nodup_nil
      obtain ⟨hok, hanswered, ⟨made, hmade, hisolated, hblames⟩, hbooks⟩ :=
        publishNow_isolated ha hfiled hservers hdistinct hpublished hobjection
      obtain ⟨hok', hanswered', ⟨made', hmade', hisolated', hblames'⟩, hbooks'⟩ :=
        publishNow_isolated hb hfiled hservers hdistinct hpublished hobjection
      rw [hx, hy]
      refine ⟨Outcome.error?_eq_none_iff.2 hok, Outcome.error?_eq_none_iff.2 hok', fun h =>
        absurd rfl h, fun _ => ⟨?_, ?_⟩, hbooks.tables_eq hbooks', made, made', hmade, hmade',
        fun q hq => ?_, hblames, hblames'⟩
      · rw [isPublished, hbooks.provider_self]
      · rw [isPublished, hbooks'.provider_self]
      · exact hisolated.heard_eq hisolated' hagree hq (hanswered.replies hmade q)
          (hanswered'.replies hmade' q)

/-- The second server does not start: it is blamed for that, and nobody else notices. -/
theorem faults_isolated_not_started :
    let server (n : Nat) (id : String) : ServerConfig := ⟨n, { id }, ⟨"mock"⟩⟩
    let p := smallProvider 0 [server 0 "one", server 1 "two"]
      [⟨⟨"first", "mock", "first"⟩, ⟨"mock"⟩⟩] 1
    let a : AnswerPattern Unit := fun _ _ => (none, ())
    let b : AnswerPattern Unit := fun c _ =>
      (if c.receiver = .server 1 ∧ c.name = "server.start" then
        some (.collaborator "start" (.text "in use")) else none, ())
    let w : World (Place → Unit) := World.start fun _ => ()
    a.AgreesBut b (.server 1) ∧ a.Mild ∧ b.Mild ∧ Filed w ∧ p.config.delayMs = 0 ∧
      (p.config.servers.map ServerConfig.serial).Nodup ∧
      (p.config.registries.map RegistryConfig.identity).Nodup ∧
      (w.publish b.ask p).world.blames = [(.error, [("app", .text ""), ("key", .text "demo.Echo"),
        ("server", .text "two"), ("error", .text "start: in use")])] ∧
      ∃ made made', Makes w (w.publish a.ask p).world made ∧
        Makes w (w.publish b.ask p).world made' ∧
        ∀ q, q ≠ .server 1 → heardBy q made = heardBy q made' := by
  intro server p a b w
  have hagree : a.AgreesBut b (.server 1) := by
    intro c hc
    funext s
    simp [a, b, hc]
  have ha : a.Mild := ⟨fun _ _ _ => rfl, fun _ _ _ he => by cases he⟩
  have hb : b.Mild := by
    refine ⟨fun g r s => by simp [b, Call.receiver], fun c s e he => ?_⟩
    simp only [b] at he
    split at he <;> cases he
    rfl
  have hfiled : Filed w := by simp [Filed, w, World.start, services]
  have hservers : (p.config.servers.map ServerConfig.serial).Nodup := by decide
  have hregistries : (p.config.registries.map RegistryConfig.identity).Nodup := by decide
  obtain ⟨-, -, -, -, -, made, made', hmade, hmade', hheard, -, -⟩ :=
    faults_isolated hagree ha hb hfiled rfl hservers hregistries
  exact ⟨hagree, ha, hb, hfiled, rfl, hservers, hregistries, by decide +kernel, made, made', hmade,
    hmade', hheard⟩

/-- A provider without servers is refused although everybody would accept every call. -/
theorem unserved_provider_refused :
    let p := smallProvider 0 [] [] 1
    let a : AnswerPattern Unit := fun _ _ => (none, ())
    let w : World (Place → Unit) := World.start fun _ => ()
    a.AgreesBut a (.server 0) ∧ a.Mild ∧ Filed w ∧ p.config.delayMs = 0 ∧
      (p.config.servers.map ServerConfig.serial).Nodup ∧
      (p.config.registries.map RegistryConfig.identity).Nodup ∧
      (w.publish a.ask p).result ≠ .ok () ∧ (w.publish a.ask p).world.isPublished p = false := by
  intro p a w
  have hrefused : (w.publish a.ask p).error?.isSome = true := by decide +kernel
  refine ⟨fun _ _ => rfl, ⟨fun _ _ _ => rfl, fun _ _ _ he => by cases he⟩,
    by simp [Filed, w, World.start, services], rfl, List.nodup_nil, List.nodup_nil, fun hok => ?_,
    by decide +kernel⟩
  rw [Outcome.error?_eq_none_iff.2 hok] at hrefused
  cases hrefused

end ServicePublisher
