import Mathlib.Logic.Function.Iterate
import ServicePublisher.Proofs.KeyLists
import ServicePublisher.Proofs.Rosters

/-! A withdrawal undoes a publication. A provider that left no trace before it was published
leaves none after it has been withdrawn, however much of the publication went wrong; so it can be
published and withdrawn any number of times. -/
namespace ServicePublisher

open World

variable {σ : Type} {ask ask₀ : Ask σ} {providers : List Provider} {w w' w'' : World σ}
  {p : Provider}

/-- There is no trace of a provider: it is not published, its key is not counted and is not in use
where the provider would be bound or announced, and nobody listens to its configuration. -/
structure Vacant (w : World σ) (p : Provider) : Prop where
  unpublished : w.isPublished p = false
  count : w.liveCount p = 0
  listener : (w.config p.config).listener = none
  servers : ∀ s ∈ p.config.servers, w.processor? s.serial p.config.key = none
  registries : ∀ r ∈ p.config.announcedIn,
    w.listed p.group r.identity p.config.key = false

/-- All tables are as before, except that servers and registries may have been created, which hold
nothing. Of the provider itself only the numbers of attempts and withdrawals may differ, of its
configuration only the method policy. -/
structure Restored (w w' : World σ) (p : Provider) : Prop where
  provider : w'.provider p = { w.provider p with
    attempts := (w'.provider p).attempts, epoch := (w'.provider p).epoch }
  counts : ∀ g, (w'.services g).counts = (w.services g).counts
  table : ∀ g, (w'.services g).published = (w.services g).published
  servers : ∀ n : Nat, w'.servers[n]? = w.servers[n]? ∨
    (w.servers[n]? = none ∧ w'.servers[n]? = some ∅)
  registries : ∀ (g : Nat) (identity : String),
    (w'.services g).registries[identity]? = (w.services g).registries[identity]? ∨
    ((w.services g).registries[identity]? = none ∧
      ∃ r, (w'.services g).registries[identity]? = some ⟨r, []⟩)
  attributes : (w'.config p.config).attributes = (w.config p.config).attributes
  listener : (w'.config p.config).listener = (w.config p.config).listener
  configs : ∀ c, p.config.serial ≠ c.serial → w'.config c = w.config c
  providers : ∀ q, p.number ≠ q.number → w'.provider q = w.provider q
  scheduled : w'.scheduled = w.scheduled

namespace Restored

theorem refl (w : World σ) (p : Provider) : Restored w w p :=
  ⟨rfl, fun _ => rfl, fun _ => rfl, fun _ => .inl rfl, fun _ _ => .inl rfl, rfl, rfl,
    fun _ _ => rfl, fun _ _ => rfl, rfl⟩

theorem trans (h : Restored w w' p) (h' : Restored w' w'' p) : Restored w w'' p where
  provider := by rw [h'.provider, h.provider]
  counts g := (h'.counts g).trans (h.counts g)
  table g := (h'.table g).trans (h.table g)
  servers n := by
    obtain hsame | ⟨hnone, hnew⟩ := h'.servers n
    · rw [hsame]
      exact h.servers n
    · obtain hsame | ⟨-, hsome⟩ := h.servers n
      · exact .inr ⟨hsame.symm.trans hnone, hnew⟩
      · rw [hsome] at hnone
        cases hnone
  registries g identity := by
    obtain hsame | ⟨hnone, hnew⟩ := h'.registries g identity
    · rw [hsame]
      exact h.registries g identity
    · obtain hsame | ⟨-, r, hsome⟩ := h.registries g identity
      · exact .inr ⟨hsame.symm.trans hnone, hnew⟩
      · rw [hsome] at hnone
        cases hnone
  attributes := h'.attributes.trans h.attributes
  listener := h'.listener.trans h.listener
  configs c hc := (h'.configs c hc).trans (h.configs c hc)
  providers q hq := (h'.providers q hq).trans (h.providers q hq)
  scheduled := h'.scheduled.trans h.scheduled

/-- What was created holds nothing, so there is still no trace of the provider. -/
theorem vacant (h : Restored w w' p) (hvacant : Vacant w p) : Vacant w' p where
  unpublished := by
    rw [isPublished, h.provider]
    exact hvacant.unpublished
  count := by
    rw [liveCount, h.counts]
    exact hvacant.count
  listener := h.listener.trans hvacant.listener
  servers s hs := by
    have hold := hvacant.servers s hs
    rw [processor?] at hold ⊢
    obtain hsame | ⟨-, hnew⟩ := h.servers s.serial
    · rwa [hsame]
    · rw [hnew]
      exact Std.ExtTreeMap.getElem?_empty
  registries r hr := by
    have hold := hvacant.registries r hr
    rw [World.listed] at hold ⊢
    obtain hsame | ⟨-, x, hnew⟩ := h.registries p.group r.identity
    · rwa [hsame]
    · rw [hnew]
      rfl

end Restored

section Tables

/-- Servers that exist as before, and call the same invokers, are the same but for new ones. -/
theorem servers_of_processors
    (hprocessor : ∀ n k, w'.processor? n k = w.processor? n k)
    (hkept : ∀ n, w.servers.contains n = true → w'.servers.contains n = true) (n : Nat) :
    w'.servers[n]? = w.servers[n]? ∨ (w.servers[n]? = none ∧ w'.servers[n]? = some ∅) := by
  have hstill := hkept n
  rw [Std.ExtTreeMap.contains_eq_isSome_getElem?,
    Std.ExtTreeMap.contains_eq_isSome_getElem?] at hstill
  have hsame := hprocessor n
  simp only [processor?] at hsame
  cases hold : w.servers[n]? with
  | none =>
    cases hnew : w'.servers[n]? with
    | none => exact .inl rfl
    | some t =>
      refine .inr ⟨rfl, congrArg some (Std.ExtTreeMap.ext_getElem? fun k => ?_)⟩
      simpa [hold, hnew] using hsame k
  | some t =>
    rw [hold] at hstill
    obtain ⟨t', hnew⟩ := Option.isSome_iff_exists.1 (hstill rfl)
    refine .inl (hnew.trans (congrArg some (Std.ExtTreeMap.ext_getElem? fun k => ?_)))
    simpa [hold, hnew] using hsame k

theorem keys_of_unlisted
    (hunlisted : ∀ r ∈ p.config.announcedIn, w.listed p.group r.identity p.config.key = false)
    {g : Nat} {identity : String} {x : RegistryState}
    (hx : (w.services g).registries[identity]? = some x) : w.keysBeside p g identity = x.keys := by
  rw [keysBeside, hx]
  refine List.filter_eq_self.2 fun k hk => decide_eq_true fun hannounced => ?_
  obtain ⟨rfl, ⟨r, hr, rfl⟩, rfl⟩ := hannounced
  have hnot := hunlisted r hr
  rw [World.listed, hx] at hnot
  simp [hk] at hnot

/-- Registries that come from where they did are the same but for new ones, if the keys of others
are listed as before and the provider is listed neither before nor after. -/
theorem registries_of_keys (hkeys : KeepsKeys p w w')
    (hkept : ∀ g identity x, w.origin? g identity = some x → w'.origin? g identity = some x)
    (hbefore : ∀ r ∈ p.config.announcedIn, w.listed p.group r.identity p.config.key = false)
    (hafter : ∀ r ∈ p.config.announcedIn, w'.listed p.group r.identity p.config.key = false)
    (g : Nat) (identity : String) :
    (w'.services g).registries[identity]? = (w.services g).registries[identity]? ∨
      ((w.services g).registries[identity]? = none ∧
        ∃ r, (w'.services g).registries[identity]? = some ⟨r, []⟩) := by
  have hsame := hkeys.keys g identity
  have horigin := hkept g identity
  cases hold : (w.services g).registries[identity]? with
  | none =>
    cases hnew : (w'.services g).registries[identity]? with
    | none => exact .inl rfl
    | some y =>
      rw [keys_of_unlisted hafter hnew, keysBeside, hold] at hsame
      exact .inr ⟨rfl, y.origin, congrArg some (by rw [← show y.keys = [] from hsame])⟩
  | some x =>
    obtain ⟨y, hnew, hy⟩ := Option.map_eq_some_iff.1 (horigin x.origin (by rw [origin?, hold]; rfl))
    rw [keys_of_unlisted hafter hnew, keys_of_unlisted hbefore hold] at hsame
    refine .inl (hnew.trans (congrArg some ?_))
    cases x
    cases y
    cases hsame
    cases hy
    rfl

/-- What exists was created, so it still exists when more has been done. -/
theorem Accounted.lasting (h : Accounted w) (h' : Accounted w') {made : List Exchange}
    (hmade : Makes w w' made) :
    (∀ n, w.servers.contains n = true → w'.servers.contains n = true) ∧
      ∀ g identity x, w.origin? g identity = some x → w'.origin? g identity = some x := by
  constructor
  · intro n hn
    have hbefore := h.servers n
    have hafter := h'.servers n
    rw [hn] at hbefore
    rw [hmade.serversMade, List.length_append, hbefore] at hafter
    cases hlater : w'.servers.contains n with
    | true => rfl
    | false => simp [hlater] at hafter
  · intro g identity x hx
    refine h'.origin?_of_mem ?_
    rw [hmade.registriesMade, h.registries, hx]
    exact List.mem_append_left _ (List.mem_singleton.2 rfl)

end Tables

section Cycles

/-- A provider is published and withdrawn. -/
def World.cycle (ask : Ask σ) (p : Provider) (w : World σ) : World σ :=
  (w.publish ask p).world.withdraw ask p

/-- The one way in which a publication that is not delayed gives a new provider. -/
theorem publish_done (hdelay : p.config.delayMs = 0) (hunpublished : w.isPublished p = false)
    (hok : (w.publish ask p).result = .ok ()) :
    ∃ n counts, (w.services p.group).counts.acquire p.config.key p.config.repeatLimit.toInt =
        .ok (n, counts) ∧
      ((w.admitted p n counts).attempt ask p).outcome.result = .ok () ∧
      (w.publish ask p).world =
        (((w.admitted p n counts).attempt ask p).outcome.world.enlist p).modifyProvider p fun s =>
          { s with published := true } := by
  rw [publish_at_once ask w hdelay] at hok ⊢
  have hcourse := publishNow_course ask w p
  generalize w.publishNow ask p = outcome at hcourse hok ⊢
  cases hcourse with
  | already hpublished => simp [hunpublished] at hpublished
  | unfit hpublished hcheck => cases hok
  | refused hpublished hcheck hlimit => cases hok
  | failed hpublished hcheck hlimit hattempt => cases hok
  | done hpublished hcheck hlimit hattempt => exact ⟨_, _, hlimit, hattempt, rfl⟩

section Tours

variable (hdelay : p.config.delayMs = 0) (hvacant : Vacant w p)
  (hok : (w.publish ask p).result = .ok ())
include hdelay hvacant hok

theorem isPublished_publish : (w.publish ask p).world.isPublished p = true := by
  obtain ⟨n, counts, hlimit, hattempt, hend⟩ := publish_done hdelay hvacant.unpublished hok
  rw [hend, isPublished, provider_modifyProvider, if_pos rfl]

/-- Both halves of a cycle write the books of the provider, and in the end they say what they
said. -/
theorem rebooked_cycle (hentry : w.entry p = none) :
    ∃ attempts epoch, Rebooked w (w.cycle ask p) p { w.provider p with
      published := false, invoker := none, attempts, epoch } none (w.liveCount p) (w.entry p) := by
  obtain ⟨n, counts, hlimit, hattempt, hend⟩ := publish_done hdelay hvacant.unpublished hok
  have hfirst := rebooked_done hlimit hattempt
  rw [← hend] at hfirst
  have hsecond := @rebooked_withdraw σ ask _ p (isPublished_publish hdelay hvacant hok)
  rw [hfirst.provider_self, hfirst.liveCount_self, Nat.add_sub_cancel, ← hentry] at hsecond
  exact ⟨_, _, hfirst.overwrite hsecond⟩

/-- A publication writes some of the places of the provider, a withdrawal clears them all. -/
theorem rebound_cycle (hreleases : ask.Releases) (hfiled : Filed w) :
    ∃ servers registries v, (∀ s ∈ servers, s ∈ p.config.servers) ∧
      Rebound w (w.publish ask p).world p servers registries v ∧
      Rebound (w.publish ask p).world (w.cycle ask p) p p.config.servers p.config.announcedIn
        none := by
  obtain ⟨n, counts, hlimit, hattempt, hend⟩ := publish_done hdelay hvacant.unpublished hok
  have hfirst := rebound_done ask hfiled p n counts
  rw [← hend] at hfirst
  exact ⟨_, _, _, fun _ hs => mem_servers_of_mem_attempt hs, hfirst,
    rebound_withdraw hreleases hfirst.filed (isPublished_publish hdelay hvacant hok)⟩

theorem processor_cycle (hreleases : ask.Releases) (hfiled : Filed w) (serial : Nat)
    (k : ServiceKey) : (w.cycle ask p).processor? serial k = w.processor? serial k := by
  obtain ⟨servers, registries, v, hservers, hfirst, hsecond⟩ :=
    rebound_cycle hdelay hvacant hok hreleases hfiled
  rw [hsecond.processor, hfirst.processor]
  split
  · next hown =>
    obtain ⟨s, hs, rfl, rfl⟩ := hown
    exact (hvacant.servers s hs).symm
  · next hother =>
    exact if_neg fun ⟨s, hs, hsame⟩ => hother ⟨s, hservers s hs, hsame⟩

theorem unlisted_cycle (hreleases : ask.Releases) (hfiled : Filed w) :
    ∀ r ∈ p.config.announcedIn,
      (w.cycle ask p).listed p.group r.identity p.config.key = false := by
  obtain ⟨servers, registries, v, hservers, hfirst, hsecond⟩ :=
    rebound_cycle hdelay hvacant hok hreleases hfiled
  intro r hr
  rw [hsecond.listed, if_pos ⟨r, hr, rfl, rfl, rfl⟩]
  rfl

theorem keepsKeys_cycle (hfiled : Filed w) : KeepsKeys p w (w.cycle ask p) := by
  obtain ⟨n, counts, hlimit, hattempt, hend⟩ := publish_done hdelay hvacant.unpublished hok
  have hadmitted : KeepsKeys p w (w.admitted p n counts) :=
    (KeepsKeys.refl hfiled).congr (registries_admitted w p n counts)
  have hattempted := hadmitted.trans (keepsKeys_attempt ask hadmitted.filed p)
  have hfirst : KeepsKeys p w (w.publish ask p).world := by
    rw [hend]
    exact hattempted.congr fun g => modifyServices_keeps _ p.group
      (fun t => { t with published := t.published.insert p.number p }) (fun _ => rfl) g
  exact hfirst.trans (keepsKeys_withdraw ask hfirst.filed (isPublished_publish hdelay hvacant hok))

end Tours

variable (hnumbers : (providers.map Provider.number).Nodup)
include hnumbers

omit hnumbers in
theorem movesAmong_cycle (ask : Ask σ) (w : World σ) (hp : p ∈ providers) :
    MovesAmong ask providers w (w.cycle ask p) :=
  movesAmong_solo hp ((moves_publish (Fleet.mem_solo p)).tail (.withdraw (Fleet.mem_solo p)))

theorem restored_cycle (hsupplied : SuppliedAmong providers w) (hrostered : Rostered providers w)
    (hp : p ∈ providers) (hreleases : ask.Releases) (hdelay : p.config.delayMs = 0)
    (hvacant : Vacant w p) (hok : (w.publish ask p).result = .ok ()) :
    Restored w (w.cycle ask p) p := by
  have hentry : w.entry p = none := by
    rw [hrostered.entry p hp, hvacant.unpublished]
    rfl
  have hinvoker := hrostered.invoker p hp hvacant.unpublished
  obtain ⟨attempts, epoch, hbooks⟩ := rebooked_cycle hdelay hvacant hok hentry
  obtain ⟨hlater, made, hmade⟩ :=
    hsupplied.moves hnumbers (movesAmong_cycle ask w hp)
  obtain ⟨hservers, hregistries⟩ := hsupplied.toAccounted.lasting hlater.toAccounted hmade
  exact {
    provider := by
      rw [hbooks.provider_self, ← hinvoker, ← hvacant.unpublished]
      rfl
    counts := hbooks.counts_eq
    table := hbooks.published_eq
    servers := servers_of_processors
      (processor_cycle hdelay hvacant hok hreleases hsupplied.filed) hservers
    registries := registries_of_keys (keepsKeys_cycle hdelay hvacant hok hsupplied.filed)
      hregistries hvacant.registries
      (unlisted_cycle hdelay hvacant hok hreleases hsupplied.filed)
    attributes := hbooks.attributes
    listener := by
      rw [listener_config, hbooks.listenerAt, if_pos rfl, hvacant.listener]
    configs := hbooks.config
    providers := fun q hq => by rw [hbooks.provider, if_neg hq]
    scheduled := hbooks.scheduled }

/-- After any number of cycles the tables are as before the first. -/
theorem restored_cycles (hsupplied : SuppliedAmong providers w) (hrostered : Rostered providers w)
    (hp : p ∈ providers) (hreleases : ask.Releases) (hdelay : p.config.delayMs = 0)
    (hvacant : Vacant w p) {n : Nat}
    (hok : ∀ i < n, (((World.cycle ask p)^[i] w).publish ask p).result = .ok ()) :
    Restored w ((World.cycle ask p)^[n] w) p := by
  induction n generalizing w with
  | zero => exact .refl w p
  | succ n ih =>
    have hmoves : MovesAmong ask providers w (w.cycle ask p) := movesAmong_cycle ask w hp
    have honce := restored_cycle hnumbers hsupplied hrostered hp hreleases hdelay hvacant
      (hok 0 n.succ_pos)
    rw [Function.iterate_succ_apply]
    refine honce.trans (ih (hsupplied.moves hnumbers hmoves).1 (hrostered.moves hnumbers hmoves)
      (honce.vacant hvacant) fun i hi => ?_)
    have hnext := hok (i + 1) (Nat.succ_lt_succ hi)
    rwa [Function.iterate_succ_apply] at hnext

/-- In every state that a run of operations reaches, and in every state amid the operations that
come after it: a provider without a trace there can be published and withdrawn any number of
times, whatever goes wrong as long as it is published in the end, and leaves no trace. -/
theorem cycles_leave_no_trace {ops : List Operation} (hops : ∀ op ∈ ops, op.Among providers)
    (outside : σ) (hw : MovesAmong ask₀ providers (run ask₀ ops (World.start outside)) w)
    (hp : p ∈ providers) (hdelay : p.config.delayMs = 0) (hvacant : Vacant w p)
    (hreleases : ask.Releases) (n : Nat)
    (hok : ∀ i < n, (((World.cycle ask p)^[i] w).publish ask p).result = .ok ()) :
    Restored w ((World.cycle ask p)^[n] w) p := by
  obtain ⟨hsupplied, hrostered⟩ := supplied_and_rostered hnumbers hops hw
  exact restored_cycles hnumbers hsupplied hrostered hp hreleases hdelay hvacant hok

omit hnumbers in
/-- A provider shares a server and a registry with one of another key, which was published before.
Its other server cannot be created and its other registry does not list it. It is published and
withdrawn twice. -/
theorem cycles_leave_no_trace_shared :
    let registry (name : String) : RegistryConfig := ⟨⟨name, "mock", name⟩, ⟨"mock"⟩⟩
    let server (n : Nat) (id : String) : ServerConfig := ⟨n, { id }, ⟨"mock"⟩⟩
    let clock : Provider :=
      { number := 1, group := 0,
        config :=
          { serial := 1, interface := ⟨"demo.Clock", "Clock", []⟩,
            implementation := some ⟨"Clock"⟩, servers := [server 0 "one"],
            registries := [registry "first"] } }
    let echo := smallProvider 0 [server 0 "one", server 1 "two"]
      [registry "second", registry "first"] 1
    let ask : Ask Unit := fun c _ =>
      (if c.name = "server.create" ∧ c.id = "two" ∨ c.name = "registry.register" ∧ c.id = "second"
        then some (.collaborator "refused" (.text "busy")) else none, ())
    let w := run ask [.publish clock] (World.start ())
    ([clock, echo].map Provider.number).Nodup ∧ Vacant w echo ∧ ask.Releases ∧
      (∀ i < 2, (((World.cycle ask echo)^[i] w).publish ask echo).result = .ok ()) ∧
      w.listed 0 "mock://first" clock.config.key = true ∧
      (w.publish ask echo).world.listed 0 "mock://first" echo.config.key = true ∧
      Restored w ((World.cycle ask echo)^[2] w) echo := by
  intro registry server clock echo ask w
  have hnumbers : ([clock, echo].map Provider.number).Nodup := by decide
  have hops : ∀ op ∈ [Operation.publish clock], op.Among [clock, echo] := by simp [Operation.Among]
  have hvacant : Vacant w echo :=
    ⟨by decide +kernel, by decide +kernel, by decide +kernel, by decide +kernel, by decide +kernel⟩
  have hreleases : ask.Releases := by
    intro c _ hc
    obtain ⟨s, request⟩ | ⟨g, r, request⟩ := c <;> cases request <;> first | rfl | cases hc
  have hok : ∀ i < 2, (((World.cycle ask echo)^[i] w).publish ask echo).result = .ok () := by
    have herror : ∀ i < 2, (((World.cycle ask echo)^[i] w).publish ask echo).error? = none := by
      decide +kernel
    exact fun i hi => Outcome.error?_eq_none_iff.1 (herror i hi)
  exact ⟨hnumbers, hvacant, hreleases, hok, by decide +kernel, by decide +kernel,
    cycles_leave_no_trace hnumbers hops () .refl (List.mem_cons_of_mem _ List.mem_cons_self) rfl
      hvacant hreleases 2 hok⟩

end Cycles

end ServicePublisher
