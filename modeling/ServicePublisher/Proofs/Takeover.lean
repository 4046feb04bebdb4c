import ServicePublisher.Proofs.Accepting
import ServicePublisher.Proofs.Invokers
import ServicePublisher.Proofs.Orphans
import ServicePublisher.Proofs.Standing

/-! Servers taken over by failures. A server has one processor for a key, and a failed publication
beside another one leaves there what it has written. So the calls of a published provider may go to
an invoker of one that never was published, unless the two share no server that the failing one
exposes. -/
namespace ServicePublisher

open World

/-- No server where a failing publication may have left its invoker is used by another provider that
may be published meanwhile. A publication with a delay does not fail when it is asked for. -/
def Fleet.Guarded (fleet : Fleet) : Prop :=
  ∀ p ∈ fleet.members, ∀ live ∈ fleet.members, p.config.serial ≠ live.config.serial →
    p.config.delayMs = 0 → p.MayFailBeside live →
    ∀ n, (Place.server n).ExposedBy p → ¬(Place.server n).UsedBy live

section Attribution

variable {σ : Type} {ask : Ask σ} {fleet : Fleet} {w w' w'' : World σ} {p : Provider}

/-- All processors of the second state are those of the first. -/
def Fewer (w w' : World σ) : Prop :=
  ∀ n k v, w'.processor? n k = some v → w.processor? n k = some v

theorem Fewer.trans (h : Fewer w w') (h' : Fewer w' w'') : Fewer w w'' :=
  fun n k v hv => h n k v (h' n k v hv)

theorem World.SameBindings.fewer (h : SameBindings w w') : Fewer w w' := by
  intro n k v hv
  rwa [h.processor] at hv

theorem fewer_unbindServers (ask : Ask σ) (w : World σ) (c : ProviderConfig)
    (servers : List ServerConfig) : Fewer w (w.unbindServers ask c servers) := by
  refine unbindServers_keeps (P := Fewer w) (fun w' s _ h n k v hv => ?_) (fun _ _ _ h => h)
    fun _ _ _ => id
  rw [processor?_perform_unregister] at hv
  split at hv
  · cases hv
  · exact h n k v hv

theorem fewer_retract (ask : Ask σ) (w : World σ) (p : Provider)
    (registries : List RegistryConfig) : Fewer w (w.retract ask p registries) := by
  intro n k v hv
  rwa [processor?, servers_retract, ← processor?] at hv

theorem fewer_discard (ask : Ask σ) (w : World σ) (p : Provider) (a : Attempt σ) :
    Fewer w (w.discard ask p a) := by
  obtain ⟨-, hreleased⟩ := release_closed w p
  rw [World.discard]
  dsimp only
  split
  · exact (hreleased.trans (sameBindings_record _ _)).fewer
  · exact hreleased.fewer.trans
      ((fewer_retract ask _ p a.registries).trans (fewer_unbindServers ask _ p.config a.servers))

theorem fewer_withdraw (ask : Ask σ) (w : World σ) (p : Provider) :
    Fewer w (w.withdraw ask p) := by
  cases hpublished : w.isPublished p with
  | false =>
    rw [withdraw_unpublished ask hpublished]
    exact fun _ _ _ => id
  | true =>
    have hretracted : Fewer w ((w.withdrawing p).retract ask p p.config.announcedIn) :=
      fewer_retract ask (w.withdrawing p) p p.config.announcedIn
    have hunlinked : Fewer w (w.unlinked ask p) :=
      hretracted.trans (fewer_unbindServers ask _ p.config p.config.servers)
    rw [withdraw_published ask hpublished]
    exact hunlinked.trans (sameBindings_concluded _ p).fewer

/-- Every processor is the invoker of a provider of its key that uses the server. -/
structure Attributed (fleet : Fleet) (w : World σ) : Prop extends Standing fleet w,
    Minted fleet w where
  processor : ∀ n k v, w.processor? n k = some v →
    ∃ q ∈ fleet.members, q.config.key = k ∧ v.provider = q.number ∧ (Place.server n).UsedBy q

theorem attributed_start (fleet : Fleet) (outside : σ) :
    Attributed fleet (World.start outside) where
  toStanding := standing_start fleet outside
  toMinted := minted_start fleet outside
  processor n k v hv := by simp [World.start, processor?] at hv

theorem Attributed.fewer (h : Attributed fleet w) (hstanding : Standing fleet w')
    (hminted : Minted fleet w') (hfewer : Fewer w w') : Attributed fleet w' where
  toStanding := hstanding
  toMinted := hminted
  processor n k v hv := h.processor n k v (hfewer n k v hv)

theorem Attributed.rebound (h : Attributed fleet w) (hp : p ∈ fleet.members)
    (hstanding : Standing fleet w'') (hminted : Minted fleet w'') {servers : List ServerConfig}
    {registries : List RegistryConfig}
    (hbound : Rebound w w' p servers registries (some (w.nextInvoker p)))
    (hservers : ∀ s ∈ servers, s ∈ p.config.servers) (hfewer : Fewer w' w'') :
    Attributed fleet w'' where
  toStanding := hstanding
  toMinted := hminted
  processor n k v hv := by
    have hbefore := hfewer n k v hv
    rw [hbound.processor] at hbefore
    split at hbefore
    · next hwritten =>
      obtain ⟨s, hs, hserial, hkey⟩ := hwritten
      cases hbefore
      exact ⟨p, hp, hkey, rfl, s, hservers s hs, hserial⟩
    · exact h.processor n k v hbefore

theorem Attributed.publishNow (h : Attributed fleet w) (hp : p ∈ fleet.members) :
    Attributed fleet (w.publishNow ask p).world := by
  have hstanding := @Standing.publishNow σ ask fleet w p h.toStanding hp
  have hminted := @Minted.publishNow σ ask fleet w p h.toMinted hp
  have hcourse := publishNow_course ask w p
  generalize w.publishNow ask p = outcome at hcourse hstanding hminted
  cases hcourse with
  | already hpublished => exact h
  | unfit hpublished hcheck => exact h
  | refused hpublished hcheck hlimit =>
    exact h.fewer hstanding hminted (sameBindings_prepared w p).fewer
  | @failed hpublished hcheck n counts e hlimit hattempt =>
    exact h.rebound hp hstanding hminted (rebound_admitted ask h.filed p n counts)
      (fun s hs => mem_servers_of_mem_attempt hs) (fewer_discard ask _ p _)
  | @done hpublished hcheck n counts hlimit hattempt =>
    exact h.rebound hp hstanding hminted (rebound_done ask h.filed p n counts)
      (fun s hs => mem_servers_of_mem_attempt hs) fun _ _ _ => id

theorem Attributed.move (h : Attributed fleet w) (hmove : Move ask fleet w w') :
    Attributed fleet w' := by
  have hstanding := h.toStanding.move hmove
  have hminted := h.toMinted.move hmove
  cases hmove with
  | publish hp => exact h.publishNow hp
  | withdraw hp => exact h.fewer hstanding hminted (fewer_withdraw ask w _)
  | schedule hp due => exact h.fewer hstanding hminted fun _ _ _ => id
  | unschedule i => exact h.fewer hstanding hminted fun _ _ _ => id
  | write hwrite => exact h.fewer hstanding hminted fun _ _ _ => id
  | log hn => exact h.fewer hstanding hminted fun _ _ _ => id
  | build s => exact h.fewer hstanding hminted (sameBindings_build ask w s).fewer
  | lookUp g r => exact h.fewer hstanding hminted (sameBindings_registryFor w g r).fewer

theorem attributed_run (ask : Ask σ) (outside : σ) {ops : List Operation}
    (hops : ∀ op ∈ ops, op.Within fleet) :
    Attributed fleet (run ask ops (World.start outside)) :=
  run_keeps ask (fun _ h => h.toClosed) (fun _ _ h hmove => h.move hmove) hops
    (attributed_start fleet outside)

end Attribution

section Bystander

variable {σ : Type} {ask : Ask σ} {fleet : Fleet} {w : World σ} {p live : Provider}
  {e : ProviderError}

theorem publish_of_error (he : (w.publish ask p).result = .error e) :
    p.config.delayMs = 0 ∧ w.publish ask p = w.publishNow ask p := by
  rw [World.publish] at he ⊢
  dsimp only at he ⊢
  split at he
  · next hdelay => exact ⟨hdelay, if_pos hdelay⟩
  · split at he <;> cases he

theorem Attributed.processor_of_error (hguarded : fleet.Guarded) (h : Attributed fleet w)
    (hp : p ∈ fleet.members) (hlive : live ∈ fleet.members) (hpublished : w.isPublished live = true)
    (hkey : p.config.key = live.config.key) (hserial : p.config.serial ≠ live.config.serial)
    (hdelay : p.config.delayMs = 0) {n : Nat} {v : Invoker}
    (hinvoker : (w.provider live).invoker = some v)
    (hat : w.processor? n live.config.key = some v)
    (he : (w.publishNow ask p).result = .error e) :
    (w.publishNow ask p).world.processor? n live.config.key = some v := by
  have hcourse := publishNow_course ask w p
  generalize w.publishNow ask p = outcome at hcourse he
  cases hcourse with
  | already _ => cases he
  | unfit _ hcheck => exact hat
  | refused _ hcheck hlimit =>
    rw [(sameBindings_prepared w p).processor]
    exact hat
  | @failed _ hcheck m counts e hlimit hattempt =>
    have hothers := h.liveCount_pos_beside hp hlive hpublished hkey.symm
    have hbeside := h.mayFailBeside hp hcheck hlimit hlive hpublished hkey.symm
    -- The processor is found at a server of the provider whose invoker it is, so `p` may not
    -- have been exposed there.
    obtain ⟨q, hq, -, hnumber, hused⟩ := h.processor n _ v hat
    have hown := (h.own live hlive v hinvoker).provider
    obtain rfl : q = live := fleet.eq_of_number hq hlive (hnumber.symm.trans hown)
    rw [(rebound_failed_beside ask h.filed hlimit hothers).processor, if_neg]
    · exact hat
    · intro hgiven
      obtain ⟨s, hs, hserver, -⟩ := hgiven
      exact hguarded p hp q hq hserial hdelay hbeside n
        ⟨s, exposes_of_mem_attempt hattempt hs, hserver⟩ hused
  | done _ hcheck hlimit hattempt => cases he

end Bystander

section Conquest

variable {n : Nat} {p live : Provider} {w : World Bool}

/-- Collaborators that accept all calls and stay as they are. -/
def tranquil : Ask Bool := fun _ outside => (none, outside)

theorem tranquil_accepts : tranquil.Accepts := fun _ _ => rfl

theorem outside_perform (w : World Bool) (c : Call) :
    (w.perform tranquil c).world.outside = w.outside := by
  have hcourse := perform_course tranquil w c
  generalize w.perform tranquil c = outcome at hcourse
  cases hcourse with
  | accepted hanswer =>
    rw [outside_accept]
    rfl
  | refused hanswer => cases hanswer

theorem outside_attempt (w : World Bool) (p : Provider) :
    (w.attempt tranquil p).outcome.world.outside = w.outside :=
  attempt_keeps (P := fun w' => w'.outside = w.outside) rfl
    (fun w' c _ h => (outside_perform w' c).trans h) (fun _ _ h => h) fun _ _ _ h => h

theorem outside_publishNow (w : World Bool) (p : Provider) :
    (w.publishNow tranquil p).world.outside = w.outside := by
  have hcourse := publishNow_course tranquil w p
  generalize w.publishNow tranquil p = outcome at hcourse
  cases hcourse with
  | already hpublished => rfl
  | unfit hpublished hcheck => rfl
  | refused hpublished hcheck hlimit =>
    rw [prepared, decideMethods_eq]
    rfl
  | @failed _ _ n counts e hlimit hattempt =>
    have hok := (attempt_of_accepts tranquil_accepts (w.admitted p n counts) p).2.2
    simp [hok] at hattempt
  | @done _ _ n counts hlimit hattempt =>
    exact (outside_attempt _ p).trans (outside_admitted w p n counts)

/-- One provider is published alone under a key, nothing is broken, and a server has its invoker. -/
structure Established (n : Nat) (p live : Provider) (w : World Bool) : Prop
    extends Alone p live w where
  bound : ∃ v, (w.provider live).invoker = some v ∧ w.processor? n live.config.key = some v

theorem Untouched.establish (hgroup : live.group = p.group) (hbeside : p.MayFailBeside live)
    (hnumber : live.number ≠ p.number) (hused : (Place.server n).UsedBy live)
    (h : Untouched p live w) : Established n p live (w.publishNow tranquil live).world := by
  have hroom : w.HasRoom live := by
    rw [HasRoom, h.count]
    omega
  obtain ⟨-, hbooked, hbound⟩ :=
    publishNow_of_room tranquil_accepts h.unpublished.2 hbeside.fit.1 hroom
  have hbound := hbound h.filed
  obtain ⟨s, hs, hserial⟩ := hused
  exact {
    intact := (outside_publishNow w live).trans h.intact
    idle := hbooked.scheduled.trans h.idle
    filed := hbound.filed
    unpublished := by
      rw [isPublished_rebooked hbooked, if_neg hnumber]
      exact h.unpublished.1
    published := by rw [isPublished, hbooked.provider_self]
    count := by rw [← liveCount_congr hgroup hbeside.key, hbooked.liveCount_self, h.count]
    bound := by
      refine ⟨w.nextInvoker live, ?_, ?_⟩
      · rw [hbooked.provider_self]
      · rw [hbound.processor, if_pos ⟨s, hs, hserial, rfl⟩] }

theorem established_run {n : Nat} (hgroup : live.group = p.group) (hbeside : p.MayFailBeside live)
    (hnumber : live.number ≠ p.number) (hused : (Place.server n).UsedBy live) :
    Established n p live (run tranquil [.publish live, .fire 0] (World.start false)) :=
  run_publish_fire (R := Untouched p live) (Q := Established n p live)
    (fun _ _ h => ⟨h.intact, h.idle, h.filed, h.unpublished, h.count⟩)
    (fun _ _ h => ⟨⟨h.intact, h.idle, h.filed, h.unpublished, h.published, h.count⟩, h.bound⟩)
    (fun _ h => h.establish hgroup hbeside hnumber hused) (fun _ h => h.idle)
    (untouched_start p live) rfl (untouched_start p live).unpublished.2

theorem Alone.taken (hbeside : p.MayFailBeside live) (hexposed : (Place.server n).ExposedBy p)
    (h : Alone p live w) :
    ∃ e, (w.publishNow (breakingAt (.server n)) p).result = .error e ∧
      (w.publishNow (breakingAt (.server n)) p).world.processor? n p.config.key =
        some (w.nextInvoker p) := by
  obtain ⟨m, counts, e, hlimit, -, ⟨s, hs, hserial⟩, hend⟩ := h.fails hbeside hexposed
  have hothers : 0 < w.liveCount p := by rw [h.count]; exact Nat.one_pos
  have hbound := rebound_failed_beside (breakingAt (.server n)) h.filed hlimit hothers
  rw [hend]
  exact ⟨e.intoFramework, rfl, by rw [hbound.processor, if_pos ⟨s, hs, hserial, rfl⟩]⟩

end Conquest

/-- A fleet is guarded exactly if, in every state that a run reaches and whatever the collaborators
answer, a publication that fails leaves every other published provider of its key alone: where the
invoker of that provider was the processor it still is, and it decides calls by the methods of that
provider, which is still published and listens as before. -/
theorem guarded_iff_failures_harmless (fleet : Fleet) :
    fleet.Guarded ↔ ∀ (σ : Type) (ask : Ask σ) (outside : σ) (ops : List Operation),
      (∀ op ∈ ops, op.Within fleet) →
      let w := run ask ops (World.start outside)
      ∀ live ∈ fleet.members, ∀ p ∈ fleet.members, p.config.key = live.config.key →
      p.config.serial ≠ live.config.serial →
      ∀ n v, w.isPublished live = true → (w.provider live).invoker = some v →
      w.processor? n live.config.key = some v →
      ∀ (ask' : Ask σ) e, (w.publish ask' p).result = .error e →
        let w' := (w.publish ask' p).world
        w'.processor? n live.config.key = some v ∧
          (∀ name, v.allows name = live.config.policy.allows name) ∧
          w'.isPublished live = true ∧ (w'.provider live).invoker = some v ∧
          (w'.config live.config).listener = (w.config live.config).listener := by
  constructor
  · intro hguarded σ ask outside ops hops w live hlive p hp hkey hserial n v hpublished hinvoker
      hat ask' e he
    have hattributed : Attributed fleet w := attributed_run ask outside hops
    obtain ⟨hdelay, hnow⟩ := publish_of_error he
    rw [hnow] at he ⊢
    have hnumber : p.number ≠ live.number := by
      intro hsame
      obtain rfl := fleet.eq_of_number hp hlive hsame
      exact hserial rfl
    obtain ⟨s, l, m, t, hbooked⟩ := rebooked_publishNow ask' w p
    have hprovider : (w.publishNow ask' p).world.provider live = w.provider live := by
      rw [hbooked.provider, if_neg hnumber]
    refine ⟨hattributed.processor_of_error hguarded hp hlive hpublished hkey hserial hdelay hinvoker
      hat he, fun name => ?_, ?_, ?_, ?_⟩
    · rw [Invoker.allows, (hattributed.own live hlive v hinvoker).policy]
    · rw [isPublished, hprovider, ← isPublished, hpublished]
    · rw [hprovider, hinvoker]
    · rw [hbooked.config live.config hserial]
  · intro hharmless p hp live hlive hserial hdelay hbeside n hexposed hused
    have hgroup : live.group = p.group := by rw [fleet.together live hlive, fleet.together p hp]
    have hnumber : live.number ≠ p.number := by
      intro hsame
      obtain rfl := fleet.eq_of_number hlive hp hsame
      exact hserial rfl
    have hops : ∀ op ∈ [Operation.publish live, .fire 0], op.Within fleet := by
      simp [Operation.Within, hlive]
    have hestablished := established_run hgroup hbeside hnumber hused
    have hattributed := attributed_run tranquil false hops
    have hharmless := hharmless Bool tranquil false [.publish live, .fire 0] hops
    dsimp only at hharmless
    generalize run tranquil [.publish live, .fire 0] (World.start false) = w
      at hestablished hattributed hharmless
    obtain ⟨v, hinvoker, hat⟩ := hestablished.bound
    obtain ⟨e, he, htaken⟩ := hestablished.taken hbeside hexposed
    have hnow : w.publish (breakingAt (.server n)) p = w.publishNow (breakingAt (.server n)) p := by
      rw [World.publish]
      exact if_pos hdelay
    rw [← hnow] at he htaken
    obtain ⟨hkept, -⟩ := hharmless live hlive p hp hbeside.key.symm hserial n v
      hestablished.published hinvoker hat (breakingAt (.server n)) e he
    rw [hbeside.key, htaken] at hkept
    -- The invoker of the failed attempt speaks for the wrong provider.
    have hown := (hattributed.own live hlive v hinvoker).provider
    rw [← Option.some.inj hkept] at hown
    exact hnumber hown.symm

/-- Two providers of one key on one server, of which the first excludes a method that the second
does not: the second fails when the server is started, and from then on the server lets everybody
call the method, although only the first provider is published. -/
theorem failure_admits_excluded_method :
    let interface : Interface := ⟨"demo.Echo", "Echo", [⟨"secret", []⟩]⟩
    let plain (number : Nat) := smallProvider number [smallServer 0] [] 0
    let live : Provider :=
      { plain 0 with config := { (plain 0).config with interface, excluded := "secret" } }
    let p : Provider := { plain 1 with config := { (plain 1).config with interface } }
    let w := run tranquil [.publish live] (World.start false)
    let w' := (w.publish (breakingAt (.server 0)) p).world
    p.config.key = live.config.key ∧ p.config.serial ≠ live.config.serial ∧
      w.isPublished live = true ∧
      (w.processor? 0 live.config.key).map (·.allows "secret") = some false ∧
      (w.publish (breakingAt (.server 0)) p).result.isOk = false ∧
      w'.isPublished live = true ∧ live.config.policy.allows "secret" = false ∧
      (w'.processor? 0 live.config.key).map (·.allows "secret") = some true := by
  decide +kernel

end ServicePublisher
