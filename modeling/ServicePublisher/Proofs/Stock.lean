import ServicePublisher.Proofs.Epochs

/-! Registries stay. Once created, a registry is never lost, so the registries of a provider exist
from the moment when they were all looked up, and those of a published provider always do. -/
namespace ServicePublisher

open World

variable {σ : Type} {ask : Ask σ} {fleet : Fleet} {w w' w'' : World σ} {p : Provider}

namespace World

def HasRegistry (w : World σ) (g : Nat) (identity : String) : Prop :=
  ((w.services g).registries[identity]?).isSome = true

def Stocked (w : World σ) (g : Nat) (registries : List RegistryConfig) : Prop :=
  ∀ r ∈ registries, w.HasRegistry g r.identity

/-- Between two states no registry was lost. -/
def KeepsRegistries (w w' : World σ) : Prop :=
  ∀ g identity, w.HasRegistry g identity → w'.HasRegistry g identity

namespace KeepsRegistries

theorem of_eq (h : ∀ g, (w'.services g).registries = (w.services g).registries) :
    KeepsRegistries w w' := by
  intro g identity hknown
  rwa [HasRegistry, h]

theorem refl (w : World σ) : KeepsRegistries w w := fun _ _ => id

theorem trans (h : KeepsRegistries w w') (h' : KeepsRegistries w' w'') : KeepsRegistries w w'' :=
  fun g identity hknown => h' g identity (h g identity hknown)

theorem stocked (h : KeepsRegistries w w') {g : Nat} {registries : List RegistryConfig}
    (hstocked : w.Stocked g registries) : w'.Stocked g registries :=
  fun r hr => h g r.identity (hstocked r hr)

end KeepsRegistries

theorem keepsRegistries_modifyServices (w : World σ) (g : Nat) {f : Services → Services}
    (hf : ∀ t, (f t).registries = t.registries) : KeepsRegistries w (w.modifyServices g f) :=
  .of_eq (modifyServices_keeps w g f hf)

theorem keepsRegistries_modifyRegistry (w : World σ) (g : Nat) (identity : String)
    (f : List ServiceKey → List ServiceKey) :
    KeepsRegistries w (w.modifyRegistry g identity f) := by
  intro g' identity' hknown
  rw [HasRegistry, modifyRegistry, services_modifyServices]
  split
  · next hg =>
    subst hg
    simp only [Std.ExtTreeMap.getElem?_modify, Std.compare_eq_iff_eq]
    split
    · next hi =>
      subst hi
      rw [Option.isSome_map]
      exact hknown
    · exact hknown
  · exact hknown

theorem keepsRegistries_perform (ask : Ask σ) (w : World σ) (c : Call) :
    KeepsRegistries w (w.perform ask c).world := by
  have hasked : KeepsRegistries w (w.asked ask c) := .of_eq fun _ => rfl
  have hcourse := perform_course ask w c
  generalize w.perform ask c = outcome at hcourse
  cases hcourse with
  | refused hanswer => exact hasked
  | accepted hanswer =>
    refine hasked.trans ?_
    generalize w.asked ask c = w₁
    change KeepsRegistries w₁ (w₁.accept c)
    cases c with
    | server s request => cases request <;> exact .of_eq fun _ => rfl
    | registry g r request =>
      cases request with
      | init => exact .refl w₁
      | start => exact .refl w₁
      | register view =>
        rw [accept]
        exact keepsRegistries_modifyRegistry w₁ g r.identity _
      | unregister view =>
        rw [accept]
        exact keepsRegistries_modifyRegistry w₁ g r.identity _
      | create =>
        intro g' identity hknown
        rw [HasRegistry, accept, services_modifyServices]
        split
        · next hg =>
          subst hg
          simp only [Std.ExtTreeMap.getElem?_insert, Std.compare_eq_iff_eq]
          split
          · rfl
          · exact hknown
        · exact hknown

section Parts

variable (ask w)

theorem keepsRegistries_registryFor (g : Nat) (r : RegistryConfig) :
    KeepsRegistries w (registryFor ask g r w).world :=
  registryFor_keeps (P := KeepsRegistries w)
    (fun w' h => h.trans (keepsRegistries_perform ask w' _)) (fun _ _ _ h => h) (.refl w)

theorem keepsRegistries_prime (g : Nat) (registries : List RegistryConfig) :
    KeepsRegistries w (prime ask g registries w).world :=
  prime_keeps (P := KeepsRegistries w)
    (fun w' _ _ h => h.trans (keepsRegistries_perform ask w' _)) (fun _ _ _ h => h) (.refl w)

theorem keepsRegistries_bindServers (c : ProviderConfig) (v : Invoker) :
    KeepsRegistries w (w.bindServers ask c v).outcome.world :=
  .of_eq fun g => by rw [services_bindServers]

theorem keepsRegistries_announce (p : Provider) :
    KeepsRegistries w (w.announce ask p).outcome.world :=
  announce_keeps (P := KeepsRegistries w)
    (fun w' _ _ _ h => h.trans (keepsRegistries_perform ask w' _)) (fun _ _ _ h => h) (.refl w)

theorem keepsRegistries_prepared (p : Provider) : KeepsRegistries w (w.prepared p) :=
  .of_eq fun g => @decideMethods_keeps σ w _ Services.registries (fun _ _ => rfl) p g

theorem keepsRegistries_admitted (p : Provider) (n : Nat) (counts : ExportCounts) :
    KeepsRegistries w (w.admitted p n counts) := by
  have hcounted := (keepsRegistries_prepared w p).trans
    (keepsRegistries_modifyServices (w.prepared p) p.group (f := fun t => { t with counts })
      fun _ => rfl)
  rw [admitted]
  split
  · exact hcounted
  · exact hcounted

theorem stocked_prime {g : Nat} {registries : List RegistryConfig}
    (hok : (prime ask g registries w).result = .ok ()) :
    (prime ask g registries w).world.Stocked g registries := by
  induction registries generalizing w with
  | nil => simp [Stocked]
  | cons r rs ih =>
    have hfirst := @registryFor_exists σ ask w g r
    rw [prime] at hok ⊢
    generalize registryFor ask g r w = found at hfirst hok ⊢
    obtain ⟨result, w₁⟩ := found
    cases result with
    | error e => cases hok
    | ok x =>
      intro r' hr'
      obtain rfl | hr' := List.mem_cons.1 hr'
      · exact keepsRegistries_prime ask w₁ g rs g r'.identity (hfirst rfl)
      · exact ih w₁ hok r' hr'

end Parts

section Courses

theorem keepsRegistries_announced (ask : Ask σ) (w : World σ) (p : Provider) (w₁ : World σ) :
    KeepsRegistries w₁ ((listening p (w.boundAfter ask p w₁)).announce ask p).outcome.world := by
  have hbind := keepsRegistries_bindServers ask w₁ p.config (w.nextInvoker p)
  have hlisten : KeepsRegistries (w.boundAfter ask p w₁).outcome.world
      (listening p (w.boundAfter ask p w₁)) := .of_eq fun _ => rfl
  exact (hbind.trans hlisten).trans (keepsRegistries_announce ask _ p)

/-- An attempt that succeeds has looked up all registries. -/
theorem stocked_attempt (hattempt : (w.attempt ask p).outcome.result = .ok ()) :
    (w.attempt ask p).outcome.world.Stocked p.group p.config.announcedIn := by
  have hcourse := attempt_course ask w p
  generalize w.attempt ask p = a at hcourse hattempt
  cases hcourse with
  | unprimed hprime => cases hattempt
  | unbound hprime hbound => rw [hbound] at hattempt; cases hattempt
  | @announced w₁ hprime hbound =>
    have hfound := @stocked_prime σ ask (w.openInvoker p) p.group p.config.announcedIn
    rw [hprime] at hfound
    exact (keepsRegistries_announced ask w p w₁).stocked (hfound rfl)

theorem keepsRegistries_attempt (ask : Ask σ) (w : World σ) (p : Provider) :
    KeepsRegistries w (w.attempt ask p).outcome.world :=
  attempt_keeps (P := KeepsRegistries w) (.of_eq fun _ => rfl)
    (fun w' _ _ h => h.trans (keepsRegistries_perform ask w' _)) (fun _ _ h => h) fun _ _ _ h => h

theorem keepsRegistries_release (w : World σ) (g : Nat) (k : ServiceKey) :
    KeepsRegistries w (w.release g k).2 :=
  keepsRegistries_modifyServices w g fun _ => rfl

theorem keepsRegistries_discard (ask : Ask σ) (w : World σ) (p : Provider) (a : Attempt σ) :
    KeepsRegistries w (w.discard ask p a) :=
  discard_keeps (P := KeepsRegistries w)
    (fun w' _ _ h => h.trans (keepsRegistries_perform ask w' _)) (fun _ _ _ h => h)
    (keepsRegistries_release _ p.group p.config.key)

theorem keepsRegistries_enlisted (w : World σ) (p : Provider) :
    KeepsRegistries w ((w.enlist p).modifyProvider p fun s => { s with published := true }) := by
  have henlisted : KeepsRegistries w (w.enlist p) :=
    keepsRegistries_modifyServices w p.group fun _ => rfl
  exact henlisted.trans (.of_eq fun _ => rfl)

theorem keepsRegistries_publishNow (ask : Ask σ) (w : World σ) (p : Provider) :
    KeepsRegistries w (w.publishNow ask p).world := by
  have hcourse := publishNow_course ask w p
  generalize w.publishNow ask p = outcome at hcourse
  cases hcourse with
  | already hpublished => exact .refl w
  | unfit hpublished hcheck => exact .refl w
  | refused hpublished hcheck hlimit => exact keepsRegistries_prepared w p
  | failed hpublished hcheck hlimit hattempt =>
    exact ((keepsRegistries_admitted w p _ _).trans (keepsRegistries_attempt ask _ p)).trans
      (keepsRegistries_discard ask _ p _)
  | @done hpublished hcheck n counts hlimit hattempt =>
    have hattempted := (keepsRegistries_admitted w p n counts).trans
      (keepsRegistries_attempt ask (w.admitted p n counts) p)
    exact hattempted.trans (keepsRegistries_enlisted _ p)

theorem keepsRegistries_withdraw (ask : Ask σ) (w : World σ) (p : Provider) :
    KeepsRegistries w (w.withdraw ask p) := by
  have hconcluded (w : World σ) : KeepsRegistries w (w.concluded p) := by
    have hreleased := keepsRegistries_release (w.setListener p.config none) p.group p.config.key
    have hdelisted (w : World σ) : KeepsRegistries w (w.delist p) :=
      keepsRegistries_modifyServices w p.group fun _ => rfl
    exact hreleased.trans (hdelisted _)
  exact withdraw_keeps (P := KeepsRegistries w)
    (fun w' _ _ h => h.trans (keepsRegistries_perform ask w' _)) (fun _ _ _ h => h)
    (.of_eq fun _ => rfl) (fun _ h => h) fun _ h => h.trans (hconcluded _)

/-- Whoever gets published has looked up all its registries on the way. -/
theorem stocked_publishNow (hpublished : w.isPublished p = false)
    (hok : (w.publishNow ask p).result = .ok ()) :
    (w.publishNow ask p).world.Stocked p.group p.config.announcedIn := by
  have hcourse := publishNow_course ask w p
  generalize w.publishNow ask p = outcome at hcourse hok
  cases hcourse with
  | already hlive => rw [hpublished] at hlive; cases hlive
  | unfit hpublished hcheck => cases hok
  | refused hpublished hcheck hlimit => cases hok
  | failed hpublished hcheck hlimit hattempt => cases hok
  | done hpublished hcheck hlimit hattempt =>
    exact (keepsRegistries_enlisted _ p).stocked (stocked_attempt hattempt)

/-- If the registries of all that are published exist, they still do after one more publication. -/
theorem stocked_publishNow_of_all {providers : List Provider}
    (hnumbers : (providers.map Provider.number).Nodup)
    (hstocked : ∀ q ∈ providers, w.isPublished q = true → w.Stocked q.group q.config.announcedIn)
    (hp : p ∈ providers) {q : Provider} (hq : q ∈ providers)
    (hlive : (w.publishNow ask p).world.isPublished q = true) :
    (w.publishNow ask p).world.Stocked q.group q.config.announcedIn := by
  cases hbefore : w.isPublished q with
  | true => exact (keepsRegistries_publishNow ask w p).stocked (hstocked q hq hbefore)
  | false =>
    obtain ⟨s, l, n, t, hrebooked⟩ := rebooked_publishNow ask w p
    by_cases hnumber : p.number = q.number
    · obtain rfl := List.inj_on_of_nodup_map hnumbers hp hq hnumber
      exact stocked_publishNow hbefore ((isPublished_publishNow ask w p).1 hlive)
    · rw [isPublished_rebooked hrebooked, if_neg hnumber, hbefore] at hlive
      cases hlive

end Courses

end World

/-- Besides what all reachable states have in common, the registries of published providers
exist. -/
structure Supplied (fleet : Fleet) (w : World σ) : Prop extends Standing fleet w where
  stocked : ∀ p ∈ fleet.members, w.isPublished p = true →
    w.Stocked p.group p.config.announcedIn

theorem supplied_start (fleet : Fleet) (outside : σ) : Supplied fleet (World.start outside) where
  toStanding := standing_start fleet outside
  stocked p _ hlive := by simp [World.start, isPublished, provider] at hlive

theorem Supplied.shrink (h : Supplied fleet w) (hstanding : Standing fleet w')
    (hkeeps : KeepsRegistries w w')
    (hpublished : ∀ q ∈ fleet.members, w'.isPublished q = true → w.isPublished q = true) :
    Supplied fleet w' where
  toStanding := hstanding
  stocked q hq hlive := hkeeps.stocked (h.stocked q hq (hpublished q hq hlive))

theorem Supplied.publishNow (h : Supplied fleet w) (hp : p ∈ fleet.members) :
    Supplied fleet (w.publishNow ask p).world where
  toStanding := h.toStanding.publishNow hp
  stocked _ hq hlive := stocked_publishNow_of_all fleet.numbered h.stocked hp hq hlive

theorem Supplied.withdraw (h : Supplied fleet w) (hp : p ∈ fleet.members) :
    Supplied fleet (w.withdraw ask p) := by
  exact h.shrink (h.toStanding.withdraw hp) (keepsRegistries_withdraw ask w p) fun q _ =>
    isPublished_of_withdraw

theorem Supplied.move (h : Supplied fleet w) (hmove : Move ask fleet w w') :
    Supplied fleet w' := by
  have hstanding := h.toStanding.move hmove
  cases hmove with
  | publish hp => exact h.publishNow hp
  | withdraw hp => exact h.withdraw hp
  | schedule hp due => exact h.shrink hstanding (.of_eq fun _ => rfl) fun _ _ => id
  | unschedule i => exact h.shrink hstanding (.of_eq fun _ => rfl) fun _ _ => id
  | write hwrite => exact h.shrink hstanding (.of_eq fun _ => rfl) fun _ _ => id
  | log hn => exact h.shrink hstanding (.of_eq fun _ => rfl) fun _ _ => id
  | build s =>
    have hkeeps : KeepsRegistries w (w.build ask s).world :=
      build_keeps (P := KeepsRegistries w)
        (fun w' h => h.trans (keepsRegistries_perform ask w' _)) (.refl w)
    refine h.shrink hstanding hkeeps fun q _ hlive => ?_
    rwa [(sameBooks_build ask w s).isPublished] at hlive
  | lookUp g r =>
    refine h.shrink hstanding (keepsRegistries_registryFor ask w g r) fun q _ hlive => ?_
    rwa [(sameBooks_registryFor ask w g r).isPublished] at hlive

theorem supplied_run (ask : Ask σ) (outside : σ) {ops : List Operation}
    (hops : ∀ op ∈ ops, op.Within fleet) :
    Supplied fleet (run ask ops (World.start outside)) :=
  run_keeps ask (fun _ h => h.toClosed) (fun _ _ h hmove => h.move hmove) hops
    (supplied_start fleet outside)

end ServicePublisher
