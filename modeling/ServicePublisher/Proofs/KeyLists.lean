import ServicePublisher.Proofs.Rebound
import ServicePublisher.Proofs.Verdicts

/-! Lists of keys. A registry lists keys in the order of their first registration. Whatever a
provider does, the keys of others stay in that order, and its own key comes and goes only in
registries in which the provider is announced. -/
namespace ServicePublisher

open World

variable {σ : Type} {ask : Ask σ} {w w' w'' : World σ} {p : Provider}

/-- A key is that of a provider, in a registry in which the provider is announced. -/
def Provider.Announces (p : Provider) (g : Nat) (identity : String) (k : ServiceKey) : Prop :=
  g = p.group ∧ (∃ r ∈ p.config.announcedIn, r.identity = identity) ∧ k = p.config.key

instance (p : Provider) (g : Nat) (identity : String) :
    DecidablePred (p.Announces g identity) := fun _ =>
  inferInstanceAs (Decidable (_ ∧ (∃ r ∈ p.config.announcedIn, r.identity = identity) ∧ _))

/-- The keys that a registry lists without regard to a provider; none if there is no registry. -/
def World.keysBeside (w : World σ) (p : Provider) (g : Nat) (identity : String) :
    List ServiceKey :=
  ((w.services g).registries[identity]?).elim [] fun x =>
    x.keys.filter fun k => ¬p.Announces g identity k

/-- The keys of others are listed as before. -/
structure KeepsKeys (p : Provider) (w w' : World σ) : Prop where
  filed : Filed w'
  keys : ∀ g identity, w'.keysBeside p g identity = w.keysBeside p g identity

namespace KeepsKeys

theorem refl (hfiled : Filed w) : KeepsKeys p w w := ⟨hfiled, fun _ _ => rfl⟩

theorem trans (h : KeepsKeys p w w') (h' : KeepsKeys p w' w'') : KeepsKeys p w w'' :=
  ⟨h'.filed, fun g identity => (h'.keys g identity).trans (h.keys g identity)⟩

theorem congr (h : KeepsKeys p w w')
    (hregistries : ∀ g, (w''.services g).registries = (w'.services g).registries) :
    KeepsKeys p w w'' := by
  refine h.trans ⟨fun g identity x hx => h.filed g identity x (by rwa [hregistries] at hx),
    fun g identity => ?_⟩
  rw [keysBeside, hregistries, keysBeside]

/-- A change of a list in which the provider is announced, but not of the keys of others. -/
theorem modifyRegistry (h : KeepsKeys p w w') {identity : String}
    (hannounced : ∃ r ∈ p.config.announcedIn, r.identity = identity)
    {f : List ServiceKey → List ServiceKey}
    (hf : ∀ keys, (f keys).filter (· ≠ p.config.key) = keys.filter (· ≠ p.config.key)) :
    KeepsKeys p w (w'.modifyRegistry p.group identity f) := by
  refine h.trans ⟨filed_modifyRegistry h.filed _ _ _, fun g identity' => ?_⟩
  rw [keysBeside, keysBeside, World.modifyRegistry, services_modifyServices]
  split
  · next hg =>
    subst hg
    simp only [Std.ExtTreeMap.getElem?_modify, Std.compare_eq_iff_eq]
    split
    · next hidentity =>
      subst hidentity
      cases (w'.services p.group).registries[identity]? with
      | none => rfl
      | some x => simpa [Provider.Announces, hannounced] using hf x.keys
    · rfl
  · rfl

/-- A registry is created only where there is none, and lists nothing then. -/
theorem registryFor (h : KeepsKeys p w w') (ask : Ask σ) (g : Nat) (r : RegistryConfig) :
    KeepsKeys p w (World.registryFor ask g r w').world := by
  refine h.trans ⟨(sameBindings_registryFor w' g r).filed h.filed, fun g' identity => ?_⟩
  rw [World.registryFor]
  split
  · rfl
  · next hnone =>
    have hcourse := perform_course ask w' (.registry g r .create)
    generalize w'.perform ask (.registry g r .create) = o at hcourse
    cases hcourse with
    | refused hanswer => rfl
    | accepted hanswer =>
      change ((w'.asked ask _).accept _).keysBeside p g' identity = _
      rw [accept, keysBeside, keysBeside, services_modifyServices]
      split
      · next hg =>
        subst hg
        simp only [services_asked, Std.ExtTreeMap.getElem?_insert, Std.compare_eq_iff_eq]
        split
        · next hidentity =>
          subst hidentity
          rw [hnone]
          rfl
        · rfl
      · rfl

/-- What a registry in which the provider is announced is asked about the provider. -/
theorem perform (h : KeepsKeys p w w') (ask : Ask σ) {x : RegistryConfig}
    (hx : ∃ r ∈ p.config.announcedIn, r.identity = x.identity) {request : RegistryRequest}
    (hrequest : request = .init ∨ request = .start ∨ request = .register (w'.view p.config) ∨
      request = .unregister (w'.view p.config)) :
    KeepsKeys p w (w'.perform ask (.registry p.group x request)).world := by
  have hasked : KeepsKeys p w (w'.asked ask (.registry p.group x request)) := h.congr fun _ => rfl
  have hcourse := perform_course ask w' (.registry p.group x request)
  generalize w'.perform ask (.registry p.group x request) = o at hcourse
  cases hcourse with
  | refused hanswer => exact hasked
  | accepted hanswer =>
    obtain rfl | rfl | rfl | rfl := hrequest
    · exact hasked
    · exact hasked
    · dsimp only
      rw [accept]
      refine hasked.modifyRegistry hx fun keys => ?_
      by_cases hmem : p.config.key ∈ keys <;> simp [view, hmem]
    · dsimp only
      rw [accept]
      refine hasked.modifyRegistry hx fun keys => ?_
      rw [List.filter_filter]
      exact List.filter_congr fun k _ => by by_cases hk : k = p.config.key <;> simp [view, hk]

theorem prime (h : KeepsKeys p w w') (ask : Ask σ) (g : Nat) (registries : List RegistryConfig) :
    KeepsKeys p w (World.prime ask g registries w').world := by
  induction registries generalizing w' with
  | nil => exact h
  | cons r rs ih =>
    have hfound := h.registryFor ask g r
    rw [World.prime]
    generalize World.registryFor ask g r w' = found at hfound ⊢
    obtain ⟨result, w₁⟩ := found
    cases result with
    | error e => exact hfound
    | ok x => exact ih hfound

theorem announceStop (h : KeepsKeys p w w') (ask : Ask σ) {r : RegistryConfig}
    (hr : r ∈ p.config.announcedIn) :
    KeepsKeys p w (World.announceStop ask p r w').outcome.world := by
  have hlooked := h.registryFor ask p.group r
  have hidentity := @registryFor_found σ ask w' h.filed p.group r
  rw [World.announceStop]
  dsimp only
  cases hfound : World.registryFor ask p.group r w' with
  | mk result w₁ =>
    rw [hfound] at hlooked hidentity
    cases result with
    | error e =>
      rw [announceIn, hfound]
      exact hlooked
    | ok x =>
      have hx : ∃ r ∈ p.config.announcedIn, r.identity = x.identity :=
        ⟨r, hr, (hidentity rfl).1.symm⟩
      refine announceIn_keeps_of_found hfound (fun w₂ request hrequest h => ?_) hlooked
      exact h.perform ask hx (by obtain h | h | h := hrequest <;> simp [h])

theorem announce (h : KeepsKeys p w w') (ask : Ask σ) :
    KeepsKeys p w (w'.announce ask p).outcome.world := by
  refine visitAll_keeps (fun _ hr _ h => h.announceStop ask hr) (fun r _ w' e h => ?_) h
  exact h.congr fun _ => rfl

theorem retractFrom (h : KeepsKeys p w w') (ask : Ask σ) {r : RegistryConfig}
    (hr : r ∈ p.config.announcedIn) :
    KeepsKeys p w (World.retractFrom ask p r w').world := by
  have hlooked := h.registryFor ask p.group r
  have hidentity := @registryFor_found σ ask w' h.filed p.group r
  rw [World.retractFrom]
  generalize World.registryFor ask p.group r w' = found at hlooked hidentity ⊢
  obtain ⟨result, w₁⟩ := found
  cases result with
  | error e => exact hlooked
  | ok x =>
    exact hlooked.perform ask ⟨r, hr, (hidentity rfl).1.symm⟩ (.inr (.inr (.inr rfl)))

theorem retract (h : KeepsKeys p w w') (ask : Ask σ) {registries : List RegistryConfig}
    (hregistries : ∀ r ∈ registries, r ∈ p.config.announcedIn) :
    KeepsKeys p w (w'.retract ask p registries) := by
  refine sweep_keeps (fun r hr _ h => h.retractFrom ask (hregistries r hr))
    (fun r _ w' e h => ?_) h
  exact h.congr fun _ => rfl

end KeepsKeys

section Courses

theorem keepsKeys_attempt (ask : Ask σ) (hfiled : Filed w) (p : Provider) :
    KeepsKeys p w (w.attempt ask p).outcome.world := by
  have hopened : KeepsKeys p w (w.openInvoker p) := (KeepsKeys.refl hfiled).congr fun _ => rfl
  have hprimed := hopened.prime ask p.group p.config.announcedIn
  have hcourse := attempt_course ask w p
  generalize w.attempt ask p = a at hcourse
  cases hcourse with
  | unprimed hprime =>
    rw [hprime] at hprimed
    exact hprimed
  | unbound hprime hbound =>
    rw [hprime] at hprimed
    exact hprimed.congr fun g => by rw [boundAfter, services_bindServers]
  | @announced w₁ hprime hbound =>
    rw [hprime] at hprimed
    have hbound : KeepsKeys p w (w.boundAfter ask p w₁).outcome.world :=
      hprimed.congr fun g => by rw [boundAfter, services_bindServers]
    have hlistening : KeepsKeys p w (listening p (w.boundAfter ask p w₁)) :=
      hbound.congr fun _ => rfl
    exact hlistening.announce ask

theorem registries_concluded (w : World σ) (p : Provider) (g : Nat) :
    ((w.concluded p).services g).registries = (w.services g).registries := by
  rw [concluded]
  exact (modifyServices_keeps _ p.group (fun t => { t with
      published := t.published.erase p.number }) (fun _ => rfl) g).trans
    (modifyServices_keeps (w.setListener p.config none) p.group (fun t => { t with
      counts := ((w.services p.group).counts.release p.config.key).2 }) (fun _ => rfl) g)

theorem keepsKeys_withdraw (ask : Ask σ) (hfiled : Filed w) (hlive : w.isPublished p = true) :
    KeepsKeys p w (w.withdraw ask p) := by
  have hwithdrawing : KeepsKeys p w (w.withdrawing p) :=
    (KeepsKeys.refl hfiled).congr fun _ => rfl
  have hretracted := hwithdrawing.retract ask fun _ => id
  rw [withdraw_published ask hlive]
  refine hretracted.congr fun g => ?_
  rw [registries_concluded, unlinked, services_unbindServers]
  rfl

end Courses

end ServicePublisher
