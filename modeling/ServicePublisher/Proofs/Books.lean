import ServicePublisher.Proofs.Calls
import ServicePublisher.Proofs.Courses

/-! The books of the publisher: what it keeps of configurations, providers, groups and its schedule.
Collaborators have no part in them. No call changes the books, whatever its answer, and neither does
any walk over collaborators. -/
namespace ServicePublisher

namespace World

variable {σ : Type}

/-- Two states with the same books differ at most in the collaborators and in what was observed. -/
structure SameBooks (w w' : World σ) : Prop where
  configs : w'.configs = w.configs
  providers : w'.providers = w.providers
  scheduled : w'.scheduled = w.scheduled
  clock : w'.clock = w.clock
  counts : ∀ g, (w'.services g).counts = (w.services g).counts
  published : ∀ g, (w'.services g).published = (w.services g).published
  args : ∀ g, (w'.services g).args = (w.services g).args

namespace SameBooks

variable {w w' w'' : World σ}

theorem refl (w : World σ) : SameBooks w w :=
  ⟨rfl, rfl, rfl, rfl, fun _ => rfl, fun _ => rfl, fun _ => rfl⟩

theorem trans (h : SameBooks w w') (h' : SameBooks w' w'') : SameBooks w w'' where
  configs := h'.configs.trans h.configs
  providers := h'.providers.trans h.providers
  scheduled := h'.scheduled.trans h.scheduled
  clock := h'.clock.trans h.clock
  counts g := (h'.counts g).trans (h.counts g)
  published g := (h'.published g).trans (h.published g)
  args g := (h'.args g).trans (h.args g)

theorem config (h : SameBooks w w') (c : ProviderConfig) : w'.config c = w.config c := by
  rw [World.config, World.config, h.configs]

theorem provider (h : SameBooks w w') (p : Provider) : w'.provider p = w.provider p := by
  rw [World.provider, World.provider, h.providers]

theorem isPublished (h : SameBooks w w') (p : Provider) : w'.isPublished p = w.isPublished p := by
  rw [World.isPublished, World.isPublished, h.provider]

theorem view (h : SameBooks w w') (c : ProviderConfig) : w'.view c = w.view c := by
  rw [World.view, World.view, h.config]

end SameBooks

theorem sameBooks_record (w : World σ) (e : Event) : SameBooks w (w.record e) :=
  ⟨rfl, rfl, rfl, rfl, fun _ => rfl, fun _ => rfl, fun _ => rfl⟩

/-- Registries of a group are no part of the books. -/
theorem sameBooks_modifyServices (w : World σ) (g : Nat) {f : Services → Services}
    (hcounts : ∀ t, (f t).counts = t.counts) (hpublished : ∀ t, (f t).published = t.published)
    (hargs : ∀ t, (f t).args = t.args) : SameBooks w (w.modifyServices g f) :=
  ⟨rfl, rfl, rfl, rfl, modifyServices_keeps w g f hcounts, modifyServices_keeps w g f hpublished,
    modifyServices_keeps w g f hargs⟩

theorem sameBooks_modifyRegistry (w : World σ) (g : Nat) (identity : String)
    (f : List ServiceKey → List ServiceKey) : SameBooks w (w.modifyRegistry g identity f) :=
  sameBooks_modifyServices w g (fun _ => rfl) (fun _ => rfl) fun _ => rfl

theorem sameBooks_accept (w : World σ) (c : Call) : SameBooks w (w.accept c) := by
  cases c with
  | server s request =>
    cases request <;> exact ⟨rfl, rfl, rfl, rfl, fun _ => rfl, fun _ => rfl, fun _ => rfl⟩
  | registry g r request =>
    cases request with
    | init => exact SameBooks.refl w
    | start => exact SameBooks.refl w
    | create =>
      rw [accept]
      exact sameBooks_modifyServices w g (fun _ => rfl) (fun _ => rfl) fun _ => rfl
    | register view =>
      rw [accept]
      exact sameBooks_modifyRegistry w g r.identity _
    | unregister view =>
      rw [accept]
      exact sameBooks_modifyRegistry w g r.identity _

variable (ask : Ask σ)

theorem sameBooks_perform (w : World σ) (c : Call) : SameBooks w (w.perform ask c).world := by
  rw [perform]
  have hasked : SameBooks w ({ w with outside := (ask c w.outside).2 }.record
      (.call c (ask c w.outside).1)) :=
    ⟨rfl, rfl, rfl, rfl, fun _ => rfl, fun _ => rfl, fun _ => rfl⟩
  cases hanswer : (ask c w.outside).1 with
  | none => simpa only [hanswer] using hasked.trans (sameBooks_accept _ c)
  | some e => simpa only [hanswer] using hasked

theorem sameBooks_build (w : World σ) (s : ServerConfig) : SameBooks w (w.build ask s).world :=
  build_keeps (fun w' h => h.trans (sameBooks_perform ask w' _)) (SameBooks.refl w)

theorem sameBooks_registryFor (w : World σ) (g : Nat) (r : RegistryConfig) :
    SameBooks w (registryFor ask g r w).world :=
  registryFor_keeps (fun w' h => h.trans (sameBooks_perform ask w' _))
    (fun w' _ _ h => h.trans (sameBooks_record w' _)) (SameBooks.refl w)

theorem sameBooks_bindServers (w : World σ) (c : ProviderConfig) (v : Invoker) :
    SameBooks w (w.bindServers ask c v).outcome.world :=
  bindServers_keeps (fun w' _ _ _ _ h => h.trans (sameBooks_perform ask w' _))
    (fun w' _ _ h => h.trans (sameBooks_record w' _)) (SameBooks.refl w)

theorem sameBooks_unbindServers (w : World σ) (c : ProviderConfig) (servers : List ServerConfig) :
    SameBooks w (w.unbindServers ask c servers) :=
  unbindServers_keeps (fun w' _ _ h => h.trans (sameBooks_perform ask w' _))
    (fun w' _ _ h => h.trans (sameBooks_record w' _)) (SameBooks.refl w)

theorem sameBooks_prime (w : World σ) (g : Nat) (registries : List RegistryConfig) :
    SameBooks w (prime ask g registries w).world :=
  prime_keeps (fun w' _ _ h => h.trans (sameBooks_perform ask w' _))
    (fun w' _ _ h => h.trans (sameBooks_record w' _)) (SameBooks.refl w)

theorem sameBooks_announce (w : World σ) (p : Provider) :
    SameBooks w (w.announce ask p).outcome.world :=
  announce_keeps (fun w' _ _ _ h => h.trans (sameBooks_perform ask w' _))
    (fun w' _ _ h => h.trans (sameBooks_record w' _)) (SameBooks.refl w)

theorem sameBooks_retract (w : World σ) (p : Provider) (registries : List RegistryConfig) :
    SameBooks w (w.retract ask p registries) :=
  retract_keeps (fun w' _ _ _ h => h.trans (sameBooks_perform ask w' _))
    (fun w' _ _ h => h.trans (sameBooks_record w' _)) (SameBooks.refl w)

end World

end ServicePublisher
