import ServicePublisher.Proofs.Courses
import ServicePublisher.Proofs.Walk

/-! Which calls and log lines each part of a publication or withdrawal consists of. Each statement
reads: a property of the state that these calls and lines keep is kept by the whole part. One log
line is told apart from all others, as it divides a publication: the one between the calls of the
servers and those of the registries. -/
namespace ServicePublisher

/-- The key whose processors have just been bound to servers, if a log line says so. -/
def Notice.boundKey? : Notice → Option ServiceKey
  | .ofProvider _ k (.processorBound _) => some k
  | _ => none

namespace World

variable {σ : Type} {ask : Ask σ} {P : World σ → Prop} {w : World σ} {p : Provider}
  {c : ProviderConfig} {v : Invoker} {g : Nat}

theorem build_keeps {s : ServerConfig}
    (hcall : ∀ w, P w → P (w.perform ask (.server s .create)).world) (h : P w) :
    P (w.build ask s).world := by
  rw [build]
  split
  · exact h
  · exact hcall w h

def BindingCall (c : ProviderConfig) (v : Invoker) (w : World σ) (request : ServerRequest) :
    Prop :=
  request = .create ∨ request = .register (w.view c) v ∨ request = .start

theorem bindServer_keeps {s : ServerConfig}
    (hcall : ∀ w request, BindingCall c v w request → P w →
      P (w.perform ask (.server s request)).world) (h : P w) :
    P (bindServer ask c v s w).outcome.world := by
  have hbuilt : P (w.build ask s).world := build_keeps (fun w => hcall w _ (.inl rfl)) h
  rw [bindServer]
  generalize w.build ask s = built at hbuilt ⊢
  obtain ⟨result, w₁⟩ := built
  cases result with
  | error e => exact hbuilt
  | ok u =>
    have hregistered := hcall w₁ _ (.inr (.inl rfl)) hbuilt
    dsimp only at hregistered ⊢
    generalize w₁.perform ask (.server s (.register (w₁.view c) v)) = registered
      at hregistered ⊢
    obtain ⟨result, w₂⟩ := registered
    cases result with
    | error e => exact hregistered
    | ok u =>
      dsimp only
      split
      · exact hcall w₂ _ (.inr (.inr rfl)) hregistered
      · exact hregistered

theorem bindServers_keeps
    (hcall : ∀ w, ∀ s ∈ c.servers, ∀ request, BindingCall c v w request → P w →
      P (w.perform ask (.server s request)).world)
    (hlog : ∀ w n, n.boundKey? = none → P w → P (w.log n)) (h : P w) :
    P (w.bindServers ask c v).outcome.world :=
  visitAll_keeps (fun s hs _ hw => bindServer_keeps (fun w => hcall w s hs) hw)
    (fun _ _ w _ hw => hlog w _ rfl hw) h

theorem unbindServers_keeps {servers : List ServerConfig}
    (hcall : ∀ w, ∀ s ∈ servers, P w →
      P (w.perform ask (.server s (.unregister (w.view c) s.settings.autoStart))).world)
    (hlog : ∀ w n, n.boundKey? = none → P w → P (w.log n)) (h : P w) :
    P (w.unbindServers ask c servers) := by
  refine sweep_keeps (fun s hs w hw => ?_) (fun s hs w e hw => hlog w _ rfl hw) h
  rw [unbindServer]
  split
  · exact hcall w s hs hw
  · exact hw

/-- A registry that is looked up is created unless it exists. -/
theorem registryFor_keeps {r : RegistryConfig}
    (hcall : ∀ w, P w → P (w.perform ask (.registry g r .create)).world)
    (hlog : ∀ w n, n.boundKey? = none → P w → P (w.log n)) (h : P w) :
    P (registryFor ask g r w).world := by
  rw [registryFor]
  split
  · exact h
  · have hcreated := hcall w h
    generalize w.perform ask (.registry g r .create) = created at hcreated ⊢
    obtain ⟨result, w₁⟩ := created
    cases result with
    | error e => exact hcreated
    | ok u => exact hlog w₁ _ rfl hcreated

theorem prime_keeps {registries : List RegistryConfig}
    (hcall : ∀ w, ∀ r ∈ registries, P w → P (w.perform ask (.registry g r .create)).world)
    (hlog : ∀ w n, n.boundKey? = none → P w → P (w.log n)) (h : P w) :
    P (prime ask g registries w).world := by
  induction registries generalizing w with
  | nil => exact h
  | cons r rs ih =>
    have hfound : P (registryFor ask g r w).world :=
      registryFor_keeps (fun w => hcall w r List.mem_cons_self) hlog h
    rw [prime]
    generalize registryFor ask g r w = found at hfound ⊢
    obtain ⟨result, w₁⟩ := found
    cases result with
    | error e => exact hfound
    | ok x => exact ih (fun w r' hr' => hcall w r' (List.mem_cons_of_mem r hr')) hfound

def AnnouncingCall (c : ProviderConfig) (w : World σ) (request : RegistryRequest) : Prop :=
  request = .create ∨ request = .init ∨ request = .start ∨ request = .register (w.view c)

/-- What is asked of a registry once it has been looked up. -/
theorem announceIn_keeps_of_found {r x : RegistryConfig} {w₁ : World σ}
    (hfound : registryFor ask p.group r w = ⟨.ok x, w₁⟩)
    (hcall : ∀ w request,
      request = .init ∨ request = .start ∨ request = .register (w.view p.config) →
      P w → P (w.perform ask (.registry p.group x request)).world) (h : P w₁) :
    P (announceIn ask p r w).world := by
  have hinit := hcall w₁ .init (.inl rfl) h
  rw [announceIn, hfound]
  dsimp only at hinit ⊢
  generalize w₁.perform ask (.registry p.group x .init) = init at hinit ⊢
  obtain ⟨result, w₂⟩ := init
  cases result with
  | error e => exact hinit
  | ok u =>
    have hstart := hcall w₂ .start (.inr (.inl rfl)) hinit
    dsimp only at hstart ⊢
    generalize w₂.perform ask (.registry p.group x .start) = start at hstart ⊢
    obtain ⟨result, w₃⟩ := start
    cases result with
    | error e => exact hstart
    | ok u => exact hcall w₃ _ (.inr (.inr rfl)) hstart

theorem announceStop_keeps {r : RegistryConfig}
    (hcall : ∀ w r request, AnnouncingCall p.config w request → P w →
      P (w.perform ask (.registry p.group r request)).world)
    (hlog : ∀ w n, n.boundKey? = none → P w → P (w.log n)) (h : P w) :
    P (announceStop ask p r w).outcome.world := by
  have hlooked : P (registryFor ask p.group r w).world :=
    registryFor_keeps (fun w => hcall w r _ (.inl rfl)) hlog h
  rw [announceStop]
  cases hfound : registryFor ask p.group r w with
  | mk result w₁ =>
    rw [hfound] at hlooked
    cases result with
    | error e =>
      rw [announceIn, hfound]
      exact hlooked
    | ok x =>
      exact announceIn_keeps_of_found hfound (fun w request h => hcall w x _ (.inr h)) hlooked

theorem announce_keeps
    (hcall : ∀ w r request, AnnouncingCall p.config w request → P w →
      P (w.perform ask (.registry p.group r request)).world)
    (hlog : ∀ w n, n.boundKey? = none → P w → P (w.log n)) (h : P w) :
    P (w.announce ask p).outcome.world :=
  visitAll_keeps (fun _ _ _ hw => announceStop_keeps hcall hlog hw)
    (fun _ _ w _ hw => hlog w _ rfl hw) h

def RetractingCall (c : ProviderConfig) (w : World σ) (request : RegistryRequest) : Prop :=
  request = .create ∨ request = .unregister (w.view c)

theorem retractFrom_keeps {r : RegistryConfig}
    (hcall : ∀ w r request, RetractingCall p.config w request → P w →
      P (w.perform ask (.registry p.group r request)).world)
    (hlog : ∀ w n, n.boundKey? = none → P w → P (w.log n)) (h : P w) :
    P (retractFrom ask p r w).world := by
  have hfound : P (registryFor ask p.group r w).world :=
    registryFor_keeps (fun w => hcall w r _ (.inl rfl)) hlog h
  rw [retractFrom]
  generalize registryFor ask p.group r w = found at hfound ⊢
  obtain ⟨result, w₁⟩ := found
  cases result with
  | error e => exact hfound
  | ok x => exact hcall w₁ x _ (.inr rfl) hfound

theorem retract_keeps {registries : List RegistryConfig}
    (hcall : ∀ w r request, RetractingCall p.config w request → P w →
      P (w.perform ask (.registry p.group r request)).world)
    (hlog : ∀ w n, n.boundKey? = none → P w → P (w.log n)) (h : P w) :
    P (w.retract ask p registries) :=
  sweep_keeps (fun _ _ _ hw => retractFrom_keeps hcall hlog hw)
    (fun _ _ w _ hw => hlog w _ rfl hw) h

def AttemptingCall (p : Provider) (v : Invoker) (w : World σ) : Call → Prop
  | .server s request => s ∈ p.config.servers ∧ BindingCall p.config v w request
  | .registry g _ request => g = p.group ∧ AnnouncingCall p.config w request

theorem attempt_keeps (hopen : P (w.openInvoker p))
    (hcall : ∀ w' c, AttemptingCall p (w.nextInvoker p) w' c → P w' → P (w'.perform ask c).world)
    (hlisten : ∀ w n, P w →
      P ((w.report p.config (.processorBound n)).setListener p.config (some (.republish p))))
    (hlog : ∀ w n, n.boundKey? = none → P w → P (w.log n)) :
    P (w.attempt ask p).outcome.world := by
  have hprimed : P (prime ask p.group p.config.announcedIn (w.openInvoker p)).world :=
    prime_keeps (fun w' _ _ => hcall w' _ ⟨rfl, .inl rfl⟩) hlog hopen
  have hbound (w₁ : World σ) (h : P w₁) : P (w.boundAfter ask p w₁).outcome.world :=
    bindServers_keeps (fun w' _ hs _ hrequest => hcall w' _ ⟨hs, hrequest⟩) hlog h
  have hcourse := attempt_course ask w p
  generalize w.attempt ask p = a at hcourse ⊢
  cases hcourse with
  | unprimed hprime =>
    rw [hprime] at hprimed
    exact hprimed
  | unbound hprime hended =>
    rw [hprime] at hprimed
    exact hbound _ hprimed
  | announced hprime hserved =>
    rw [hprime] at hprimed
    exact announce_keeps (fun w' _ _ hrequest => hcall w' _ ⟨rfl, hrequest⟩) hlog
      (hlisten _ _ (hbound _ hprimed))

def ReleasingCall (p : Provider) (w : World σ) : Call → Prop
  | .server s request => request = .unregister (w.view p.config) s.settings.autoStart
  | .registry g _ request => g = p.group ∧ RetractingCall p.config w request

section Releases

variable (hcall : ∀ w c, ReleasingCall p w c → P w → P (w.perform ask c).world)
  (hlog : ∀ w n, n.boundKey? = none → P w → P (w.log n))
include hcall hlog

theorem discard_keeps {a : Attempt σ}
    (hclosed : P (((w.setListener p.config none).closeInvoker p).release p.group p.config.key).2) :
    P (w.discard ask p a) := by
  rw [discard]
  dsimp only
  split
  · exact hlog _ _ rfl hclosed
  · exact unbindServers_keeps (fun w' _ _ => hcall w' _ rfl) hlog
      (retract_keeps (fun w' _ _ hrequest => hcall w' _ ⟨rfl, hrequest⟩) hlog hclosed)

theorem withdraw_keeps
    (hraised : P (w.modifyProvider p fun s => { s with epoch := s.epoch + 1 }))
    (hclose : ∀ w, P w → P (w.closeInvoker p)) (hconclude : ∀ w, P w → P (w.concluded p)) :
    P (w.withdraw ask p) := by
  cases hpublished : w.isPublished p with
  | false => rwa [withdraw_unpublished ask hpublished]
  | true =>
    have hretracted : P ((w.withdrawing p).retract ask p p.config.announcedIn) :=
      retract_keeps (fun w' _ _ hrequest => hcall w' _ ⟨rfl, hrequest⟩) hlog (hlog _ _ rfl hraised)
    have hunlinked : P (w.unlinked ask p) :=
      unbindServers_keeps (fun w' _ _ => hcall w' _ rfl) hlog (hclose _ hretracted)
    rw [withdraw_published ask hpublished]
    exact hconclude _ hunlinked

end Releases

end World

end ServicePublisher
