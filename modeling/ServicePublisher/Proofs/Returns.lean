import ServicePublisher.Proofs.Creations
import ServicePublisher.Proofs.Verdicts

/-! The way back, event by event. Every collaborator concerned is asked once, in the order of the
list, and every refusal is reported at once; no refusal keeps the others from being asked. -/
namespace ServicePublisher

open World

variable {σ α : Type} {ask : Ask σ} {w w' : World σ} {p : Provider}

/-- What is observed when collaborators are asked one after another, with their answers. -/
def roundOf (call : α → Call) (line : α → ProviderError → Notice)
    (told : List (α × Option ProviderError)) : List Event :=
  told.flatMap fun x => .call (call x.1) x.2 :: x.2.toList.map fun e => .notice (line x.1 e)

theorem exchanges_roundOf (call : α → Call) (line : α → ProviderError → Notice)
    (told : List (α × Option ProviderError)) :
    (roundOf call line told).filterMap Event.exchange? = told.map fun x => (call x.1, x.2) := by
  induction told with
  | nil => rfl
  | cons x told ih =>
    rw [roundOf] at ih
    rw [roundOf, List.flatMap_cons, List.filterMap_append, ih, List.map_cons]
    cases h : x.2 <;> simp [Event.exchange?]

/-- A sweep that asks some of its list is a round among these. -/
theorem sweep_round (ask : Ask σ) {visit : α → World σ → Outcome σ Unit}
    {report : World σ → α → ProviderError → World σ} {P : World σ → Prop} {asked : α → Bool}
    {call : α → Call} {line : α → ProviderError → Notice} {xs : List α}
    (hvisit : ∀ x ∈ xs, ∀ w, P w →
      visit x w = if asked x then w.perform ask (call x) else ⟨.ok (), w⟩)
    (hcall : ∀ w x, P w → P (w.perform ask (call x)).world)
    (hreport : ∀ w x e, report w x e = w.log (line x e)) (hlog : ∀ w n, P w → P (w.log n))
    {w : World σ} (h : P w) :
    ∃ told : List (α × Option ProviderError), told.map Prod.fst = xs.filter asked ∧
      (sweep visit report xs w).events = w.events ++ roundOf call line told := by
  induction xs generalizing w with
  | nil => exact ⟨[], rfl, (List.append_nil _).symm⟩
  | cons x xs ih =>
    have hrest := @ih fun y hy => hvisit y (List.mem_cons_of_mem x hy)
    rw [sweep, hvisit x List.mem_cons_self w h]
    by_cases hasked : asked x = true
    · have hkept := hcall w x h
      obtain ⟨-, hok, herror⟩ := events_perform ask w (call x)
      rw [if_pos hasked, List.filter_cons_of_pos hasked]
      generalize w.perform ask (call x) = outcome at hkept hok herror ⊢
      obtain ⟨result, w₁⟩ := outcome
      cases result with
      | ok u =>
        obtain ⟨told, htold, hevents⟩ := hrest hkept
        refine ⟨(x, none) :: told, by rw [List.map_cons, htold], ?_⟩
        have hfirst : w₁.events = w.events ++ [.call (call x) none] := hok rfl
        rw [hevents, hfirst, List.append_assoc]
        rfl
      | error e =>
        dsimp only
        rw [hreport]
        obtain ⟨told, htold, hevents⟩ := hrest (hlog w₁ (line x e) hkept)
        refine ⟨(x, some e) :: told, by rw [List.map_cons, htold], ?_⟩
        have hfirst : w₁.events = w.events ++ [.call (call x) (some e)] := herror e rfl
        rw [hevents, log, record, hfirst, List.append_assoc, List.append_assoc]
        rfl
    · rw [if_neg hasked, List.filter_cons_of_neg hasked]
      exact hrest h

section Rounds

variable (p)

/-- Retracting a provider from a registry that is known by another configuration or this one. -/
def Provider.retraction (view : ConfigView) (origin : RegistryConfig → RegistryConfig)
    (r : RegistryConfig) : Call :=
  .registry p.group (origin r) (.unregister view)

def Provider.retractionFailed (r : RegistryConfig) (e : ProviderError) : Notice :=
  .ofProvider p.config.appName p.config.key (.retractionFailed r.id e)

/-- Unbinding a provider from a server, which may close if it starts by itself. -/
def ServerConfig.unbinding (view : ConfigView) (s : ServerConfig) : Call :=
  .server s (.unregister view s.settings.autoStart)

def Provider.unbindingFailed (s : ServerConfig) (e : ProviderError) : Notice :=
  .ofProvider p.config.appName p.config.key (.unbindingFailed s.id e)

theorem retract_round (ask : Ask σ) {registries : List RegistryConfig}
    {origin : RegistryConfig → RegistryConfig}
    (hknown : ∀ r ∈ registries, w.origin? p.group r.identity = some (origin r)) :
    ∃ told : List (RegistryConfig × Option ProviderError), told.map Prod.fst = registries ∧
      (w.retract ask p registries).events = w.events ++
        roundOf (p.retraction (w.view p.config) origin) p.retractionFailed told := by
  suffices hround : ∃ told : List (RegistryConfig × Option ProviderError),
      told.map Prod.fst = registries.filter (fun _ => true) ∧
      (w.retract ask p registries).events = w.events ++
        roundOf (p.retraction (w.view p.config) origin) p.retractionFailed told by
    rwa [List.filter_true] at hround
  refine sweep_round ask (P := fun w' => w'.view p.config = w.view p.config ∧
    ∀ r ∈ registries, w'.origin? p.group r.identity = some (origin r)) ?_ ?_
    (fun _ _ _ => rfl) (fun _ _ h => h) ⟨rfl, hknown⟩
  · intro r hr w' h
    rw [retractFrom, registryFor_of_origin ask w' (h.2 r hr), if_pos rfl]
    dsimp only
    rw [h.1]
    rfl
  · intro w' r h
    refine ⟨((sameBooks_perform ask w' _).view p.config).trans h.1, fun r' hr' => ?_⟩
    rw [origin?_perform ask w' _ (by simp [Provider.retraction])]
    exact h.2 r' hr'

theorem unbindServers_round (ask : Ask σ) (w : World σ) (servers : List ServerConfig) :
    ∃ told : List (ServerConfig × Option ProviderError),
      told.map Prod.fst = servers.filter (fun s => w.servers.contains s.serial) ∧
      (w.unbindServers ask p.config servers).events = w.events ++
        roundOf (ServerConfig.unbinding (w.view p.config)) p.unbindingFailed told := by
  refine sweep_round ask (P := fun w' => w'.view p.config = w.view p.config ∧
    ∀ n, w'.servers.contains n = w.servers.contains n) ?_ ?_ (fun _ _ _ => rfl) (fun _ _ h => h)
    ⟨rfl, fun _ => rfl⟩
  · intro s _ w' h
    rw [unbindServer, h.1, h.2]
    rfl
  · intro w' s h
    refine ⟨((sameBooks_perform ask w' _).view p.config).trans h.1, fun n => ?_⟩
    rw [contains_perform, h.2]
    simp [ServerConfig.unbinding, serverMade?]

end Rounds

end ServicePublisher
