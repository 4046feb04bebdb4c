import ServicePublisher.Proofs.Courses
import ServicePublisher.Proofs.Exchanges

/-! Providers that differ in their delay only. A publication that happens at once and a withdrawal
do not look at the delay: two such providers make the same calls, up to the delay that these show,
and if the answers are the same they go through the same states. -/
namespace ServicePublisher

def ProviderConfig.withDelay (c : ProviderConfig) (n : Nat) : ProviderConfig :=
  { c with delayMs := n }

def Provider.withDelay (p : Provider) (n : Nat) : Provider :=
  { p with config := p.config.withDelay n }

namespace Provider

variable (p : Provider) (n : Nat)

@[simp] theorem group_withDelay : (p.withDelay n).group = p.group := rfl

@[simp] theorem id_withDelay : (p.withDelay n).config.id = p.config.id := rfl

@[simp] theorem key_withDelay : (p.withDelay n).config.key = p.config.key := rfl

@[simp] theorem check_withDelay : (p.withDelay n).config.check = p.config.check := rfl

@[simp] theorem announcedIn_withDelay :
    (p.withDelay n).config.announcedIn = p.config.announcedIn := rfl

@[simp] theorem repeatLimit_withDelay :
    (p.withDelay n).config.repeatLimit = p.config.repeatLimit := rfl

end Provider

def Invoker.withDelay (v : Invoker) (n : Nat) : Invoker := { v with config := v.config.withDelay n }

def Listener.withDelay (n : Nat) : Listener → Listener
  | .republish p => .republish (p.withDelay n)
  | .recorder answer => .recorder answer

def ConfigView.withDelay (view : ConfigView) (n : Nat) : ConfigView :=
  { view with config := view.config.withDelay n }

def Call.withDelay (n : Nat) : Call → Call
  | .server s (.register view v) => .server s (.register (view.withDelay n) (v.withDelay n))
  | .server s (.unregister view close) => .server s (.unregister (view.withDelay n) close)
  | .registry g r (.register view) => .registry g r (.register (view.withDelay n))
  | .registry g r (.unregister view) => .registry g r (.unregister (view.withDelay n))
  | c => c

def Exchange.withDelay (n : Nat) (x : Exchange) : Exchange := (x.1.withDelay n, x.2)

def ProviderState.withDelay (n : Nat) (s : ProviderState) : ProviderState :=
  { s with invoker := s.invoker.map (·.withDelay n) }

def ConfigState.withDelay (n : Nat) (s : ConfigState) : ConfigState :=
  { s with listener := s.listener.map (Listener.withDelay n) }

/-- Collaborators that answer every call as if the provider had the given delay. -/
def Ask.forDelay {σ : Type} (ask : Ask σ) (d : Nat) : Ask σ := fun c => ask (c.withDelay d)

open World

variable {σ : Type} {ask : Ask σ} {p : Provider} {n : Nat} {past : List Exchange} {w w' : World σ}

/-- Two states that are the same up to the delay, but for the clock, the schedule and the log. Since
the past the same calls have been made, on behalf of a provider and on behalf of the same one with
another delay. -/
structure Alike (n : Nat) (past : List Exchange) (w w' : World σ) : Prop where
  outside : w'.outside = w.outside
  config : ∀ c, (w'.config c).withDelay n = (w.config c).withDelay n
  provider : ∀ q, (w'.provider q).withDelay n = (w.provider q).withDelay n
  servers : ∀ m, w'.servers.contains m = w.servers.contains m
  counts : ∀ g, (w'.services g).counts = (w.services g).counts
  registries : ∀ g, (w'.services g).registries = (w.services g).registries
  published : ∀ g (m : Nat), ((w'.services g).published[m]?.map fun q => q.withDelay n) =
    (w.services g).published[m]?.map fun q => q.withDelay n
  args : ∀ g, (w'.services g).args = (w.services g).args
  exchanges : ∃ made, w.exchanges = past ++ made ∧
    w'.exchanges = past ++ made.map (Exchange.withDelay n)

theorem alike_refl (n : Nat) (w : World σ) : Alike n w.exchanges w w :=
  ⟨rfl, fun _ => rfl, fun _ => rfl, fun _ => rfl, fun _ => rfl, fun _ => rfl, fun _ _ => rfl,
    fun _ => rfl, [], by simp⟩

inductive AlikeOutcomes {α : Type} (n : Nat) (past : List Exchange) :
    Outcome σ α → Outcome σ α → Prop
  | ok {a : α} {w w' : World σ} (h : Alike n past w w') :
      AlikeOutcomes n past ⟨.ok a, w⟩ ⟨.ok a, w'⟩
  | error {e : ProviderError} {w w' : World σ} (h : Alike n past w w') :
      AlikeOutcomes n past ⟨.error e, w⟩ ⟨.error e, w'⟩

theorem AlikeOutcomes.world {α : Type} {o o' : Outcome σ α} (h : AlikeOutcomes n past o o') :
    Alike n past o.world o'.world := by
  cases h with
  | ok h => exact h
  | error h => exact h

inductive AlikeStops (n : Nat) (past : List Exchange) : Stop σ → Stop σ → Prop
  | mk {accepted : Bool} {o o' : Outcome σ Unit} (h : AlikeOutcomes n past o o') :
      AlikeStops n past ⟨accepted, o⟩ ⟨accepted, o'⟩

inductive AlikeWalks {α : Type} (n : Nat) (past : List Exchange) : Walk σ α → Walk σ α → Prop
  | mk {accepted : List α} {served : Nat} {o o' : Outcome σ Unit} (h : AlikeOutcomes n past o o') :
      AlikeWalks n past ⟨accepted, served, o⟩ ⟨accepted, served, o'⟩

inductive AlikeAttempts (n : Nat) (past : List Exchange) : Attempt σ → Attempt σ → Prop
  | mk {servers : List ServerConfig} {registries : List RegistryConfig} {o o' : Outcome σ Unit}
      (h : AlikeOutcomes n past o o') :
      AlikeAttempts n past ⟨servers, registries, o⟩ ⟨servers, registries, o'⟩

theorem discard_eq (ask : Ask σ) (w : World σ) (p : Provider) (a : Attempt σ) :
    w.discard ask p a =
      let released := ((w.setListener p.config none).closeInvoker p).release p.group p.config.key
      if 0 < released.1 then released.2.report p.config (.bindingsKept released.1)
      else (released.2.retract ask p a.registries).unbindServers ask p.config a.servers := rfl

namespace Alike

section Updates

theorem log_left (h : Alike n past w w') (m : Notice) : Alike n past (w.log m) w' :=
  ⟨h.outside, h.config, h.provider, h.servers, h.counts, h.registries, h.published, h.args, by
    rw [exchanges_log]
    exact h.exchanges⟩

theorem log (h : Alike n past w w') (m m' : Notice) : Alike n past (w.log m) (w'.log m') :=
  ⟨h.outside, h.config, h.provider, h.servers, h.counts, h.registries, h.published, h.args, by
    rw [exchanges_log, exchanges_log]
    exact h.exchanges⟩

theorem modifyProvider (h : Alike n past w w') (p : Provider) {f f' : ProviderState → ProviderState}
    (hf : (f' (w'.provider p)).withDelay n = (f (w.provider p)).withDelay n) :
    Alike n past (w.modifyProvider p f) (w'.modifyProvider (p.withDelay n) f') where
  outside := h.outside
  config := h.config
  provider q := by
    rw [provider_modifyProvider, provider_modifyProvider]
    change (if p.number = q.number then f' (w'.provider p) else w'.provider q).withDelay n = _
    split
    · exact hf
    · exact h.provider q
  servers := h.servers
  counts := h.counts
  registries := h.registries
  published := h.published
  args := h.args
  exchanges := h.exchanges

theorem modifyConfig (h : Alike n past w w') (p : Provider) {f f' : ConfigState → ConfigState}
    (hf : (f' (w'.config p.config)).withDelay n = (f (w.config p.config)).withDelay n) :
    Alike n past (w.modifyConfig p.config f) (w'.modifyConfig (p.withDelay n).config f') where
  outside := h.outside
  config c := by
    rw [config_modifyConfig, config_modifyConfig]
    change (if p.config.serial = c.serial then f' (w'.config p.config) else w'.config c).withDelay n
      = _
    split
    · exact hf
    · exact h.config c
  provider := h.provider
  servers := h.servers
  counts := h.counts
  registries := h.registries
  published := h.published
  args := h.args
  exchanges := h.exchanges

theorem modifyServices (h : Alike n past w w') (g : Nat) (f f' : Services → Services)
    (hcounts : (f' (w'.services g)).counts = (f (w.services g)).counts)
    (hregistries : (f' (w'.services g)).registries = (f (w.services g)).registries)
    (hpublished : ∀ m : Nat, ((f' (w'.services g)).published[m]?.map fun q => q.withDelay n) =
      (f (w.services g)).published[m]?.map fun q => q.withDelay n)
    (hargs : (f' (w'.services g)).args = (f (w.services g)).args) :
    Alike n past (w.modifyServices g f) (w'.modifyServices g f') where
  outside := h.outside
  config := h.config
  provider := h.provider
  servers := h.servers
  counts g' := by
    rw [services_modifyServices, services_modifyServices]
    split
    · exact hcounts
    · exact h.counts g'
  registries g' := by
    rw [services_modifyServices, services_modifyServices]
    split
    · exact hregistries
    · exact h.registries g'
  published g' m := by
    rw [services_modifyServices, services_modifyServices]
    split
    · exact hpublished m
    · exact h.published g' m
  args g' := by
    rw [services_modifyServices, services_modifyServices]
    split
    · exact hargs
    · exact h.args g'
  exchanges := h.exchanges

end Updates

section Reading

variable (h : Alike n past w w')
include h

theorem isPublished (p : Provider) : w'.isPublished p = w.isPublished p := by
  have hsame := congrArg ProviderState.published (h.provider p)
  exact hsame

theorem attempts (p : Provider) : (w'.provider p).attempts = (w.provider p).attempts := by
  have hsame := congrArg ProviderState.attempts (h.provider p)
  exact hsame

theorem epoch (p : Provider) : (w'.provider p).epoch = (w.provider p).epoch := by
  have hsame := congrArg ProviderState.epoch (h.provider p)
  exact hsame

theorem view (p : Provider) : w'.view (p.withDelay n).config = (w.view p.config).withDelay n := by
  have hattributes : (w'.config p.config).attributes = (w.config p.config).attributes := by
    have hsame := congrArg ConfigState.attributes (h.config p.config)
    exact hsame
  rw [World.view, World.view, ConfigView.withDelay, ← hattributes]
  rfl

theorem nextInvoker (p : Provider) :
    w'.nextInvoker (p.withDelay n) = (w.nextInvoker p).withDelay n := by
  rw [World.nextInvoker, World.nextInvoker, Invoker.withDelay, ← h.attempts p]
  rfl

end Reading

section Calls

theorem asked (h : Alike n past w w') {c : Call}
    (hown : (c.withDelay n).withDelay p.config.delayMs = c) :
    Alike n past (w.asked ask c) (w'.asked (ask.forDelay p.config.delayMs) (c.withDelay n)) := by
  have hsame : ask.forDelay p.config.delayMs (c.withDelay n) w'.outside = ask c w.outside := by
    rw [Ask.forDelay, hown, h.outside]
  refine ⟨?_, h.config, h.provider, h.servers, h.counts, h.registries, h.published, h.args, ?_⟩
  · exact congrArg Prod.snd hsame
  · obtain ⟨made, hmade, hmade'⟩ := h.exchanges
    refine ⟨made ++ [(c, (ask c w.outside).1)], ?_, ?_⟩
    · rw [exchanges_asked, hmade, List.append_assoc]
    · rw [exchanges_asked, hmade', hsame, List.map_append, List.append_assoc]
      rfl

theorem accept (h : Alike n past w w') (c : Call) :
    Alike n past (w.accept c) (w'.accept (c.withDelay n)) := by
  have hserver (serial : Nat) (f f' : Processors → Processors) :
      Alike n past (w.modifyServer serial f) (w'.modifyServer serial f') := by
    refine ⟨h.outside, h.config, h.provider, fun m => ?_, h.counts, h.registries, h.published,
      h.args, h.exchanges⟩
    simp only [modifyServer, Std.ExtTreeMap.contains_modify]
    exact h.servers m
  have hregistry (g : Nat)
      (f : Std.ExtTreeMap String RegistryState → Std.ExtTreeMap String RegistryState) :
      Alike n past (w.modifyServices g fun t => { t with registries := f t.registries })
        (w'.modifyServices g fun t => { t with registries := f t.registries }) := by
    refine h.modifyServices g _ _ (h.counts g) ?_ (h.published g) (h.args g)
    dsimp only
    rw [h.registries]
  cases c with
  | server s request =>
    cases request with
    | create =>
      refine ⟨h.outside, h.config, h.provider, fun m => ?_, h.counts, h.registries, h.published,
        h.args, h.exchanges⟩
      change (w'.servers.insert s.serial ∅).contains m = (w.servers.insert s.serial ∅).contains m
      simp only [Std.ExtTreeMap.contains_insert, h.servers]
    | register view v => exact hserver s.serial _ _
    | start => exact h
    | unregister view close => exact hserver s.serial _ _
  | registry g r request =>
    cases request with
    | create => exact hregistry g fun x => x.insert r.identity ⟨r, []⟩
    | init => exact h
    | start => exact h
    | register view =>
      exact hregistry g fun x => x.modify r.identity fun x => { x with
        keys := if view.config.key ∈ x.keys then x.keys else x.keys ++ [view.config.key] }
    | unregister view =>
      exact hregistry g fun x => x.modify r.identity fun x => { x with
        keys := x.keys.filter (· ≠ view.config.key) }

/-- A call on behalf of the provider gets the same answer. -/
theorem perform (h : Alike n past w w') {c : Call}
    (hown : (c.withDelay n).withDelay p.config.delayMs = c) :
    AlikeOutcomes n past (w.perform ask c)
      (w'.perform (ask.forDelay p.config.delayMs) (c.withDelay n)) := by
  have hasked := @asked σ ask p n past w w' h c hown
  have hsame : (ask.forDelay p.config.delayMs (c.withDelay n) w'.outside).1 =
      (ask c w.outside).1 := by
    rw [Ask.forDelay, hown, h.outside]
  have hcourse := perform_course ask w c
  have hcourse' := perform_course (ask.forDelay p.config.delayMs) w' (c.withDelay n)
  generalize w.perform ask c = o at hcourse ⊢
  generalize w'.perform (ask.forDelay p.config.delayMs) (c.withDelay n) = o' at hcourse' ⊢
  cases hcourse with
  | accepted hanswer =>
    cases hcourse' with
    | accepted hanswer' => exact .ok (hasked.accept c)
    | refused hanswer' => simp [hsame, hanswer] at hanswer'
  | refused hanswer =>
    cases hcourse' with
    | accepted hanswer' => simp [hsame, hanswer] at hanswer'
    | refused hanswer' =>
      rw [hsame, hanswer] at hanswer'
      cases hanswer'
      exact .error hasked

end Calls

section Walks

theorem visitAll {α : Type} {visit visit' : α → World σ → Stop σ}
    {report report' : World σ → α → ProviderError → World σ} {xs : List α}
    (hvisit : ∀ x w w', Alike n past w w' → AlikeStops n past (visit x w) (visit' x w'))
    (hreport : ∀ x e w w', Alike n past w w' → Alike n past (report w x e) (report' w' x e))
    (h : Alike n past w w') :
    AlikeWalks n past (ServicePublisher.visitAll visit report xs w)
      (ServicePublisher.visitAll visit' report' xs w') := by
  induction xs generalizing w w' with
  | nil => exact .mk (.ok h)
  | cons x xs ih =>
    have hstop := hvisit x w w' h
    have hafter {walk walk' : Walk σ α} (h : AlikeWalks n past walk walk') (here : List α)
        (served : Nat) : AlikeWalks n past (walk.after here served) (walk'.after here served) := by
      cases h with
      | mk h => exact .mk h
    rw [ServicePublisher.visitAll, ServicePublisher.visitAll]
    generalize visit x w = stop, visit' x w' = stop' at hstop ⊢
    cases hstop with
    | mk hstop =>
      cases hstop with
      | ok h => exact hafter (ih h) _ 1
      | @error e w₁ w₁' h =>
        dsimp only
        split
        · exact .mk (.error h)
        · exact hafter (ih (hreport x e w₁ w₁' h)) _ 0

theorem sweep {α : Type} {visit visit' : α → World σ → Outcome σ Unit}
    {report report' : World σ → α → ProviderError → World σ} {xs : List α}
    (hvisit : ∀ x w w', Alike n past w w' → AlikeOutcomes n past (visit x w) (visit' x w'))
    (hreport : ∀ x e w w', Alike n past w w' → Alike n past (report w x e) (report' w' x e))
    (h : Alike n past w w') :
    Alike n past (ServicePublisher.sweep visit report xs w)
      (ServicePublisher.sweep visit' report' xs w') := by
  induction xs generalizing w w' with
  | nil => exact h
  | cons x xs ih =>
    have hfirst := hvisit x w w' h
    rw [ServicePublisher.sweep, ServicePublisher.sweep]
    generalize visit x w = o, visit' x w' = o' at hfirst ⊢
    cases hfirst with
    | ok h => exact ih h
    | error h => exact ih (hreport x _ _ _ h)

end Walks

section Bindings

variable (ask p)

theorem build (h : Alike n past w w') (s : ServerConfig) :
    AlikeOutcomes n past (w.build ask s) (w'.build (ask.forDelay p.config.delayMs) s) := by
  rw [World.build, World.build, h.servers]
  split
  · exact .ok h
  · exact @perform σ ask p n past w w' h (.server s .create) rfl

theorem bindServer (h : Alike n past w w') {v : Invoker} (hv : v.config = p.config)
    (s : ServerConfig) :
    AlikeStops n past (World.bindServer ask p.config v s w)
      (World.bindServer (ask.forDelay p.config.delayMs) (p.withDelay n).config (v.withDelay n) s
        w') := by
  have hbuilt := h.build ask p s
  rw [World.bindServer, World.bindServer]
  generalize w.build ask s = o, w'.build (ask.forDelay p.config.delayMs) s = o' at hbuilt ⊢
  cases hbuilt with
  | error h => exact .mk (.error h)
  | @ok _ w₁ w₁' h =>
    have hregistered := @perform σ ask p n past w₁ w₁' h
      (.server s (.register (w₁.view p.config) v))
      (by obtain ⟨provider, attempt, config, policy⟩ := v; cases hv; rfl)
    dsimp only
    rw [h.view p]
    change AlikeOutcomes n past _ (w₁'.perform _ (.server s (.register
      ((w₁.view p.config).withDelay n) (v.withDelay n)))) at hregistered
    generalize w₁.perform ask (.server s (.register (w₁.view p.config) v)) = o,
      w₁'.perform (ask.forDelay p.config.delayMs) (.server s (.register
        ((w₁.view p.config).withDelay n) (v.withDelay n))) = o' at hregistered ⊢
    cases hregistered with
    | error h => exact .mk (.error h)
    | @ok _ w₂ w₂' h =>
      refine .mk ?_
      split
      · exact @perform σ ask p n past w₂ w₂' h (.server s .start) rfl
      · exact .ok h

theorem report (h : Alike n past w w') (m : ProviderNotice) :
    Alike n past (w.report p.config m) (w'.report (p.withDelay n).config m) :=
  h.log _ _

theorem bindServers (h : Alike n past w w') {v : Invoker} (hv : v.config = p.config) :
    AlikeWalks n past (w.bindServers ask p.config v)
      (w'.bindServers (ask.forDelay p.config.delayMs) (p.withDelay n).config (v.withDelay n)) :=
  h.visitAll (fun s _ _ h => h.bindServer ask p hv s) fun _ _ _ _ h => h.report p _

theorem unbindServers (h : Alike n past w w') (servers : List ServerConfig) :
    Alike n past (w.unbindServers ask p.config servers)
      (w'.unbindServers (ask.forDelay p.config.delayMs) (p.withDelay n).config servers) := by
  refine h.sweep (fun s w w' h => ?_) fun _ _ _ _ h => h.report p _
  rw [World.unbindServer, World.unbindServer, h.servers, h.view p]
  split
  · exact @perform σ ask p n past w w' h
      (.server s (.unregister (w.view p.config) s.settings.autoStart)) rfl
  · exact .ok h

theorem registryFor (h : Alike n past w w') (g : Nat) (r : RegistryConfig) :
    AlikeOutcomes n past (World.registryFor ask g r w)
      (World.registryFor (ask.forDelay p.config.delayMs) g r w') := by
  have hcreated := @perform σ ask p n past w w' h (.registry g r .create) rfl
  rw [World.registryFor, World.registryFor, h.registries]
  cases (w.services g).registries[r.identity]? with
  | some x => exact .ok h
  | none =>
    change AlikeOutcomes n past _ (w'.perform _ (.registry g r .create)) at hcreated
    dsimp only
    generalize w.perform ask (.registry g r .create) = o,
      w'.perform (ask.forDelay p.config.delayMs) (.registry g r .create) = o' at hcreated ⊢
    cases hcreated with
    | ok h => exact .ok (h.log _ _)
    | error h => exact .error h

theorem prime (h : Alike n past w w') (g : Nat) (registries : List RegistryConfig) :
    AlikeOutcomes n past (World.prime ask g registries w)
      (World.prime (ask.forDelay p.config.delayMs) g registries w') := by
  induction registries generalizing w w' with
  | nil => exact .ok h
  | cons r rs ih =>
    have hfound := h.registryFor ask p g r
    rw [World.prime, World.prime]
    generalize World.registryFor ask g r w = o,
      World.registryFor (ask.forDelay p.config.delayMs) g r w' = o' at hfound ⊢
    cases hfound with
    | ok h => exact ih h
    | error h => exact .error h

theorem announceIn (h : Alike n past w w') (r : RegistryConfig) :
    AlikeOutcomes n past (World.announceIn ask p r w)
      (World.announceIn (ask.forDelay p.config.delayMs) (p.withDelay n) r w') := by
  have hfound := h.registryFor ask p p.group r
  simp only [World.announceIn, Provider.group_withDelay]
  generalize World.registryFor ask p.group r w = o,
    World.registryFor (ask.forDelay p.config.delayMs) p.group r w' = o' at hfound ⊢
  cases hfound with
  | error h => exact .error h
  | @ok x w₁ w₁' h =>
    have hinit := @perform σ ask p n past w₁ w₁' h (.registry p.group x .init) rfl
    dsimp only [Call.withDelay] at hinit ⊢
    generalize w₁.perform ask (.registry p.group x .init) = o,
      w₁'.perform (ask.forDelay p.config.delayMs) (.registry p.group x .init) = o' at hinit ⊢
    cases hinit with
    | error h => exact .error h
    | @ok _ w₂ w₂' h =>
      have hstart := @perform σ ask p n past w₂ w₂' h (.registry p.group x .start) rfl
      dsimp only [Call.withDelay] at hstart ⊢
      generalize w₂.perform ask (.registry p.group x .start) = o,
        w₂'.perform (ask.forDelay p.config.delayMs) (.registry p.group x .start) = o' at hstart ⊢
      cases hstart with
      | error h => exact .error h
      | @ok _ w₃ w₃' h =>
        dsimp only
        rw [h.view p]
        exact @perform σ ask p n past w₃ w₃' h
          (.registry p.group x (.register (w₃.view p.config))) rfl

theorem announce (h : Alike n past w w') :
    AlikeWalks n past (w.announce ask p)
      (w'.announce (ask.forDelay p.config.delayMs) (p.withDelay n)) := by
  refine h.visitAll (fun r w w' h => ?_) fun _ _ _ _ h => h.report p _
  have hannounced := h.announceIn ask p r
  rw [World.announceStop, World.announceStop]
  generalize World.announceIn ask p r w = o,
    World.announceIn (ask.forDelay p.config.delayMs) (p.withDelay n) r w' = o' at hannounced ⊢
  cases hannounced with
  | ok h => exact .mk (.ok h)
  | error h => exact .mk (.error h)

theorem retract (h : Alike n past w w') (registries : List RegistryConfig) :
    Alike n past (w.retract ask p registries)
      (w'.retract (ask.forDelay p.config.delayMs) (p.withDelay n) registries) := by
  refine h.sweep (fun r w w' h => ?_) fun _ _ _ _ h => h.report p _
  have hfound := h.registryFor ask p p.group r
  simp only [World.retractFrom, Provider.group_withDelay]
  generalize World.registryFor ask p.group r w = o,
    World.registryFor (ask.forDelay p.config.delayMs) p.group r w' = o' at hfound ⊢
  cases hfound with
  | error h => exact .error h
  | @ok x w₁ w₁' h =>
    dsimp only
    rw [h.view p]
    exact @perform σ ask p n past w₁ w₁' h
      (.registry p.group x (.unregister (w₁.view p.config))) rfl

end Bindings

section Lifecycle

theorem setListener (h : Alike n past w w') (p : Provider) {l l' : Option Listener}
    (hl : l'.map (Listener.withDelay n) = l.map (Listener.withDelay n)) :
    Alike n past (w.setListener p.config l) (w'.setListener (p.withDelay n).config l') := by
  have hs := h.config p.config
  refine h.modifyConfig p ?_
  simp only [ConfigState.withDelay, ConfigState.mk.injEq] at hs ⊢
  exact ⟨hs.1, hl, hs.2.2⟩

theorem openInvoker (h : Alike n past w w') (p : Provider) :
    Alike n past (w.openInvoker p) (w'.openInvoker (p.withDelay n)) := by
  have hs := h.provider p
  refine h.modifyProvider p ?_
  simp only [h.nextInvoker p, ProviderState.withDelay, ProviderState.mk.injEq] at hs ⊢
  obtain ⟨hpublished, -, hattempts, hepoch, hheld⟩ := hs
  exact ⟨hpublished, rfl, by rw [hattempts], hepoch, hheld⟩

theorem closeInvoker (h : Alike n past w w') (p : Provider) :
    Alike n past (w.closeInvoker p) (w'.closeInvoker (p.withDelay n)) := by
  have hs := h.provider p
  refine h.modifyProvider p ?_
  simp only [ProviderState.withDelay, ProviderState.mk.injEq] at hs ⊢
  exact ⟨hs.1, trivial, hs.2.2⟩

theorem setPublished (h : Alike n past w w') (p : Provider) (b : Bool) :
    Alike n past (w.modifyProvider p fun s => { s with published := b })
      (w'.modifyProvider (p.withDelay n) fun s => { s with published := b }) := by
  have hs := h.provider p
  refine h.modifyProvider p ?_
  simp only [ProviderState.withDelay, ProviderState.mk.injEq] at hs ⊢
  exact ⟨trivial, hs.2⟩

theorem raiseEpoch (h : Alike n past w w') (p : Provider) :
    Alike n past (w.modifyProvider p fun s => { s with epoch := s.epoch + 1 })
      (w'.modifyProvider (p.withDelay n) fun s => { s with epoch := s.epoch + 1 }) := by
  have hs := h.provider p
  refine h.modifyProvider p ?_
  simp only [ProviderState.withDelay, ProviderState.mk.injEq] at hs ⊢
  obtain ⟨hpublished, hinvoker, hattempts, hepoch, hheld⟩ := hs
  exact ⟨hpublished, hinvoker, hattempts, by rw [hepoch], hheld⟩

theorem decideMethods (h : Alike n past w w') (p : Provider) :
    Alike n past (w.decideMethods p) (w'.decideMethods (p.withDelay n)) := by
  have hlogged : Alike n past { w with events := w.events ++ methodNotices p.config }
      { w' with events := w'.events ++ methodNotices p.config } := by
    refine ⟨h.outside, h.config, h.provider, h.servers, h.counts, h.registries, h.published, h.args,
      ?_⟩
    rw [exchanges_methodNotices, exchanges_methodNotices]
    exact h.exchanges
  let recorded (t : Services) : Services := { t with args := t.args.recordAll p.config.interface }
  have hrecorded := hlogged.modifyServices p.group recorded recorded (h.counts p.group)
    (h.registries p.group) (h.published p.group)
    (congrArg (fun t : MethodArgs => t.recordAll p.config.interface) (h.args p.group))
  have hs := hrecorded.config p.config
  rw [decideMethods_eq, decideMethods_eq]
  refine hrecorded.modifyConfig p ?_
  simp only [ConfigState.withDelay, ConfigState.mk.injEq] at hs ⊢
  exact ⟨hs.1, hs.2.1, rfl⟩

theorem acquire (h : Alike n past w w') (g : Nat) (k : ServiceKey) (limit : Int) :
    AlikeOutcomes n past (w.acquire g k limit) (w'.acquire g k limit) := by
  rw [World.acquire, World.acquire, h.counts]
  cases (w.services g).counts.acquire k limit with
  | error e => exact .error h
  | ok r =>
    obtain ⟨count, counts⟩ := r
    exact .ok (h.modifyServices g (fun t => { t with counts }) (fun t => { t with counts }) rfl
      (h.registries g) (h.published g) (h.args g))

theorem release (h : Alike n past w w') (g : Nat) (k : ServiceKey) :
    (w'.release g k).1 = (w.release g k).1 ∧ Alike n past (w.release g k).2 (w'.release g k).2 := by
  rw [World.release, World.release, h.counts]
  let counts := ((w.services g).counts.release k).2
  exact ⟨rfl, h.modifyServices g (fun t => { t with counts }) (fun t => { t with counts }) rfl
    (h.registries g) (h.published g) (h.args g)⟩

theorem enlist (h : Alike n past w w') (p : Provider) :
    Alike n past (w.enlist p) (w'.enlist (p.withDelay n)) := by
  refine h.modifyServices p.group _ _ (h.counts p.group) (h.registries p.group) (fun m => ?_)
    (h.args p.group)
  have hold := h.published p.group m
  simp only [Std.ExtTreeMap.getElem?_insert]
  change Option.map _ (if compare p.number m = .eq then some (p.withDelay n) else _) = _
  split
  · rfl
  · exact hold

theorem delist (h : Alike n past w w') (p : Provider) :
    Alike n past (w.delist p) (w'.delist (p.withDelay n)) := by
  refine h.modifyServices p.group _ _ (h.counts p.group) (h.registries p.group) (fun m => ?_)
    (h.args p.group)
  have hold := h.published p.group m
  simp only [Std.ExtTreeMap.getElem?_erase]
  change Option.map _ (if compare p.number m = .eq then none else _) = _
  split
  · rfl
  · exact hold

variable (ask p)

theorem attempt (h : Alike n past w w') :
    AlikeAttempts n past (w.attempt ask p)
      (w'.attempt (ask.forDelay p.config.delayMs) (p.withDelay n)) := by
  have hprimed := (h.openInvoker p).prime ask p p.group p.config.announcedIn
  rw [World.attempt, World.attempt]
  dsimp only [Provider.group_withDelay, Provider.announcedIn_withDelay]
  rw [h.nextInvoker p]
  generalize World.prime ask p.group p.config.announcedIn (w.openInvoker p) = o,
    World.prime (ask.forDelay p.config.delayMs) p.group p.config.announcedIn
      (w'.openInvoker (p.withDelay n)) = o' at hprimed ⊢
  cases hprimed with
  | error h => exact .mk (.error h)
  | @ok _ w₁ w₁' hprimed =>
    have hbound := hprimed.bindServers ask p (v := w.nextInvoker p) rfl
    dsimp only
    generalize w₁.bindServers ask p.config (w.nextInvoker p) = walk,
      w₁'.bindServers (ask.forDelay p.config.delayMs) (p.withDelay n).config
        ((w.nextInvoker p).withDelay n) = walk' at hbound ⊢
    cases hbound with
    | @mk accepted served _ _ hbound =>
      cases hbound with
      | error h => exact .mk (.error h)
      | @ok _ w₂ w₂' h =>
        have hlistening := @setListener σ n past _ _ (h.report p (.processorBound served)) p
          (some (.republish p)) (some (.republish (p.withDelay n))) rfl
        have hannounced := hlistening.announce ask p
        dsimp only
        generalize World.announce ask _ p = walk,
          World.announce (ask.forDelay p.config.delayMs) _ (p.withDelay n) = walk'
          at hannounced ⊢
        cases hannounced with
        | mk h => exact .mk h

theorem discard (h : Alike n past w w') (a a' : Attempt σ) (hservers : a'.servers = a.servers)
    (hregistries : a'.registries = a.registries) :
    Alike n past (w.discard ask p a)
      (w'.discard (ask.forDelay p.config.delayMs) (p.withDelay n) a') := by
  have hclosed := (@setListener σ n past _ _ h p none none rfl).closeInvoker p
  obtain ⟨hremaining, hreleased⟩ := hclosed.release p.group p.config.key
  rw [discard_eq, discard_eq]
  dsimp only [Provider.group_withDelay, Provider.key_withDelay]
  rw [hremaining, hservers, hregistries]
  split
  · exact hreleased.report p _
  · exact (hreleased.retract ask p a.registries).unbindServers ask p a.servers

/-- A publication that happens at once does not look at the delay. -/
theorem publishNow (h : Alike n past w w') :
    AlikeOutcomes n past (w.publishNow ask p)
      (w'.publishNow (ask.forDelay p.config.delayMs) (p.withDelay n)) := by
  have hprepared := (h.decideMethods p).report p (.publishing p.config.id)
  have hcounted := hprepared.acquire p.group p.config.key p.config.repeatLimit.toInt
  have hlive : w'.isPublished (p.withDelay n) = w.isPublished p := h.isPublished p
  rw [World.publishNow, World.publishNow, hlive]
  dsimp only [Provider.group_withDelay, Provider.id_withDelay, Provider.key_withDelay,
    Provider.check_withDelay, Provider.repeatLimit_withDelay]
  split
  · exact .ok h
  · cases p.config.check with
    | error e => exact .error h
    | ok u =>
      dsimp only
      generalize World.acquire _ p.group p.config.key p.config.repeatLimit.toInt = o,
        World.acquire ((w'.decideMethods (p.withDelay n)).report (p.withDelay n).config
          (.publishing p.config.id)) p.group p.config.key p.config.repeatLimit.toInt = o'
        at hcounted ⊢
      cases hcounted with
      | error h => exact .error h
      | @ok count w₁ w₁' h =>
        have hcalled : Alike n past
            (if 1 < count then w₁.report p.config (.publishedBefore count) else w₁)
            (if 1 < count then w₁'.report (p.withDelay n).config (.publishedBefore count)
              else w₁') := by
          split
          · exact h.report p _
          · exact h
        have hattempted := hcalled.attempt ask p
        dsimp only
        generalize World.attempt ask _ p = a,
          World.attempt (ask.forDelay p.config.delayMs) _ (p.withDelay n) = a' at hattempted ⊢
        cases hattempted with
        | mk hattempted =>
          cases hattempted with
          | error h => exact .error (h.discard ask p _ _ rfl rfl)
          | ok h => exact .ok ((h.enlist p).setPublished p true)

/-- Neither does a withdrawal. -/
theorem withdraw (h : Alike n past w w') :
    Alike n past (w.withdraw ask p)
      (w'.withdraw (ask.forDelay p.config.delayMs) (p.withDelay n)) := by
  have hraised := h.raiseEpoch p
  have hlive : w'.isPublished (p.withDelay n) = w.isPublished p := h.isPublished p
  cases hpublished : w.isPublished p with
  | false =>
    rw [withdraw_unpublished ask hpublished, withdraw_unpublished _ (hlive.trans hpublished)]
    exact hraised
  | true =>
    have hretracted := (hraised.report p (.withdrawing p.config.id)).retract ask p
      p.config.announcedIn
    have hunlinked := (hretracted.closeInvoker p).unbindServers ask p p.config.servers
    obtain ⟨-, hreleased⟩ :=
      (@setListener σ n past _ _ hunlinked p none none rfl).release p.group p.config.key
    rw [withdraw_published ask hpublished, withdraw_published _ (hlive.trans hpublished)]
    exact ((hreleased.log _ _).delist p).setPublished p false

end Lifecycle

end Alike

end ServicePublisher
