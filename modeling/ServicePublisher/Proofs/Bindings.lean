import ServicePublisher.Proofs.Log

/-! What servers and registries hold after a walk over them. A walk writes one entry, that of the
key of its provider, wherever it was accepted, and leaves all other entries as they are. -/
namespace ServicePublisher

def Call.releases : Call → Bool
  | .server _ (.unregister ..) | .registry _ _ (.unregister _) => true
  | _ => false

/-- Collaborators never refuse to take an entry back. -/
def Ask.Releases {σ : Type} (ask : Ask σ) : Prop :=
  ∀ c outside, c.releases = true → (ask c outside).1 = none

namespace World

variable {σ : Type}

def processor? (w : World σ) (serial : Nat) (k : ServiceKey) : Option Invoker :=
  (w.servers[serial]?).bind fun t => t[k]?

def listed (w : World σ) (group : Nat) (identity : String) (k : ServiceKey) : Bool :=
  ((w.services group).registries[identity]?).any fun x => decide (k ∈ x.keys)

/-- Every registry is filed under the identity of the configuration that created it. -/
def Filed (w : World σ) : Prop :=
  ∀ (g : Nat) (identity : String) x, (w.services g).registries[identity]? = some x →
    x.origin.identity = identity

structure SameBindings (w w' : World σ) : Prop where
  processor : ∀ n k, w'.processor? n k = w.processor? n k
  listed : ∀ g identity k, w'.listed g identity k = w.listed g identity k
  filed : Filed w → Filed w'

namespace SameBindings

variable {w w' w'' : World σ}

theorem of_eq (hservers : w'.servers = w.servers)
    (hregistries : ∀ g, (w'.services g).registries = (w.services g).registries) :
    SameBindings w w' where
  processor n k := by rw [processor?, processor?, hservers]
  listed g identity k := by rw [World.listed, World.listed, hregistries]
  filed h g identity x hx := h g identity x (by rwa [hregistries] at hx)

theorem refl (w : World σ) : SameBindings w w := of_eq rfl fun _ => rfl

theorem trans (h : SameBindings w w') (h' : SameBindings w' w'') : SameBindings w w'' where
  processor n k := (h'.processor n k).trans (h.processor n k)
  listed g identity k := (h'.listed g identity k).trans (h.listed g identity k)
  filed hw := h'.filed (h.filed hw)

end SameBindings

theorem sameBindings_record (w : World σ) (e : Event) : SameBindings w (w.record e) :=
  .of_eq rfl fun _ => rfl

/-- Between two states no entry was written, and no call made that writes one. -/
structure Idle (w w' : World σ) : Prop where
  same : SameBindings w w'
  quiet : Grows Event.Quiet w w'

theorem Idle.trans {w w' w'' : World σ} (h : Idle w w') (h' : Idle w' w'') : Idle w w'' :=
  ⟨h.same.trans h'.same, h.quiet.trans h'.quiet⟩

theorem sameBindings_modifyServices (w : World σ) (g : Nat) {f : Services → Services}
    (hf : ∀ t, (f t).registries = t.registries) : SameBindings w (w.modifyServices g f) :=
  .of_eq rfl (modifyServices_keeps w g f hf)

theorem sameBindings_prepared (w : World σ) (p : Provider) : SameBindings w (w.prepared p) := by
  have hdecided : SameBindings w (w.decideMethods p) :=
    .of_eq (servers_decideMethods w p) (decideMethods_keeps w (fun _ _ => rfl) p)
  exact hdecided.trans (sameBindings_record _ _)

theorem sameBindings_admitted (w : World σ) (p : Provider) (n : Nat) (counts : ExportCounts) :
    SameBindings w (w.admitted p n counts) := by
  have hcounted := (sameBindings_prepared w p).trans
    (sameBindings_modifyServices (w.prepared p) p.group (f := fun t => { t with counts })
      fun _ => rfl)
  rw [admitted]
  split
  · exact hcounted.trans (sameBindings_record _ _)
  · exact hcounted

/-- The state after a call has been answered, before it has any effect. -/
def asked (ask : Ask σ) (w : World σ) (c : Call) : World σ :=
  { w with outside := (ask c w.outside).2 }.record (.call c (ask c w.outside).1)

@[simp] theorem servers_asked (ask : Ask σ) (w : World σ) (c : Call) :
    (w.asked ask c).servers = w.servers := rfl

@[simp] theorem services_asked (ask : Ask σ) (w : World σ) (c : Call) (g : Nat) :
    (w.asked ask c).services g = w.services g := rfl

theorem sameBindings_asked (ask : Ask σ) (w : World σ) (c : Call) :
    SameBindings w (w.asked ask c) :=
  .of_eq rfl fun _ => rfl

inductive CallCourse (ask : Ask σ) (w : World σ) (c : Call) : Outcome σ Unit → Prop
  | accepted (hanswer : (ask c w.outside).1 = none) :
      CallCourse ask w c ⟨.ok (), (w.asked ask c).accept c⟩
  | refused {e : ProviderError} (hanswer : (ask c w.outside).1 = some e) :
      CallCourse ask w c ⟨.error e, w.asked ask c⟩

theorem perform_course (ask : Ask σ) (w : World σ) (c : Call) :
    CallCourse ask w c (w.perform ask c) := by
  rw [perform]
  cases hanswer : (ask c w.outside).1 with
  | none => simpa only [asked, hanswer] using CallCourse.accepted hanswer
  | some e => simpa only [asked, hanswer] using CallCourse.refused hanswer

section Calls

variable (ask : Ask σ) (w : World σ)

theorem services_perform_server (s : ServerConfig) (request : ServerRequest) (g : Nat) :
    (w.perform ask (.server s request)).world.services g = w.services g := by
  have hcourse := perform_course ask w (.server s request)
  generalize w.perform ask (.server s request) = outcome at hcourse
  cases hcourse with
  | accepted hanswer => cases request <;> rfl
  | refused hanswer => rfl

theorem servers_perform_registry (g : Nat) (r : RegistryConfig) (request : RegistryRequest) :
    (w.perform ask (.registry g r request)).world.servers = w.servers := by
  have hcourse := perform_course ask w (.registry g r request)
  generalize w.perform ask (.registry g r request) = outcome at hcourse
  cases hcourse with
  | accepted hanswer => cases request <;> rfl
  | refused hanswer => rfl

theorem processor?_perform_register {s : ServerConfig} (hs : s.serial ∈ w.servers)
    (view : ConfigView) (v : Invoker) (n : Nat) (k : ServiceKey) :
    (w.perform ask (.server s (.register view v))).world.processor? n k =
      if (w.perform ask (.server s (.register view v))).result.isOk ∧ s.serial = n ∧
        view.config.key = k then some v else w.processor? n k := by
  have hcourse := perform_course ask w (.server s (.register view v))
  generalize w.perform ask (.server s (.register view v)) = outcome at hcourse ⊢
  cases hcourse with
  | refused hanswer => simp [Except.isOk, Except.toBool, processor?]
  | accepted hanswer =>
    have hsome := Std.ExtTreeMap.getElem?_eq_some_getElem hs
    simp only [accept, modifyServer, processor?, servers_asked, Std.ExtTreeMap.getElem?_modify,
      Nat.compare_eq_eq, Except.isOk, Except.toBool]
    by_cases hn : s.serial = n
    · subst hn
      simp only [hsome, Option.map_some, Option.bind_some, if_true, Std.ExtTreeMap.getElem?_insert,
        Std.compare_eq_iff_eq, true_and]
    · simp [hn]

theorem processor?_perform_unregister (s : ServerConfig) (view : ConfigView) (close : Bool)
    (n : Nat) (k : ServiceKey) :
    (w.perform ask (.server s (.unregister view close))).world.processor? n k =
      if (w.perform ask (.server s (.unregister view close))).result.isOk ∧ s.serial = n ∧
        view.config.key = k then none else w.processor? n k := by
  have hcourse := perform_course ask w (.server s (.unregister view close))
  generalize w.perform ask (.server s (.unregister view close)) = outcome at hcourse ⊢
  cases hcourse with
  | refused hanswer => simp [Except.isOk, Except.toBool, processor?]
  | accepted hanswer =>
    simp only [accept, modifyServer, processor?, servers_asked, Std.ExtTreeMap.getElem?_modify,
      Nat.compare_eq_eq, Except.isOk, Except.toBool]
    by_cases hn : s.serial = n
    · subst hn
      cases w.servers[s.serial]? with
      | none => simp
      | some t =>
        simp only [Option.map_some, Option.bind_some, if_true, Std.ExtTreeMap.getElem?_erase,
          Std.compare_eq_iff_eq, true_and]
    · simp [hn]

theorem idle_start (s : ServerConfig) : Idle w (w.perform ask (.server s .start)).world := by
  refine ⟨?_, grows_perform ask w fun _ => trivial⟩
  have hcourse := perform_course ask w (.server s .start)
  generalize w.perform ask (.server s .start) = outcome at hcourse
  cases hcourse with
  | accepted hanswer => exact .of_eq rfl fun _ => rfl
  | refused hanswer => exact .of_eq rfl fun _ => rfl

/-- A server is empty when it is created. -/
theorem sameBindings_build (s : ServerConfig) : SameBindings w (w.build ask s).world := by
  rw [build]
  split
  · exact .refl w
  · next hs =>
    have hcourse := perform_course ask w (.server s .create)
    generalize w.perform ask (.server s .create) = outcome at hcourse
    cases hcourse with
    | refused hanswer => exact .of_eq rfl fun _ => rfl
    | accepted hanswer =>
      have hnone : w.servers[s.serial]? = none := by
        exact Std.ExtTreeMap.getElem?_eq_none (by rwa [← Std.ExtTreeMap.contains_iff_mem])
      refine ⟨fun n k => ?_, fun _ _ _ => rfl, fun h => h⟩
      simp only [accept, processor?, servers_asked, Std.ExtTreeMap.getElem?_insert,
        Nat.compare_eq_eq]
      by_cases hn : s.serial = n
      · subst hn
        simp [hnone]
      · simp [hn]

theorem mem_servers_build {s : ServerConfig} (hok : (w.build ask s).result = .ok ()) :
    s.serial ∈ (w.build ask s).world.servers := by
  rw [build] at hok ⊢
  split
  · next hs => exact Std.ExtTreeMap.contains_iff_mem.1 hs
  · next hs =>
    rw [if_neg hs] at hok
    have hcourse := perform_course ask w (.server s .create)
    generalize w.perform ask (.server s .create) = outcome at hcourse hok
    cases hcourse with
    | refused hanswer => cases hok
    | accepted hanswer => simp [accept]

end Calls

theorem perform_release {ask : Ask σ} (hreleases : ask.Releases) (w : World σ) {c : Call}
    (hc : c.releases = true) : (w.perform ask c).result = .ok () := by
  have hcourse := perform_course ask w c
  generalize w.perform ask c = outcome at hcourse
  cases hcourse with
  | accepted hanswer => rfl
  | refused hanswer =>
    rw [hreleases c w.outside hc] at hanswer
    cases hanswer

section Servers

variable {ask : Ask σ}

/-- The courses of a stop at a server: it cannot be created, or it refuses the invoker, or it
accepts the invoker and is perhaps started. -/
inductive BindingCourse (ask : Ask σ) (c : ProviderConfig) (v : Invoker) (s : ServerConfig)
    (w : World σ) : Stop σ → Prop
  | unbuilt {w₁ : World σ} {e : ProviderError} (hidle : Idle w w₁) :
      BindingCourse ask c v s w ⟨false, ⟨.error e, w₁⟩⟩
  | refused {w₁ w₂ : World σ} {e : ProviderError} (hidle : Idle w w₁)
      (hserver : s.serial ∈ w₁.servers)
      (hregister : w₁.perform ask (.server s (.register (w₁.view c) v)) = ⟨.error e, w₂⟩) :
      BindingCourse ask c v s w ⟨false, ⟨.error e, w₂⟩⟩
  | accepted {w₁ w₂ : World σ} {outcome : Outcome σ Unit} (hidle : Idle w w₁)
      (hserver : s.serial ∈ w₁.servers)
      (hregister : w₁.perform ask (.server s (.register (w₁.view c) v)) = ⟨.ok (), w₂⟩)
      (hafter : Idle w₂ outcome.world)
      (hstart : ∀ e, outcome.result = .error e → s.settings.autoStart = true) :
      BindingCourse ask c v s w ⟨true, outcome⟩

theorem bindServer_course (ask : Ask σ) (c : ProviderConfig) (v : Invoker) (s : ServerConfig)
    (w : World σ) : BindingCourse ask c v s w (bindServer ask c v s w) := by
  have hidle : Idle w (w.build ask s).world := ⟨sameBindings_build ask w s, quiet_build ask w s⟩
  have hserver := @mem_servers_build σ ask w s
  rw [bindServer]
  generalize w.build ask s = built at hidle hserver ⊢
  obtain ⟨result, w₁⟩ := built
  cases result with
  | error e => exact .unbuilt hidle
  | ok u =>
    dsimp only
    cases hregister : w₁.perform ask (.server s (.register (w₁.view c) v)) with
    | mk result w₂ =>
      cases result with
      | error e => exact .refused hidle (hserver rfl) hregister
      | ok u =>
        refine .accepted hidle (hserver rfl) hregister ?_ fun e he => ?_
        · split
          · exact idle_start ask w₂ s
          · exact ⟨.refl w₂, .refl w₂⟩
        · by_cases hstart : s.settings.autoStart = true
          · exact hstart
          · rw [if_neg hstart] at he
            cases he

/-- A server holds a new invoker if it accepted it, no matter whether it starts. -/
theorem bindServer_writes (c : ProviderConfig) (v : Invoker) (s : ServerConfig) (w : World σ)
    (n : Nat) (k : ServiceKey) :
    (bindServer ask c v s w).Writes (fun w => w.processor? n k) (s.serial = n ∧ c.key = k) (some v)
      (w.processor? n k) := by
  have hcourse := bindServer_course ask c v s w
  generalize bindServer ask c v s w = stop at hcourse
  cases hcourse with
  | unbuilt hidle => exact ⟨fun h => Bool.noConfusion h, fun _ => hidle.same.processor n k⟩
  | @refused w₁ w₂ e hidle hserver hregister =>
    have hvalue := processor?_perform_register ask w₁ hserver (w₁.view c) v n k
    rw [hregister, hidle.same.processor] at hvalue
    simp only [Except.isOk, Except.toBool, Bool.false_eq_true, false_and, if_false] at hvalue
    exact ⟨fun h => Bool.noConfusion h, fun _ => hvalue⟩
  | @accepted w₁ w₂ outcome hidle hserver hregister hafter hstart =>
    have hvalue := processor?_perform_register ask w₁ hserver (w₁.view c) v n k
    rw [hregister, hidle.same.processor] at hvalue
    simp only [Except.isOk, Except.toBool, true_and] at hvalue
    have hend := (hafter.same.processor n k).trans hvalue
    refine ⟨fun _ hmeant => hend.trans (if_pos hmeant), fun hnot => ?_⟩
    exact hend.trans (if_neg fun hmeant => hnot ⟨rfl, hmeant⟩)

theorem processor?_bindServers (w : World σ) (c : ProviderConfig) (v : Invoker) (n : Nat)
    (k : ServiceKey) :
    (w.bindServers ask c v).outcome.world.processor? n k =
      if ∃ s ∈ (w.bindServers ask c v).accepted, s.serial = n ∧ c.key = k then some v
      else w.processor? n k := by
  refine Walk.Writes.eq_ite (visitAll_writes (f := fun w => w.processor? n k) (P := fun _ => True)
    (m := fun s => s.serial = n ∧ c.key = k) ?_ ?_ c.servers trivial)
  · exact fun s w' _ => ⟨trivial, bindServer_writes c v s w' n k⟩
  · exact fun _ _ _ _ => ⟨trivial, rfl⟩

theorem processor?_unbindServer (hreleases : ask.Releases) (c : ProviderConfig) (s : ServerConfig)
    (w : World σ) (n : Nat) (k : ServiceKey) :
    (unbindServer ask c s w).world.processor? n k =
      if s.serial = n ∧ c.key = k then none else w.processor? n k := by
  rw [unbindServer]
  split
  · rw [processor?_perform_unregister, perform_release hreleases w rfl]
    simp [Except.isOk, Except.toBool, view]
  · next hs =>
    split
    · next hmeant =>
      have hnone : w.servers[s.serial]? = none :=
        Std.ExtTreeMap.getElem?_eq_none (by rwa [← Std.ExtTreeMap.contains_iff_mem])
      rw [processor?, ← hmeant.1, hnone, Option.bind_none]
    · rfl

theorem processor?_unbindServers (hreleases : ask.Releases) (w : World σ) (c : ProviderConfig)
    (servers : List ServerConfig) (n : Nat) (k : ServiceKey) :
    (w.unbindServers ask c servers).processor? n k =
      if ∃ s ∈ servers, s.serial = n ∧ c.key = k then none else w.processor? n k := by
  refine sweep_writes (f := fun w => w.processor? n k) (P := fun _ => True)
    (m := fun s => s.serial = n ∧ c.key = k) ?_ ?_ servers trivial
  · exact fun s w' _ => ⟨trivial, processor?_unbindServer hreleases c s w' n k⟩
  · exact fun _ _ _ _ => ⟨trivial, rfl⟩

theorem services_bindServers (w : World σ) (c : ProviderConfig) (v : Invoker) (g : Nat) :
    (w.bindServers ask c v).outcome.world.services g = w.services g :=
  bindServers_keeps (P := fun w' => w'.services g = w.services g)
    (fun w' s _ _ _ h => (services_perform_server ask w' s _ g).trans h) (fun _ _ _ h => h) rfl

theorem services_unbindServers (w : World σ) (c : ProviderConfig) (servers : List ServerConfig)
    (g : Nat) : (w.unbindServers ask c servers).services g = w.services g :=
  unbindServers_keeps (P := fun w' => w'.services g = w.services g)
    (fun w' s _ h => (services_perform_server ask w' s _ g).trans h) (fun _ _ _ h => h) rfl

end Servers

section Registries

variable {ask : Ask σ}

theorem listed_modifyRegistry (w : World σ) (g : Nat) (identity : String)
    (f : List ServiceKey → List ServiceKey) (g' : Nat) (identity' : String) (k : ServiceKey) :
    (w.modifyRegistry g identity f).listed g' identity' k =
      if g = g' ∧ identity = identity' then
        ((w.services g).registries[identity]?).any fun x => decide (k ∈ f x.keys)
      else w.listed g' identity' k := by
  rw [listed, modifyRegistry, services_modifyServices]
  by_cases hg : g = g'
  · subst hg
    simp only [if_true, true_and, Std.ExtTreeMap.getElem?_modify, Std.compare_eq_iff_eq]
    split
    · next hi =>
      subst hi
      cases (w.services g).registries[identity]? <;> rfl
    · rfl
  · simp [hg, listed]

theorem filed_modifyRegistry {w : World σ} (h : Filed w) (g : Nat) (identity : String)
    (f : List ServiceKey → List ServiceKey) : Filed (w.modifyRegistry g identity f) := by
  intro g' identity' x hx
  rw [modifyRegistry, services_modifyServices] at hx
  split at hx
  · next hg =>
    simp only [Std.ExtTreeMap.getElem?_modify, Std.compare_eq_iff_eq] at hx
    split at hx
    · next hi =>
      obtain ⟨y, hy, rfl⟩ := Option.map_eq_some_iff.1 hx
      rw [← hi]
      exact h g identity y hy
    · exact h g identity' x hx
  · exact h g' identity' x hx

theorem listed_perform_register (w : World σ) {g : Nat} {r : RegistryConfig}
    (hr : ((w.services g).registries[r.identity]?).isSome = true) (view : ConfigView) (g' : Nat)
    (identity : String) (k : ServiceKey) :
    (w.perform ask (.registry g r (.register view))).world.listed g' identity k =
      if (w.perform ask (.registry g r (.register view))).result.isOk ∧ g = g' ∧
        r.identity = identity ∧ view.config.key = k then true else w.listed g' identity k := by
  have hasked := (sameBindings_asked ask w (.registry g r (.register view))).listed g' identity k
  have hcourse := perform_course ask w (.registry g r (.register view))
  generalize w.perform ask (.registry g r (.register view)) = outcome at hcourse ⊢
  cases hcourse with
  | refused hanswer => simpa [Except.isOk, Except.toBool] using hasked
  | accepted hanswer =>
    obtain ⟨x, hx⟩ := Option.isSome_iff_exists.1 hr
    simp only [accept, listed_modifyRegistry, Except.isOk, Except.toBool, true_and, services_asked,
      hx, hasked]
    by_cases hplace : g = g' ∧ r.identity = identity
    · obtain ⟨rfl, rfl⟩ := hplace
      simp only [and_self, if_true, true_and, Option.any_some, listed, hx]
      by_cases hk : view.config.key = k
      · subst hk
        by_cases hmem : view.config.key ∈ x.keys <;> simp [hmem]
      · rw [if_neg hk]
        by_cases hmem : view.config.key ∈ x.keys <;> simp [hmem, Ne.symm hk]
    · rw [if_neg hplace, if_neg fun h => hplace ⟨h.1, h.2.1⟩]

theorem listed_perform_unregister (w : World σ) (g : Nat) (r : RegistryConfig) (view : ConfigView)
    (g' : Nat) (identity : String) (k : ServiceKey) :
    (w.perform ask (.registry g r (.unregister view))).world.listed g' identity k =
      if (w.perform ask (.registry g r (.unregister view))).result.isOk ∧ g = g' ∧
        r.identity = identity ∧ view.config.key = k then false else w.listed g' identity k := by
  have hasked := (sameBindings_asked ask w (.registry g r (.unregister view))).listed g' identity k
  have hcourse := perform_course ask w (.registry g r (.unregister view))
  generalize w.perform ask (.registry g r (.unregister view)) = outcome at hcourse ⊢
  cases hcourse with
  | refused hanswer => simpa [Except.isOk, Except.toBool] using hasked
  | accepted hanswer =>
    simp only [accept, listed_modifyRegistry, Except.isOk, Except.toBool, true_and, services_asked,
      hasked]
    by_cases hplace : g = g' ∧ r.identity = identity
    · obtain ⟨rfl, rfl⟩ := hplace
      simp only [and_self, if_true, true_and, listed]
      cases (w.services g).registries[r.identity]? with
      | none => simp
      | some x =>
        by_cases hk : view.config.key = k
        · subst hk
          simp
        · simp [hk, Ne.symm hk]
    · rw [if_neg hplace, if_neg fun h => hplace ⟨h.1, h.2.1⟩]

theorem services_perform_idle (w : World σ) (g : Nat) (r : RegistryConfig)
    {request : RegistryRequest} (hidle : ∀ w : World σ, w.accept (.registry g r request) = w)
    (g' : Nat) : (w.perform ask (.registry g r request)).world.services g' = w.services g' := by
  have hcourse := perform_course ask w (.registry g r request)
  generalize w.perform ask (.registry g r request) = outcome at hcourse
  cases hcourse with
  | accepted hanswer => rw [hidle]; rfl
  | refused hanswer => rfl

theorem filed_perform {w : World σ} (h : Filed w) (c : Call) :
    Filed (w.perform ask c).world := by
  have hasked := (sameBindings_asked ask w c).filed h
  have hcourse := perform_course ask w c
  generalize w.perform ask c = outcome at hcourse
  cases hcourse with
  | refused hanswer => exact hasked
  | accepted hanswer =>
    generalize w.asked ask c = w' at hasked
    change Filed (w'.accept c)
    cases c with
    | server s request => cases request <;> exact hasked
    | registry g r request =>
      cases request with
      | init => exact hasked
      | start => exact hasked
      | register view =>
        rw [accept]
        exact filed_modifyRegistry hasked g r.identity _
      | unregister view =>
        rw [accept]
        exact filed_modifyRegistry hasked g r.identity _
      | create =>
        intro g' identity x hx
        rw [accept, services_modifyServices] at hx
        split at hx
        · simp only [Std.ExtTreeMap.getElem?_insert, Std.compare_eq_iff_eq] at hx
          split at hx
          · next hi => cases hx; exact hi
          · exact hasked g identity x hx
        · exact hasked g' identity x hx

/-- A registry lists nothing when it is created. -/
theorem sameBindings_registryFor (w : World σ) (g : Nat) (r : RegistryConfig) :
    SameBindings w (registryFor ask g r w).world := by
  refine ⟨fun n k => ?_, fun g' identity k => ?_, fun h => ?_⟩
  · have hservers : (registryFor ask g r w).world.servers = w.servers :=
      registryFor_keeps (P := fun w' => w'.servers = w.servers)
        (fun w' h => (servers_perform_registry ask w' g r .create).trans h) (fun _ _ _ h => h) rfl
    rw [processor?, processor?, hservers]
  · rw [registryFor]
    split
    · rfl
    · next hnone =>
      have hasked := (sameBindings_asked ask w (.registry g r .create)).listed g' identity k
      have hcourse := perform_course ask w (.registry g r .create)
      generalize w.perform ask (.registry g r .create) = outcome at hcourse
      cases hcourse with
      | refused hanswer => exact hasked
      | accepted hanswer =>
        change ((w.asked ask _).accept _).listed g' identity k = _
        rw [accept, listed, services_modifyServices, services_asked]
        by_cases hplace : g = g' ∧ r.identity = identity
        · obtain ⟨rfl, rfl⟩ := hplace
          simp [listed, hnone]
        · rw [← hasked]
          by_cases hg : g = g'
          · subst hg
            have hi : r.identity ≠ identity := fun hi => hplace ⟨rfl, hi⟩
            simp [Std.ExtTreeMap.getElem?_insert, hi, listed]
          · simp [hg, listed]
  · exact registryFor_keeps (fun w' h => filed_perform h _) (fun _ _ _ h => h) h

theorem registryFor_exists {w : World σ} {g : Nat} {r x : RegistryConfig}
    (hx : (registryFor ask g r w).result = .ok x) :
    (((registryFor ask g r w).world.services g).registries[r.identity]?).isSome = true := by
  rw [registryFor] at hx ⊢
  split at hx
  · next y hy => rw [hy]; rfl
  · have hcourse := perform_course ask w (.registry g r .create)
    generalize w.perform ask (.registry g r .create) = outcome at hcourse hx
    cases hcourse with
    | refused hanswer => cases hx
    | accepted hanswer => simp [accept]

theorem registryFor_found {w : World σ} (h : Filed w) {g : Nat} {r x : RegistryConfig}
    (hx : (registryFor ask g r w).result = .ok x) : x.identity = r.identity ∧
      (((registryFor ask g r w).world.services g).registries[x.identity]?).isSome = true := by
  have hidentity : x.identity = r.identity := by
    rw [registryFor] at hx
    split at hx
    · next y hy =>
      cases hx
      exact h g r.identity y hy
    · generalize w.perform ask (.registry g r .create) = outcome at hx
      obtain ⟨result, w₁⟩ := outcome
      cases result with
      | error e => cases hx
      | ok u => cases hx; rfl
  refine ⟨hidentity, ?_⟩
  rw [hidentity]
  exact registryFor_exists hx

theorem listed_congr {w w' : World σ} {g : Nat} (h : w'.services g = w.services g)
    (identity : String) (k : ServiceKey) : w'.listed g identity k = w.listed g identity k := by
  rw [listed, listed, h]

theorem idle_registryFor (w : World σ) (g : Nat) (r : RegistryConfig) :
    Idle w (registryFor ask g r w).world :=
  ⟨sameBindings_registryFor w g r, quiet_registryFor ask w g r⟩

theorem idle_perform (w : World σ) (g : Nat) (r : RegistryConfig) {request : RegistryRequest}
    (hidle : ∀ w : World σ, w.accept (.registry g r request) = w)
    (hquiet : ∀ answer, (Event.call (.registry g r request) answer).Quiet) :
    Idle w (w.perform ask (.registry g r request)).world :=
  ⟨.of_eq (servers_perform_registry ask w g r request) fun g' => by
    rw [services_perform_idle w g r hidle], grows_perform ask w hquiet⟩

/-- The courses of a stop at a registry: it cannot be made ready, or it is asked to list the
provider and its answer decides. -/
inductive AnnouncingCourse (ask : Ask σ) (p : Provider) (r : RegistryConfig) (w : World σ) :
    Stop σ → Prop
  | halted {w₁ : World σ} {e : ProviderError} (hidle : Idle w w₁) :
      AnnouncingCourse ask p r w ⟨false, ⟨.error e, w₁⟩⟩
  | asked {w₁ : World σ} {x : RegistryConfig} (hidle : Idle w w₁) (hx : x.identity = r.identity)
      (hknown : ((w₁.services p.group).registries[x.identity]?).isSome = true) :
      AnnouncingCourse ask p r w
        ⟨(w₁.perform ask (.registry p.group x (.register (w₁.view p.config)))).result.isOk,
          w₁.perform ask (.registry p.group x (.register (w₁.view p.config)))⟩

theorem announceStop_course (ask : Ask σ) (p : Provider) (r : RegistryConfig) {w : World σ}
    (h : Filed w) : AnnouncingCourse ask p r w (announceStop ask p r w) := by
  have hidle := @idle_registryFor σ ask w p.group r
  have hfound := @registryFor_found σ ask w h p.group r
  rw [announceStop, announceIn]
  generalize registryFor ask p.group r w = found at hidle hfound ⊢
  obtain ⟨result, w₁⟩ := found
  cases result with
  | error e => exact .halted hidle
  | ok x =>
    obtain ⟨hx, hknown⟩ := hfound rfl
    have hinit := @services_perform_idle σ ask w₁ p.group x .init (fun _ => rfl) p.group
    have hidle₂ := hidle.trans (@idle_perform σ ask w₁ p.group x .init (fun _ => rfl)
      fun _ => trivial)
    dsimp only at hknown hinit hidle₂ ⊢
    generalize w₁.perform ask (.registry p.group x .init) = init at hinit hidle₂ ⊢
    obtain ⟨result, w₂⟩ := init
    cases result with
    | error e => exact .halted hidle₂
    | ok u =>
      have hstart := @services_perform_idle σ ask w₂ p.group x .start (fun _ => rfl) p.group
      have hidle₃ := hidle₂.trans (@idle_perform σ ask w₂ p.group x .start (fun _ => rfl)
        fun _ => trivial)
      dsimp only at hinit hstart hidle₃ ⊢
      generalize w₂.perform ask (.registry p.group x .start) = start at hstart hidle₃ ⊢
      obtain ⟨result, w₃⟩ := start
      cases result with
      | error e => exact .halted hidle₃
      | ok u =>
        dsimp only at hstart hidle₃ ⊢
        rw [← hinit, ← hstart] at hknown
        exact .asked hidle₃ hx hknown

theorem announceStop_writes (p : Provider) (r : RegistryConfig) {w : World σ} (h : Filed w)
    (g : Nat) (identity : String) (k : ServiceKey) :
    (announceStop ask p r w).Writes (fun w => w.listed g identity k)
      (p.group = g ∧ r.identity = identity ∧ p.config.key = k) true (w.listed g identity k) := by
  have hcourse := announceStop_course ask p r h
  generalize announceStop ask p r w = stop at hcourse
  cases hcourse with
  | halted hidle => exact ⟨fun h => Bool.noConfusion h, fun _ => hidle.same.listed g identity k⟩
  | @asked w₁ x hidle hx hknown =>
    have hvalue := @listed_perform_register σ ask w₁ p.group x hknown (w₁.view p.config) g
      identity k
    rw [hx, hidle.same.listed] at hvalue
    refine ⟨fun haccepted hmeant => ?_, fun hnot => ?_⟩
    · exact hvalue.trans (if_pos ⟨haccepted, hmeant⟩)
    · exact hvalue.trans (if_neg hnot)

theorem listed_announce (p : Provider) {w : World σ} (h : Filed w) (g : Nat) (identity : String)
    (k : ServiceKey) :
    (w.announce ask p).outcome.world.listed g identity k =
      if ∃ r ∈ (w.announce ask p).accepted, p.group = g ∧ r.identity = identity ∧ p.config.key = k
      then true else w.listed g identity k := by
  refine Walk.Writes.eq_ite (visitAll_writes (f := fun w => w.listed g identity k) (P := Filed)
    (m := fun r => p.group = g ∧ r.identity = identity ∧ p.config.key = k) ?_ ?_
    p.config.announcedIn h)
  · intro r w' hw'
    refine ⟨?_, announceStop_writes p r hw' g identity k⟩
    exact announceStop_keeps (fun _ _ _ _ hw => filed_perform hw _) (fun _ _ _ hw => hw) hw'
  · exact fun w' r e hw' => ⟨hw', rfl⟩

theorem registryFor_missing {w : World σ} {g : Nat} {r : RegistryConfig} {e : ProviderError}
    (he : (registryFor ask g r w).result = .error e) :
    (w.services g).registries[r.identity]? = none := by
  rw [registryFor] at he
  split at he
  · cases he
  · next hnone => exact hnone

/-- A registry does not list a provider that was retracted from it, and none does that is
missing. -/
theorem listed_retractFrom (hreleases : ask.Releases) (p : Provider) (r : RegistryConfig)
    {w : World σ} (h : Filed w) (g : Nat) (identity : String) (k : ServiceKey) :
    (retractFrom ask p r w).world.listed g identity k =
      if p.group = g ∧ r.identity = identity ∧ p.config.key = k then false
      else w.listed g identity k := by
  have hsame := (@sameBindings_registryFor σ ask w p.group r).listed g identity k
  have hfound := @registryFor_found σ ask w h p.group r
  have hmissing := @registryFor_missing σ ask w p.group r
  rw [retractFrom]
  generalize registryFor ask p.group r w = found at hsame hfound hmissing ⊢
  obtain ⟨result, w₁⟩ := found
  cases result with
  | error e =>
    refine Eq.trans hsame ?_
    split
    · next hmeant =>
      obtain ⟨rfl, rfl, -⟩ := hmeant
      rw [listed, hmissing rfl]
      rfl
    · rfl
  | ok x =>
    obtain ⟨hx, -⟩ := hfound rfl
    dsimp only at hsame ⊢
    rw [listed_perform_unregister, perform_release hreleases w₁ rfl, hx, hsame]
    simp [Except.isOk, Except.toBool, view]

theorem listed_retract (hreleases : ask.Releases) (p : Provider) (registries : List RegistryConfig)
    {w : World σ} (h : Filed w) (g : Nat) (identity : String) (k : ServiceKey) :
    (w.retract ask p registries).listed g identity k =
      if ∃ r ∈ registries, p.group = g ∧ r.identity = identity ∧ p.config.key = k then false
      else w.listed g identity k := by
  refine sweep_writes (f := fun w => w.listed g identity k) (P := Filed)
    (m := fun r => p.group = g ∧ r.identity = identity ∧ p.config.key = k) ?_ ?_ registries h
  · intro r w' hw'
    refine ⟨?_, listed_retractFrom hreleases p r hw' g identity k⟩
    exact retractFrom_keeps (fun _ _ _ _ hw => filed_perform hw _) (fun _ _ _ hw => hw) hw'
  · exact fun w' r e hw' => ⟨hw', rfl⟩

end Registries

end World

end ServicePublisher
