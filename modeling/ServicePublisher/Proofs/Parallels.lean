import ServicePublisher.Proofs.Coverage
import ServicePublisher.Proofs.Creations
import ServicePublisher.Proofs.Delays
import ServicePublisher.Proofs.Epochs
import ServicePublisher.Reconfiguration
import ServicePublisher.Schedule

/-! What one provider does in two states side by side. A relation between states that shows the
provider the same on both sides, and that survives each single thing it writes and each call it
makes, survives all that the provider does, and the results are the same. -/
namespace ServicePublisher

open World

variable {σ α : Type}

section Calls

/-- The call addresses a server or a registry that the provider names. -/
def Call.For (p : Provider) : Call → Prop
  | .server s _ => s ∈ p.config.servers
  | .registry g x _ => g = p.group ∧ ∃ r ∈ p.config.announcedIn, r.identity = x.identity

/-- A factory is called only for what does not exist, and anything else only of what exists. -/
def Call.Due (w : World σ) : Call → Prop
  | .server s .create => w.servers.contains s.serial = false
  | .server s _ => w.servers.contains s.serial = true
  | .registry g r .create => w.origin? g r.identity = none
  | .registry g r _ => w.origin? g r.identity = some r

end Calls

section Pairs

variable (R : World σ → World σ → Prop)

/-- The same result, in related states. -/
inductive Outcome.Paired : Outcome σ α → Outcome σ α → Prop
  | mk (result : Except ProviderError α) {w w' : World σ} (h : R w w') :
      Paired ⟨result, w⟩ ⟨result, w'⟩

inductive Stop.Paired : Stop σ → Stop σ → Prop
  | mk (accepted : Bool) {o o' : Outcome σ Unit} (h : o.Paired R o') :
      Paired ⟨accepted, o⟩ ⟨accepted, o'⟩

inductive Walk.Paired : Walk σ α → Walk σ α → Prop
  | mk (accepted : List α) (served : Nat) {o o' : Outcome σ Unit} (h : o.Paired R o') :
      Paired ⟨accepted, served, o⟩ ⟨accepted, served, o'⟩

inductive Attempt.Paired : Attempt σ → Attempt σ → Prop
  | mk (servers : List ServerConfig) (registries : List RegistryConfig) {o o' : Outcome σ Unit}
      (h : o.Paired R o') : Paired ⟨servers, registries, o⟩ ⟨servers, registries, o'⟩

end Pairs

section Walks

variable {R : World σ → World σ → Prop} {report : World σ → α → ProviderError → World σ}
  {xs : List α} {w w' : World σ}

theorem Outcome.Paired.world {o o' : Outcome σ α} (h : o.Paired R o') : R o.world o'.world := by
  cases h with
  | mk result h => exact h

theorem Outcome.Paired.result {o o' : Outcome σ α} (h : o.Paired R o') : o'.result = o.result := by
  cases h with
  | mk result h => rfl

theorem Walk.Paired.after {walk walk' : Walk σ α} (h : walk.Paired R walk') (here : List α)
    (served : Nat) : (walk.after here served).Paired R (walk'.after here served) := by
  cases h with
  | mk accepted served h => exact .mk _ _ h

theorem visitAll_paired {visit : α → World σ → Stop σ}
    (hvisit : ∀ x ∈ xs, ∀ w w', R w w' → (visit x w).Paired R (visit x w'))
    (hreport : ∀ x e w w', R w w' → R (report w x e) (report w' x e)) (h : R w w') :
    (visitAll visit report xs w).Paired R (visitAll visit report xs w') := by
  induction xs generalizing w w' with
  | nil => exact .mk _ _ (.mk _ h)
  | cons x xs ih =>
    have hstop := hvisit x List.mem_cons_self w w' h
    have hrest {w w' : World σ} (h : R w w') :=
      ih (fun y hy => hvisit y (List.mem_cons_of_mem x hy)) h
    rw [visitAll, visitAll]
    generalize visit x w = stop, visit x w' = stop' at hstop ⊢
    obtain ⟨accepted, ⟨result, h⟩⟩ := hstop
    cases result with
    | ok u => exact (hrest h).after _ 1
    | error e =>
      dsimp only
      split
      · exact .mk _ _ (.mk _ h)
      · exact (hrest (hreport x e _ _ h)).after _ 0

theorem sweep_paired {visit : α → World σ → Outcome σ Unit}
    (hvisit : ∀ x ∈ xs, ∀ w w', R w w' → (visit x w).Paired R (visit x w'))
    (hreport : ∀ x e w w', R w w' → R (report w x e) (report w' x e)) (h : R w w') :
    R (sweep visit report xs w) (sweep visit report xs w') := by
  induction xs generalizing w w' with
  | nil => exact h
  | cons x xs ih =>
    have hfirst := hvisit x List.mem_cons_self w w' h
    have hrest {w w' : World σ} (h : R w w') :=
      ih (fun y hy => hvisit y (List.mem_cons_of_mem x hy)) h
    rw [sweep, sweep]
    generalize visit x w = o, visit x w' = o' at hfirst ⊢
    obtain ⟨result, h⟩ := hfirst
    cases result with
    | ok u => exact hrest h
    | error e => exact hrest (hreport x e _ _ h)

end Walks

/-- A relation shows a provider the same on both sides, and survives the single things it does. -/
structure Parallel (ask : Ask σ) (p : Provider) (R : World σ → World σ → Prop) : Prop where
  provider : ∀ {w w'}, R w w' → w'.provider p = w.provider p
  config : ∀ {w w'}, R w w' → w'.config p.config = w.config p.config
  built : ∀ {w w'}, R w w' → ∀ s ∈ p.config.servers,
    w'.servers.contains s.serial = w.servers.contains s.serial
  origin : ∀ {w w'}, R w w' → ∀ r ∈ p.config.announcedIn,
    w'.origin? p.group r.identity = w.origin? p.group r.identity
  filed : ∀ {w w'}, R w w' → Filed w
  log : ∀ {w w'}, R w w' → ∀ n, R (w.log n) (w'.log n)
  call : ∀ {w w'}, R w w' → ∀ c : Call, c.For p → c.Due w →
    (w.perform ask c).Paired R (w'.perform ask c)
  modifyProvider : ∀ {w w'}, R w w' → ∀ f, R (w.modifyProvider p f) (w'.modifyProvider p f)
  modifyConfig : ∀ {w w'}, R w w' → ∀ f,
    R (w.modifyConfig p.config f) (w'.modifyConfig p.config f)
  recordArgs : ∀ {w w'}, R w w' →
    R (w.modifyServices p.group fun t => { t with args := t.args.recordAll p.config.interface })
      (w'.modifyServices p.group fun t => { t with args := t.args.recordAll p.config.interface })
  acquire : ∀ {w w'}, R w w' → ∀ limit,
    (w.acquire p.group p.config.key limit).Paired R (w'.acquire p.group p.config.key limit)
  release : ∀ {w w'}, R w w' →
    (w'.release p.group p.config.key).1 = (w.release p.group p.config.key).1 ∧
      R (w.release p.group p.config.key).2 (w'.release p.group p.config.key).2
  enlist : ∀ {w w'}, R w w' → R (w.enlist p) (w'.enlist p)
  delist : ∀ {w w'}, R w w' → R (w.delist p) (w'.delist p)

theorem registryFor_eq (ask : Ask σ) (g : Nat) (r : RegistryConfig) (w : World σ) :
    registryFor ask g r w =
      match w.origin? g r.identity with
      | some x => ⟨.ok x, w⟩
      | none =>
        match w.perform ask (.registry g r .create) with
        | ⟨.error e, w⟩ => ⟨.error e, w⟩
        | ⟨.ok (), w⟩ => ⟨.ok r, w.log (.registryCreated r.id r.identity)⟩ := by
  rw [registryFor, origin?]
  cases (w.services g).registries[r.identity]? <;> rfl

/-- A registry that has been looked up is known from then on, under the identity asked for. -/
theorem registryFor_known {ask : Ask σ} {w : World σ} (hfiled : Filed w) {g : Nat}
    {r x : RegistryConfig} (hok : (registryFor ask g r w).result = .ok x) :
    x.identity = r.identity ∧ (registryFor ask g r w).world.origin? g x.identity = some x := by
  obtain ⟨hidentity, -⟩ := registryFor_found hfiled hok
  obtain ⟨-, horigin⟩ := origin?_registryFor ask w hok
  exact ⟨hidentity, by rw [horigin, if_pos hidentity]⟩

namespace Parallel

variable {ask : Ask σ} {p : Provider} {R : World σ → World σ → Prop} {w w' : World σ}
  (h : Parallel ask p R)
include h

section Reading

theorem isPublished (hw : R w w') : w'.isPublished p = w.isPublished p := by
  rw [World.isPublished, h.provider hw, World.isPublished]

theorem view (hw : R w w') : w'.view p.config = w.view p.config := by
  rw [World.view, h.config hw, World.view]

theorem nextInvoker (hw : R w w') : w'.nextInvoker p = w.nextInvoker p := by
  rw [World.nextInvoker, h.provider hw, World.nextInvoker]

end Reading

section Bindings

theorem build (hw : R w w') {s : ServerConfig} (hs : s ∈ p.config.servers) :
    (w.build ask s).Paired R (w'.build ask s) := by
  rw [World.build, World.build, h.built hw s hs]
  split
  · exact .mk _ hw
  · next hnew => exact h.call hw _ hs (Bool.eq_false_iff.2 hnew)

theorem bindServer (hw : R w w') (v : Invoker) {s : ServerConfig} (hs : s ∈ p.config.servers) :
    (World.bindServer ask p.config v s w).Paired R (World.bindServer ask p.config v s w') := by
  have hbuilt := h.build hw hs
  have hexists := @mem_servers_build σ ask w s
  rw [World.bindServer, World.bindServer]
  generalize w.build ask s = o, w'.build ask s = o' at hbuilt hexists ⊢
  obtain @⟨result, w₁, w₁', hw⟩ := hbuilt
  cases result with
  | error e => exact .mk _ (.mk _ hw)
  | ok u =>
    have hthere : w₁.servers.contains s.serial = true :=
      Std.ExtTreeMap.contains_iff_mem.2 (hexists rfl)
    have hregistered := h.call hw (.server s (.register (w₁.view p.config) v)) hs hthere
    have hstill := contains_perform ask w₁ (.server s (.register (w₁.view p.config) v)) s.serial
    rw [hthere, Bool.true_or] at hstill
    dsimp only
    rw [h.view hw]
    generalize w₁.perform ask _ = o, w₁'.perform ask _ = o' at hregistered hstill ⊢
    obtain ⟨result, hw⟩ := hregistered
    cases result with
    | error e => exact .mk _ (.mk _ hw)
    | ok u =>
      refine .mk _ ?_
      split
      · exact h.call hw _ hs hstill
      · exact .mk _ hw

theorem bindServers (hw : R w w') (v : Invoker) :
    (w.bindServers ask p.config v).Paired R (w'.bindServers ask p.config v) :=
  visitAll_paired (fun _ hs _ _ hw => h.bindServer hw v hs) (fun _ _ _ _ hw => h.log hw _) hw

theorem unbindServers (hw : R w w') {servers : List ServerConfig}
    (hservers : ∀ s ∈ servers, s ∈ p.config.servers) :
    R (w.unbindServers ask p.config servers) (w'.unbindServers ask p.config servers) := by
  refine sweep_paired (fun s hs w w' hw => ?_) (fun _ _ _ _ hw => h.log hw _) hw
  rw [World.unbindServer, World.unbindServer, h.built hw s (hservers s hs), h.view hw]
  split
  · next hthere => exact h.call hw _ (hservers s hs) hthere
  · exact .mk _ hw

theorem registryFor (hw : R w w') {r : RegistryConfig} (hr : r ∈ p.config.announcedIn) :
    (World.registryFor ask p.group r w).Paired R (World.registryFor ask p.group r w') := by
  rw [registryFor_eq, registryFor_eq, h.origin hw r hr]
  cases hx : w.origin? p.group r.identity with
  | some x => exact .mk _ hw
  | none =>
    have hcreated := h.call hw (.registry p.group r .create) ⟨rfl, r, hr, rfl⟩ hx
    dsimp only
    generalize w.perform ask _ = o, w'.perform ask _ = o' at hcreated ⊢
    obtain ⟨result, hw⟩ := hcreated
    cases result with
    | error e => exact .mk _ hw
    | ok u => exact .mk _ (h.log hw _)

/-- What is asked of a registry that has been looked up is asked of one that the provider names. -/
theorem call_found (hw : R w w') {r x : RegistryConfig} (hr : r ∈ p.config.announcedIn)
    (hx : x.identity = r.identity) (hknown : w.origin? p.group x.identity = some x)
    (request : RegistryRequest) (hrequest : request ≠ .create) :
    (w.perform ask (.registry p.group x request)).Paired R
      (w'.perform ask (.registry p.group x request)) := by
  refine h.call hw _ ⟨rfl, r, hr, hx.symm⟩ ?_
  cases request with
  | create => exact absurd rfl hrequest
  | _ => exact hknown

theorem prime (hw : R w w') {registries : List RegistryConfig}
    (hregistries : ∀ r ∈ registries, r ∈ p.config.announcedIn) :
    (World.prime ask p.group registries w).Paired R (World.prime ask p.group registries w') := by
  induction registries generalizing w w' with
  | nil => exact .mk _ hw
  | cons r rs ih =>
    have hfound := h.registryFor hw (hregistries r List.mem_cons_self)
    rw [World.prime, World.prime]
    generalize World.registryFor ask p.group r w = o, World.registryFor ask p.group r w' = o'
      at hfound ⊢
    obtain ⟨result, hw⟩ := hfound
    cases result with
    | error e => exact .mk _ hw
    | ok x => exact ih hw fun r' hr' => hregistries r' (List.mem_cons_of_mem r hr')

theorem announceIn (hw : R w w') {r : RegistryConfig} (hr : r ∈ p.config.announcedIn) :
    (World.announceIn ask p r w).Paired R (World.announceIn ask p r w') := by
  have hfound := h.registryFor hw hr
  have hknown := fun x => @registryFor_known σ ask w (h.filed hw) p.group r x
  rw [World.announceIn, World.announceIn]
  generalize World.registryFor ask p.group r w = o, World.registryFor ask p.group r w' = o'
    at hfound hknown ⊢
  obtain @⟨result, w₁, w₁', hw⟩ := hfound
  cases result with
  | error e => exact .mk _ hw
  | ok x =>
    obtain ⟨hx, hthere⟩ := hknown x rfl
    have hinit := h.call_found hw hr hx hthere .init (by simp)
    have hstill := origin?_perform ask w₁ (.registry p.group x .init) (by simp) p.group x.identity
    rw [hthere] at hstill
    dsimp only
    generalize w₁.perform ask _ = o, w₁'.perform ask _ = o' at hinit hstill ⊢
    obtain @⟨result, w₂, w₂', hw⟩ := hinit
    cases result with
    | error e => exact .mk _ hw
    | ok u =>
      have hstart := h.call_found hw hr hx hstill .start (by simp)
      have hstill' :=
        origin?_perform ask w₂ (.registry p.group x .start) (by simp) p.group x.identity
      rw [hstill] at hstill'
      dsimp only
      generalize w₂.perform ask _ = o, w₂'.perform ask _ = o' at hstart hstill' ⊢
      obtain ⟨result, hw⟩ := hstart
      cases result with
      | error e => exact .mk _ hw
      | ok u =>
        dsimp only
        rw [h.view hw]
        exact h.call_found hw hr hx hstill' _ (by simp)

theorem announce (hw : R w w') : (w.announce ask p).Paired R (w'.announce ask p) := by
  refine visitAll_paired (fun r hr w w' hw => ?_) (fun _ _ _ _ hw => h.log hw _) hw
  have hannounced := h.announceIn hw hr
  rw [World.announceStop, World.announceStop]
  generalize World.announceIn ask p r w = o, World.announceIn ask p r w' = o' at hannounced ⊢
  obtain ⟨result, hw⟩ := hannounced
  exact .mk _ (.mk _ hw)

theorem retract (hw : R w w') {registries : List RegistryConfig}
    (hregistries : ∀ r ∈ registries, r ∈ p.config.announcedIn) :
    R (w.retract ask p registries) (w'.retract ask p registries) := by
  refine sweep_paired (fun r hr w w' hw => ?_) (fun _ _ _ _ hw => h.log hw _) hw
  have hfound := h.registryFor hw (hregistries r hr)
  have hknown := fun x => @registryFor_known σ ask w (h.filed hw) p.group r x
  rw [World.retractFrom, World.retractFrom]
  generalize World.registryFor ask p.group r w = o, World.registryFor ask p.group r w' = o'
    at hfound hknown ⊢
  obtain ⟨result, hw⟩ := hfound
  cases result with
  | error e => exact .mk _ hw
  | ok x =>
    obtain ⟨hx, hthere⟩ := hknown x rfl
    dsimp only
    rw [h.view hw]
    exact h.call_found hw (hregistries r hr) hx hthere _ (by simp)

end Bindings

section Lifecycle

theorem decideMethods (hw : R w w') : R (w.decideMethods p) (w'.decideMethods p) := by
  have hlogged (names : List String) {w w' : World σ} (hw : R w w') :
      R
        (names.foldl (fun w n => w.log (.repeatedMethod p.config.appName p.config.interface.id n))
          w)
        (names.foldl (fun w n => w.log (.repeatedMethod p.config.appName p.config.interface.id n))
          w') := by
    induction names generalizing w w' with
    | nil => exact hw
    | cons n names ih => exact ih (h.log hw _)
  exact h.modifyConfig (h.recordArgs (hlogged p.config.interface.repeated hw))
    fun s => { s with policy := some p.config.policy }

theorem openInvoker (hw : R w w') : R (w.openInvoker p) (w'.openInvoker p) := by
  rw [World.openInvoker, World.openInvoker, h.nextInvoker hw]
  exact h.modifyProvider hw _

theorem attempt (hw : R w w') : (w.attempt ask p).Paired R (w'.attempt ask p) := by
  have hprimed := h.prime (h.openInvoker hw) fun r (hr : r ∈ p.config.announcedIn) => hr
  rw [World.attempt, World.attempt]
  dsimp only
  rw [h.nextInvoker hw]
  generalize World.prime ask p.group p.config.announcedIn (w.openInvoker p) = o,
    World.prime ask p.group p.config.announcedIn (w'.openInvoker p) = o' at hprimed ⊢
  obtain @⟨result, w₁, w₁', hw₁⟩ := hprimed
  cases result with
  | error e => exact .mk _ _ (.mk _ hw₁)
  | ok u =>
    have hbound := h.bindServers hw₁ (w.nextInvoker p)
    dsimp only
    generalize w₁.bindServers ask p.config (w.nextInvoker p) = walk,
      w₁'.bindServers ask p.config (w.nextInvoker p) = walk' at hbound ⊢
    obtain ⟨accepted, served, @⟨result, w₂, w₂', hw₂⟩⟩ := hbound
    cases result with
    | error e => exact .mk _ _ (.mk _ hw₂)
    | ok u =>
      have hlistening : R
          ((w₂.report p.config (.processorBound served)).setListener p.config (some (.republish p)))
          ((w₂'.report p.config (.processorBound served)).setListener p.config
            (some (.republish p))) :=
        h.modifyConfig (h.log hw₂ _) _
      have hannounced := h.announce hlistening
      dsimp only
      generalize World.announce ask _ p = walk,
        ((w₂'.report p.config (.processorBound served)).setListener p.config
          (some (.republish p))).announce ask p = walk' at hannounced ⊢
      obtain ⟨accepted', served', hend⟩ := hannounced
      exact .mk _ _ hend

theorem discard (hw : R w w') {a a' : Attempt σ} (ha : a.Paired R a')
    (hservers : ∀ s ∈ a.servers, s ∈ p.config.servers)
    (hregistries : ∀ r ∈ a.registries, r ∈ p.config.announcedIn) :
    R (w.discard ask p a) (w'.discard ask p a') := by
  have hclosed : R ((w.setListener p.config none).closeInvoker p)
      ((w'.setListener p.config none).closeInvoker p) :=
    h.modifyProvider (h.modifyConfig hw _) _
  obtain ⟨hremaining, hreleased⟩ := h.release hclosed
  obtain ⟨servers, registries, hend⟩ := ha
  rw [discard_eq, discard_eq]
  dsimp only
  rw [hremaining]
  split
  · exact h.log hreleased _
  · exact h.unbindServers (h.retract hreleased hregistries) hservers

theorem publishNow (hw : R w w') : (w.publishNow ask p).Paired R (w'.publishNow ask p) := by
  have hprepared : R ((w.decideMethods p).report p.config (.publishing p.config.id))
      ((w'.decideMethods p).report p.config (.publishing p.config.id)) :=
    h.log (h.decideMethods hw) _
  have hcounted := h.acquire hprepared p.config.repeatLimit.toInt
  rw [World.publishNow, World.publishNow, h.isPublished hw]
  dsimp only
  split
  · exact .mk _ hw
  · cases p.config.check with
    | error e => exact .mk _ hw
    | ok u =>
      dsimp only
      generalize World.acquire _ p.group p.config.key p.config.repeatLimit.toInt = o,
        ((w'.decideMethods p).report p.config (.publishing p.config.id)).acquire p.group
          p.config.key p.config.repeatLimit.toInt = o' at hcounted ⊢
      obtain @⟨result, w₁, w₁', hw₁⟩ := hcounted
      cases result with
      | error e => exact .mk _ hw₁
      | ok count =>
        have hcalled : R (if 1 < count then w₁.report p.config (.publishedBefore count) else w₁)
            (if 1 < count then w₁'.report p.config (.publishedBefore count) else w₁') := by
          split
          · exact h.log hw₁ _
          · exact hw₁
        have hattempted := h.attempt hcalled
        dsimp only
        generalize (if 1 < count then w₁.report p.config (.publishedBefore count) else w₁) = w₂,
          (if 1 < count then w₁'.report p.config (.publishedBefore count) else w₁') = w₂'
          at hattempted ⊢
        have hservers : ∀ s ∈ (w₂.attempt ask p).servers, s ∈ p.config.servers :=
          fun _ hs => mem_servers_of_mem_attempt hs
        have hregistries : ∀ r ∈ (w₂.attempt ask p).registries, r ∈ p.config.announcedIn :=
          fun _ hr => mem_announcedIn_of_mem_attempt hr
        generalize w₂.attempt ask p = a, w₂'.attempt ask p = a'
          at hattempted hservers hregistries ⊢
        obtain ⟨servers, registries, @⟨result, w₃, w₃', hw₃⟩⟩ := hattempted
        cases result with
        | error e =>
          exact .mk _ (h.discard hw₃ (.mk servers registries (.mk (.error e) hw₃)) hservers
            hregistries)
        | ok u => exact .mk _ (h.modifyProvider (h.enlist hw₃) _)

theorem concluded (hw : R w w') : R (w.concluded p) (w'.concluded p) := by
  have hsilent : R (w.setListener p.config none) (w'.setListener p.config none) :=
    h.modifyConfig hw _
  obtain ⟨hremaining, hreleased⟩ := h.release hsilent
  rw [World.concluded, World.concluded, hremaining]
  exact h.modifyProvider (h.delist (h.log hreleased _)) _

theorem withdraw (hw : R w w') : R (w.withdraw ask p) (w'.withdraw ask p) := by
  have hraised := h.modifyProvider hw fun s => { s with epoch := s.epoch + 1 }
  have hlive := h.isPublished hw
  cases hpublished : w.isPublished p with
  | false =>
    rw [withdraw_unpublished ask hpublished, withdraw_unpublished ask (hlive.trans hpublished)]
    exact hraised
  | true =>
    have hbegun : R (w.withdrawing p) (w'.withdrawing p) := h.log hraised _
    have hclosed : R (((w.withdrawing p).retract ask p p.config.announcedIn).closeInvoker p)
        (((w'.withdrawing p).retract ask p p.config.announcedIn).closeInvoker p) :=
      h.modifyProvider (h.retract hbegun fun _ hr => hr) _
    rw [withdraw_published ask hpublished, withdraw_published ask (hlive.trans hpublished)]
    exact h.concluded (h.unbindServers hclosed fun _ hs => hs)

end Lifecycle

end Parallel

namespace World

/-- Where the schedule has one of the publications of a provider, of which it is told which. -/
def turn (w : World σ) (p : Provider) (n : Nat) : Nat :=
  w.scheduled.findIdxNth (fun s => s.provider.number == p.number) n

end World

/-- The relation also shows the provider the same of the schedule, and survives what it writes
there. -/
structure ParallelInTime (ask : Ask σ) (p : Provider) (R : World σ → World σ → Prop) : Prop
    extends Parallel ask p R where
  alive : ∀ {w w'}, R w w' → w'.isAlive p = w.isAlive p
  enrolled : ∀ {w w'}, R w w' → R (w.enrolled p) (w'.enrolled p)
  scheduled : ∀ {w w'}, R w w' → ∀ n,
    w'.scheduled[w'.turn p n]? = w.scheduled[w.turn p n]? ∧
      ∀ s, w.scheduled[w.turn p n]? = some s → s.provider = p
  unscheduled : ∀ {w w'}, R w w' → ∀ n,
    R (w.unscheduled (w.turn p n)) (w'.unscheduled (w'.turn p n))

namespace ParallelInTime

variable {ask : Ask σ} {p : Provider} {R : World σ → World σ → Prop} {w w' : World σ}
  (h : ParallelInTime ask p R)
include h

section Publications

theorem publish (hw : R w w') : (w.publish ask p).Paired R (w'.publish ask p) := by
  by_cases hdelay : p.config.delayMs = 0
  · rw [publish_at_once ask w hdelay, publish_at_once ask w' hdelay]
    exact h.publishNow hw
  · have hlive := h.isPublished hw
    cases hpublished : w.isPublished p with
    | true =>
      have hlive' := hlive.trans hpublished
      simp only [World.publish, hdelay, hpublished, hlive', if_true, if_false]
      exact .mk _ hw
    | false =>
      rw [publish_of_delay ask (Nat.pos_of_ne_zero hdelay) hpublished,
        publish_of_delay ask (Nat.pos_of_ne_zero hdelay) (hlive.trans hpublished)]
      exact .mk _ (h.log (h.enrolled hw) _)

theorem fire (hw : R w w') (n : Nat) :
    R (w.fire ask (w.turn p n)) (w'.fire ask (w'.turn p n)) := by
  obtain ⟨hsame, hown⟩ := h.scheduled hw n
  have hless := h.unscheduled hw n
  rw [World.fire, World.fire, hsame]
  cases hs : w.scheduled[w.turn p n]? with
  | none => exact hw
  | some s =>
    obtain rfl := hown s hs
    change R ((w.unscheduled _).carryOut ask s) ((w'.unscheduled _).carryOut ask s)
    rw [carryOut, carryOut, h.provider hless]
    split
    · exact h.log hless _
    · have hpublished := h.publishNow hless
      generalize World.publishNow ask (w.unscheduled _) s.provider = o,
        World.publishNow ask (w'.unscheduled _) s.provider = o' at hpublished ⊢
      obtain ⟨result, hw⟩ := hpublished
      cases result with
      | ok u => exact hw
      | error e => exact h.log hw _

end Publications

section Changes

theorem updateAttribute (hw : R w w') (key : String) (value : Option String) (b : Bool) :
    (w.updateAttribute p.config key value b).Paired R
      (w'.updateAttribute p.config key value b) := by
  rw [World.updateAttribute, World.updateAttribute, h.config hw]
  cases p.config.update (w.config p.config).attributes key value b with
  | error e => exact .mk _ hw
  | ok r => exact .mk _ (h.modifyConfig hw _)

theorem updateAll (hw : R w w') (updates : List (String × Option String)) :
    (World.updateAll p.config updates w).Paired R (World.updateAll p.config updates w') := by
  induction updates generalizing w w' with
  | nil => exact .mk _ hw
  | cons u rest ih =>
    have hfirst := h.updateAttribute hw u.1 u.2 true
    rw [World.updateAll, World.updateAll]
    generalize w.updateAttribute p.config u.1 u.2 true = o,
      w'.updateAttribute p.config u.1 u.2 true = o' at hfirst ⊢
    obtain ⟨result, hw⟩ := hfirst
    cases result with
    | error e => exact .mk _ hw
    | ok b => exact ih hw

theorem restore (hw : R w w') (old : List (String × Option String)) :
    R (World.restore p.config old w) (World.restore p.config old w') := by
  induction old generalizing w w' with
  | nil => exact hw
  | cons u rest ih =>
    have hfirst := h.updateAttribute hw u.1 u.2 true
    rw [World.restore, World.restore]
    generalize w.updateAttribute p.config u.1 u.2 true = o,
      w'.updateAttribute p.config u.1 u.2 true = o' at hfirst ⊢
    obtain ⟨result, hw⟩ := hfirst
    cases result with
    | error e => exact ih (h.log hw _)
    | ok b => exact ih hw

theorem republish (hw : R w w') (updates : List (String × Option String)) :
    (w.republish ask p updates).Paired R (w'.republish ask p updates) := by
  have hwritten := h.updateAll (h.withdraw hw) updates
  rw [World.republish, World.republish]
  generalize World.updateAll p.config updates (w.withdraw ask p) = o,
    World.updateAll p.config updates (w'.withdraw ask p) = o' at hwritten ⊢
  obtain ⟨result, hw⟩ := hwritten
  cases result with
  | error e => exact .mk _ hw
  | ok u => exact h.publish hw

theorem rollBack (hw : R w w') (old : List (String × Option String)) :
    (w.rollBack ask p old).Paired R (w'.rollBack ask p old) := by
  have hpublished := h.publish (h.restore hw old)
  rw [World.rollBack, World.rollBack]
  generalize (World.restore p.config old w).publish ask p = o,
    (World.restore p.config old w').publish ask p = o' at hpublished ⊢
  obtain ⟨result, hw⟩ := hpublished
  cases result with
  | error e => exact .mk _ (h.log hw _)
  | ok u => exact .mk _ hw

theorem staleValues (hw : R w w') (updates : List (String × Option String)) :
    w'.staleValues p.config updates = w.staleValues p.config updates := by
  induction updates with
  | nil => rfl
  | cons u rest ih =>
    rw [World.staleValues, World.staleValues, queryAttribute, queryAttribute, h.config hw, ih]

theorem reconfigure (hw : R w w') (updates : List (String × Option String)) :
    (w.reconfigure ask p updates).Paired R (w'.reconfigure ask p updates) := by
  have hagain := h.republish (h.log hw (.ofProvider p.config.appName p.config.key .republishing))
    updates
  rw [World.reconfigure, World.reconfigure, h.staleValues hw]
  dsimp only [report]
  split
  · exact .mk _ (h.log hw _)
  · exact .mk _ hw
  · generalize World.republish ask (w.log _) p updates = o,
      World.republish ask (w'.log _) p updates = o' at hagain ⊢
    obtain ⟨result, hw⟩ := hagain
    cases result with
    | ok u => exact .mk _ hw
    | error e => exact h.rollBack (h.log hw _) _

/-- A configuration that only its own provider may listen to is told of a change. -/
theorem notify (hw : R w w') (change : Change)
    (hlistener : ∀ l, (w.config p.config).listener = some l → l = .republish p) :
    (w.notify ask p.config change).Paired R (w'.notify ask p.config change) := by
  unfold World.notify
  rw [h.config hw]
  cases hl : (w.config p.config).listener with
  | none => exact .mk _ hw
  | some l =>
    obtain rfl := hlistener l hl
    cases change with
    | replaced values => exact .mk _ hw
    | updated values =>
      dsimp only
      rw [h.alive hw]
      split
      · exact h.reconfigure hw _
      · exact .mk _ hw

end Changes

end ParallelInTime

end ServicePublisher
