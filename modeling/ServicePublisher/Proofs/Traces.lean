import ServicePublisher.Proofs.Creations
import ServicePublisher.Proofs.Stock

/-! The calls of a publication and of a withdrawal, whatever is answered. A walk makes the calls of
its visits one after another, and a publication or a withdrawal consists of a few walks. -/
namespace ServicePublisher

open World

variable {σ α : Type} {ask : Ask σ} {w w' w'' : World σ} {p : Provider}

/-- What is exchanged in visits one after another. -/
inductive Along (visit : α → List Exchange → Prop) : List α → List Exchange → Prop
  | nil : Along visit [] []
  | cons {x : α} {xs : List α} {here made : List Exchange} (hx : visit x here)
      (h : Along visit xs made) : Along visit (x :: xs) (here ++ made)

theorem Along.forall {visit : α → List Exchange → Prop} {P : Exchange → Prop}
    (hvisit : ∀ x here, visit x here → ∀ y ∈ here, P y) {xs : List α} {made : List Exchange}
    (h : Along visit xs made) : ∀ y ∈ made, P y := by
  induction h with
  | nil => simp
  | cons hx h ih =>
    intro y hy
    obtain hy | hy := List.mem_append.1 hy
    · exact hvisit _ _ hx y hy
    · exact ih y hy

/-- Where only some of a list are asked, they are what is visited. -/
theorem Along.filter {visit : α → List Exchange → Prop} {asked : α → Bool} {xs : List α}
    {made : List Exchange}
    (h : Along (fun x here => if asked x then visit x here else here = []) xs made) :
    Along visit (xs.filter asked) made := by
  induction h with
  | nil => exact .nil
  | cons hx h ih =>
    split at hx
    · next hasked =>
      rw [List.filter_cons_of_pos hasked]
      exact .cons hx ih
    · next hasked =>
      rw [List.filter_cons_of_neg hasked, hx]
      exact ih

section Walks

variable {kind : α → List Exchange → Prop} {P : World σ → Prop} {xs : List α}

/-- The part of a list that a walk visited, with the calls of these visits. -/
structure Walk.Visits (walk : Walk σ α) (kind : α → List Exchange → Prop) (xs : List α)
    (w : World σ) (visited : List α) (made : List Exchange) : Prop where
  ahead : visited <+: xs
  along : Along kind visited made
  makes : Makes w walk.outcome.world made
  finished : walk.outcome.result = .ok () → visited = xs
  accepted : walk.accepted.Sublist visited

/-- A walk visits its list from the front, all of it unless it is ended. -/
theorem visitAll_visits {visit : α → World σ → Stop σ}
    {report : World σ → α → ProviderError → World σ}
    (hvisit : ∀ x ∈ xs, ∀ w, P w → P (visit x w).outcome.world ∧
      ∃ made, kind x made ∧ Makes w (visit x w).outcome.world made)
    (hreport : ∀ w x e, P w → P (report w x e) ∧ (report w x e).exchanges = w.exchanges)
    {w : World σ} (h : P w) :
    ∃ visited made, (visitAll visit report xs w).Visits kind xs w visited made := by
  induction xs generalizing w with
  | nil => exact ⟨[], [], List.prefix_rfl, .nil, .refl w, fun _ => rfl, .slnil⟩
  | cons x xs ih =>
    have hrest := @ih fun y hy => hvisit y (List.mem_cons_of_mem x hy)
    obtain ⟨hkept, made, hkind, hmade⟩ := hvisit x List.mem_cons_self w h
    have hhere (accepted : Bool) : (if accepted then [x] else []).Sublist [x] := by
      cases accepted <;> simp
    rw [visitAll]
    generalize visit x w = stop at hkept hmade ⊢
    obtain ⟨accepted, result, w₁⟩ := stop
    dsimp only at hkept hmade ⊢
    cases result with
    | ok u =>
      obtain ⟨visited, later, hwalk⟩ := hrest hkept
      refine ⟨x :: visited, made ++ later, ?_, .cons hkind hwalk.along, hmade.trans hwalk.makes,
        fun hok => ?_, ?_⟩
      · exact List.cons_prefix_cons.2 ⟨rfl, hwalk.ahead⟩
      · rw [hwalk.finished hok]
      · exact (hhere accepted).append hwalk.accepted
    | error e =>
      -- A framework error ends the walk here, any other is reported and the walk goes on.
      dsimp only
      split
      · refine ⟨[x], made, ?_, ?_, hmade, fun hok => (by cases hok), hhere accepted⟩
        · exact List.cons_prefix_cons.2 ⟨rfl, List.nil_prefix⟩
        · simpa using Along.cons hkind .nil
      · obtain ⟨hreported, hquiet⟩ := hreport w₁ x e hkept
        obtain ⟨visited, later, hwalk⟩ := hrest hreported
        refine ⟨x :: visited, made ++ later, ?_, .cons hkind hwalk.along,
          (hmade.trans_eq hquiet).trans hwalk.makes, fun hok => ?_, ?_⟩
        · exact List.cons_prefix_cons.2 ⟨rfl, hwalk.ahead⟩
        · rw [hwalk.finished hok]
        · exact (hhere accepted).append hwalk.accepted

theorem sweep_visits {visit : α → World σ → Outcome σ Unit}
    {report : World σ → α → ProviderError → World σ}
    (hvisit : ∀ x ∈ xs, ∀ w, P w → P (visit x w).world ∧
      ∃ made, kind x made ∧ Makes w (visit x w).world made)
    (hreport : ∀ w x e, P w → P (report w x e) ∧ (report w x e).exchanges = w.exchanges)
    {w : World σ} (h : P w) :
    ∃ made, Along kind xs made ∧ Makes w (sweep visit report xs w) made := by
  induction xs generalizing w with
  | nil => exact ⟨[], .nil, .refl w⟩
  | cons x xs ih =>
    have hrest := @ih fun y hy => hvisit y (List.mem_cons_of_mem x hy)
    obtain ⟨hkept, made, hkind, hmade⟩ := hvisit x List.mem_cons_self w h
    rw [sweep]
    generalize visit x w = outcome at hkept hmade ⊢
    obtain ⟨result, w₁⟩ := outcome
    dsimp only at hkept hmade ⊢
    cases result with
    | ok u =>
      obtain ⟨later, halong, hlater⟩ := hrest hkept
      exact ⟨made ++ later, .cons hkind halong, hmade.trans hlater⟩
    | error e =>
      obtain ⟨hreported, hquiet⟩ := hreport w₁ x e hkept
      obtain ⟨later, halong, hlater⟩ := hrest hreported
      exact ⟨made ++ later, .cons hkind halong, (hmade.trans_eq hquiet).trans hlater⟩

end Walks

section Visits

/-- A registry is looked up: it is known, or it is to be created. -/
def CreatingVisit (g : Nat) (r : RegistryConfig) (made : List Exchange) : Prop :=
  made = [] ∨ InTurn [.registry g r .create] made

def BindingVisit (c : ProviderConfig) (v : Invoker) (s : ServerConfig) (made : List Exchange) :
    Prop :=
  ∃ view : ConfigView, view.config = c ∧ (InTurn (s.bindingCalls view v) made ∨
    InTurn (.server s .create :: s.bindingCalls view v) made)

/-- A registry is known by its identity, so another configuration of it may have created it. -/
def AnnouncingVisit (p : Provider) (r : RegistryConfig) (made : List Exchange) : Prop :=
  ∃ (x : RegistryConfig) (view : ConfigView), x.identity = r.identity ∧ view.config = p.config ∧
    InTurn [.registry p.group x .init, .registry p.group x .start,
      .registry p.group x (.register view)] made

def RetractingVisit (p : Provider) (r : RegistryConfig) (made : List Exchange) : Prop :=
  ∃ (x : RegistryConfig) (view : ConfigView), x.identity = r.identity ∧ view.config = p.config ∧
    InTurn [.registry p.group x (.unregister view)] made

def UnbindingVisit (c : ProviderConfig) (s : ServerConfig) (made : List Exchange) : Prop :=
  ∃ view : ConfigView, view.config = c ∧
    InTurn [.server s (.unregister view s.settings.autoStart)] made

variable (ask w)

theorem creatingVisit_registryFor (g : Nat) (r : RegistryConfig) :
    ∃ made, CreatingVisit g r made ∧ Makes w (registryFor ask g r w).world made := by
  obtain ⟨made, hturn, hmade, -, -⟩ := conducts_registryFor ask w g r
  rw [filing] at hturn
  split at hturn
  · cases hturn
    exact ⟨[], .inl rfl, hmade⟩
  · exact ⟨made, .inr hturn, hmade⟩

theorem prime_visits (g : Nat) (registries : List RegistryConfig) :
    ∃ visited made, visited <+: registries ∧ Along (CreatingVisit g) visited made ∧
      Makes w (prime ask g registries w).world made ∧
      ((prime ask g registries w).result = .ok () → visited = registries) := by
  induction registries generalizing w with
  | nil => exact ⟨[], [], List.prefix_rfl, .nil, .refl w, fun _ => rfl⟩
  | cons r rs ih =>
    obtain ⟨made, hkind, hmade⟩ := creatingVisit_registryFor ask w g r
    rw [prime]
    generalize registryFor ask g r w = found at hmade ⊢
    obtain ⟨result, w₁⟩ := found
    cases result with
    | error e =>
      refine ⟨[r], made, ?_, ?_, hmade, fun hok => (by cases hok)⟩
      · exact List.cons_prefix_cons.2 ⟨rfl, List.nil_prefix⟩
      · simpa using Along.cons hkind .nil
    | ok x =>
      obtain ⟨visited, later, hahead, halong, hlater, hfinished⟩ := ih w₁
      refine ⟨r :: visited, made ++ later, ?_, .cons hkind halong, hmade.trans hlater,
        fun hok => by rw [hfinished hok]⟩
      exact List.cons_prefix_cons.2 ⟨rfl, hahead⟩

theorem bindingVisit_bindServer (c : ProviderConfig) (v : Invoker) (s : ServerConfig) :
    ∃ made, BindingVisit c v s made ∧ Makes w (bindServer ask c v s w).outcome.world made := by
  obtain ⟨made, hturn, hmade, -, -⟩ := conducts_bindServer ask w c v s
  refine ⟨made, ⟨w.view c, rfl, ?_⟩, hmade⟩
  rw [creating] at hturn
  split at hturn
  · exact .inl hturn
  · exact .inr hturn

theorem bindServers_visits (c : ProviderConfig) (v : Invoker) :
    ∃ visited made, (w.bindServers ask c v).Visits (BindingVisit c v) c.servers w visited made :=
  visitAll_visits (P := fun _ => True)
    (fun s _ w _ => ⟨trivial, bindingVisit_bindServer ask w c v s⟩)
    (fun w _ _ _ => ⟨trivial, exchanges_log w _⟩) trivial

theorem contains_unbindServer (c : ProviderConfig) (s : ServerConfig) (serial : Nat) :
    (unbindServer ask c s w).world.servers.contains serial = w.servers.contains serial := by
  rw [unbindServer]
  split
  · simp [contains_perform, serverMade?]
  · rfl

/-- On the way back the servers that exist are addressed, and no others. -/
theorem unbindServers_visits (c : ProviderConfig) (servers : List ServerConfig) :
    ∃ made,
      Along (UnbindingVisit c) (servers.filter fun s => w.servers.contains s.serial) made ∧
      Makes w (w.unbindServers ask c servers) made := by
  -- Unbinding creates and removes no server, so those of the first state are those met on the way.
  have hsweep : ∃ made, Along (fun s here => if w.servers.contains s.serial then
      UnbindingVisit c s here else here = []) servers made ∧
      Makes w (w.unbindServers ask c servers) made := by
    refine sweep_visits (P := fun w' => ∀ n, w'.servers.contains n = w.servers.contains n)
      (fun s _ w' h => ⟨fun n => (contains_unbindServer ask w' c s n).trans (h n), ?_⟩)
      (fun w' s e h => ?_) fun _ => rfl
    · obtain ⟨made, hturn, hmade, -, -⟩ := conducts_unbindServer ask w' c s
      rw [h] at hturn
      refine ⟨made, ?_, hmade⟩
      split at hturn
      · next hexists =>
        rw [if_pos hexists]
        exact ⟨w'.view c, rfl, hturn⟩
      · next hexists =>
        rw [if_neg hexists]
        cases hturn
        rfl
    · exact ⟨h, exchanges_log w' _⟩
  obtain ⟨made, halong, hmade⟩ := hsweep
  exact ⟨made, halong.filter, hmade⟩

variable {ask w}

theorem HasRegistry.origin (hfiled : Filed w) {g : Nat} {identity : String}
    (hknown : w.HasRegistry g identity) :
    ∃ x : RegistryConfig, x.identity = identity ∧ w.origin? g identity = some x := by
  obtain ⟨y, hy⟩ := Option.isSome_iff_exists.1 hknown
  exact ⟨y.origin, hfiled g identity y hy, by rw [origin?, hy]; rfl⟩

theorem announcingVisit_announceIn (hfiled : Filed w) {r : RegistryConfig}
    (hknown : w.HasRegistry p.group r.identity) :
    ∃ made, AnnouncingVisit p r made ∧ Makes w (announceIn ask p r w).world made := by
  obtain ⟨x, hidentity, hx⟩ := HasRegistry.origin hfiled hknown
  obtain ⟨made, hturn, hmade, -, -⟩ := conducts_announceIn ask w hx
  exact ⟨made, ⟨x, w.view p.config, hidentity, rfl, hturn⟩, hmade⟩

theorem known_perform {registries : List RegistryConfig}
    (h : Filed w ∧ w.Stocked p.group registries) (c : Call) :
    Filed (w.perform ask c).world ∧ (w.perform ask c).world.Stocked p.group registries :=
  ⟨filed_perform h.1 c, (keepsRegistries_perform ask w c).stocked h.2⟩

theorem announce_visits (h : Filed w ∧ w.Stocked p.group p.config.announcedIn) :
    ∃ visited made,
      (w.announce ask p).Visits (AnnouncingVisit p) p.config.announcedIn w visited made := by
  refine visitAll_visits (P := fun w => Filed w ∧ w.Stocked p.group p.config.announcedIn)
    (fun r hr w hw => ⟨?_, ?_⟩) (fun w r e hw => ?_) h
  · exact announceStop_keeps (P := fun w => Filed w ∧ w.Stocked p.group p.config.announcedIn)
      (fun w _ _ _ hw => known_perform hw _) (fun _ _ _ hw => hw) hw
  · exact announcingVisit_announceIn hw.1 (hw.2 r hr)
  · exact ⟨hw, exchanges_log w _⟩

theorem retract_visits {registries : List RegistryConfig}
    (h : Filed w ∧ w.Stocked p.group registries) :
    ∃ made, Along (RetractingVisit p) registries made ∧
      Makes w (w.retract ask p registries) made := by
  refine sweep_visits (P := fun w => Filed w ∧ w.Stocked p.group registries)
    (fun r hr w hw => ⟨?_, ?_⟩) (fun w r e hw => ?_) h
  · exact retractFrom_keeps (P := fun w => Filed w ∧ w.Stocked p.group registries)
      (fun w _ _ _ hw => known_perform hw _) (fun _ _ _ hw => hw) hw
  · obtain ⟨x, hidentity, hx⟩ := HasRegistry.origin hw.1 (hw.2 r hr)
    obtain ⟨made, hturn, hmade, -, -⟩ := conducts_retractFrom ask w hx
    exact ⟨made, ⟨x, w.view p.config, hidentity, rfl, hturn⟩, hmade⟩
  · exact ⟨hw, exchanges_log w _⟩

end Visits

section Courses

/-- The calls of an attempt to publish a provider, by what they are for. -/
structure AttemptTrace where
  created : List Exchange := []
  bound : List Exchange := []
  announced : List Exchange := []

def AttemptTrace.calls (t : AttemptTrace) : List Exchange := t.created ++ t.bound ++ t.announced

/-- Each part visits its collaborators in the order of the configuration, and none begins before all
collaborators of the part before it have been visited. -/
structure AttemptTrace.Of (t : AttemptTrace) (p : Provider) (v : Invoker) : Prop where
  created : ∃ registries, registries <+: p.config.announcedIn ∧
    Along (CreatingVisit p.group) registries t.created
  bound : ∃ servers, servers <+: p.config.servers ∧
    Along (BindingVisit p.config v) servers t.bound
  announced : ∃ registries, registries <+: p.config.announcedIn ∧
    Along (AnnouncingVisit p) registries t.announced
  created_all : t.bound ≠ [] → Along (CreatingVisit p.group) p.config.announcedIn t.created
  bound_all : t.announced ≠ [] → Along (BindingVisit p.config v) p.config.servers t.bound

/-- Every collaborator of the configuration has been visited. -/
structure AttemptTrace.Complete (t : AttemptTrace) (p : Provider) (v : Invoker) : Prop where
  created : Along (CreatingVisit p.group) p.config.announcedIn t.created
  bound : Along (BindingVisit p.config v) p.config.servers t.bound
  announced : Along (AnnouncingVisit p) p.config.announcedIn t.announced

/-- The calls that take bindings back, by what they are for. -/
structure ReleaseTrace where
  retracted : List Exchange := []
  unbound : List Exchange := []

def ReleaseTrace.calls (t : ReleaseTrace) : List Exchange := t.retracted ++ t.unbound

structure ReleaseTrace.Of (t : ReleaseTrace) (p : Provider) (registries : List RegistryConfig)
    (servers : List ServerConfig) : Prop where
  retracted : Along (RetractingVisit p) registries t.retracted
  unbound : Along (UnbindingVisit p.config) servers t.unbound

/-- The calls of a publication: those of an attempt, and those that take its bindings back. -/
structure PublicationTrace where
  attempt : AttemptTrace := {}
  back : ReleaseTrace := {}

def PublicationTrace.calls (t : PublicationTrace) : List Exchange := t.attempt.calls ++ t.back.calls

structure PublicationTrace.Of (t : PublicationTrace) (p : Provider) (v : Invoker)
    (result : Except ProviderError Unit) : Prop where
  attempt : t.attempt.Of p v
  back : ∃ (registries : List RegistryConfig) (servers : List ServerConfig),
    registries.Sublist p.config.announcedIn ∧ servers.Sublist p.config.servers ∧
      t.back.Of p registries servers
  kept : result = .ok () → t.back.calls = []

theorem PublicationTrace.Of.nothing (p : Provider) (v : Invoker)
    (result : Except ProviderError Unit) : ({} : PublicationTrace).Of p v result where
  attempt := ⟨⟨[], List.nil_prefix, .nil⟩, ⟨[], List.nil_prefix, .nil⟩, ⟨[], List.nil_prefix, .nil⟩,
    fun h => absurd rfl h, fun h => absurd rfl h⟩
  back := ⟨[], [], List.nil_sublist _, List.nil_sublist _, .nil, .nil⟩
  kept _ := rfl

/-- Whom a failed attempt may have to address again is known. -/
structure Attempt.Addressed (a : Attempt σ) (p : Provider) : Prop where
  servers : a.servers.Sublist p.config.servers
  registries : a.registries.Sublist p.config.announcedIn
  known : Filed a.outcome.world ∧ a.outcome.world.Stocked p.group a.registries

theorem filed_bindServers (hfiled : Filed w) (c : ProviderConfig) (v : Invoker) :
    Filed (w.bindServers ask c v).outcome.world :=
  bindServers_keeps (fun _ _ _ _ _ h => filed_perform h _) (fun _ _ _ h => h) hfiled

/-- Once all registries have been looked up, they exist, and still do when the servers are bound. -/
theorem known_listening {w₁ : World σ} (hfiled : Filed w)
    (hprime : prime ask p.group p.config.announcedIn (w.openInvoker p) = ⟨.ok (), w₁⟩) :
    w₁.Stocked p.group p.config.announcedIn ∧ Filed (listening p (w.boundAfter ask p w₁)) ∧
      (listening p (w.boundAfter ask p w₁)).Stocked p.group p.config.announcedIn := by
  have hopen : Filed (w.openInvoker p) := hfiled
  have hprimed : Filed (prime ask p.group p.config.announcedIn (w.openInvoker p)).world :=
    prime_keeps (fun _ _ _ h => filed_perform h _) (fun _ _ _ h => h) hopen
  have hknown := @stocked_prime σ ask (w.openInvoker p) p.group p.config.announcedIn
  rw [hprime] at hprimed hknown
  exact ⟨hknown rfl, filed_bindServers hprimed p.config _,
    (keepsRegistries_bindServers ask w₁ p.config _).stocked (hknown rfl)⟩

theorem attempt_trace (ask : Ask σ) (hfiled : Filed w) (p : Provider) :
    (w.attempt ask p).Addressed p ∧ ∃ t : AttemptTrace, t.Of p (w.nextInvoker p) ∧
      ((w.attempt ask p).outcome.result = .ok () → t.Complete p (w.nextInvoker p)) ∧
      Makes w (w.attempt ask p).outcome.world t.calls := by
  have hopen : Filed (w.openInvoker p) := hfiled
  have hprimed : Filed (prime ask p.group p.config.announcedIn (w.openInvoker p)).world :=
    prime_keeps (fun _ _ _ h => filed_perform h _) (fun _ _ _ h => h) hopen
  obtain ⟨created, early, hcreated, hearly, hmade, hall⟩ :=
    prime_visits ask (w.openInvoker p) p.group p.config.announcedIn
  -- The invoker is opened without any call.
  have hfirst : Makes w (prime ask p.group p.config.announcedIn (w.openInvoker p)).world early :=
    hmade
  have hcourse := attempt_course ask w p
  generalize w.attempt ask p = a at hcourse
  cases hcourse with
  | unprimed hprime =>
    rw [hprime] at hprimed hfirst
    refine ⟨⟨List.nil_sublist _, List.nil_sublist _, hprimed, by simp [Stocked]⟩,
      { created := early }, ⟨⟨created, hcreated, hearly⟩, ⟨[], List.nil_prefix, .nil⟩,
        ⟨[], List.nil_prefix, .nil⟩, by simp, by simp⟩, fun hok => (by cases hok), ?_⟩
    simpa [AttemptTrace.calls] using hfirst
  | @unbound w₁ e hprime hbound =>
    rw [hprime] at hprimed hfirst hall
    obtain ⟨tried, amid, hbind⟩ := bindServers_visits ask w₁ p.config (w.nextInvoker p)
    have hfiled₂ := @filed_bindServers σ ask w₁ hprimed p.config (w.nextInvoker p)
    rw [hall rfl] at hearly
    refine ⟨⟨hbind.accepted.trans hbind.ahead.sublist, List.nil_sublist _, hfiled₂,
      by simp [Stocked]⟩, { created := early, bound := amid },
      ⟨⟨_, List.prefix_rfl, hearly⟩, ⟨tried, hbind.ahead, hbind.along⟩,
        ⟨[], List.nil_prefix, .nil⟩, fun _ => hearly, by simp⟩, fun hok => ?_, ?_⟩
    · rw [hbound] at hok
      cases hok
    · simpa [AttemptTrace.calls, boundAfter] using hfirst.trans hbind.makes
  | @announced w₁ hprime hbound =>
    obtain ⟨-, hready⟩ := known_listening hfiled hprime
    rw [hprime] at hfirst hall
    obtain ⟨tried, amid, hbind⟩ := bindServers_visits ask w₁ p.config (w.nextInvoker p)
    have hlisten : Makes (w.boundAfter ask p w₁).outcome.world
        (listening p (w.boundAfter ask p w₁)) [] := .of_eq (exchanges_log _ _)
    obtain ⟨told, late, hannounce⟩ := @announce_visits σ ask _ p hready
    have hstill : Filed ((listening p (w.boundAfter ask p w₁)).announce ask p).outcome.world ∧
        ((listening p (w.boundAfter ask p w₁)).announce ask p).outcome.world.Stocked p.group
          p.config.announcedIn :=
      announce_keeps (P := fun w => Filed w ∧ w.Stocked p.group p.config.announcedIn)
        (fun _ _ _ _ hw => known_perform hw _) (fun _ _ _ hw => hw) hready
    have hreached := hannounce.accepted.trans hannounce.ahead.sublist
    have htried : tried = p.config.servers := hbind.finished hbound
    rw [hall rfl] at hearly
    rw [htried] at hbind
    refine ⟨⟨hbind.accepted, hreached, hstill.1, fun r hr => hstill.2 r (hreached.subset hr)⟩,
      { created := early, bound := amid, announced := late },
      ⟨⟨_, List.prefix_rfl, hearly⟩, ⟨_, List.prefix_rfl, hbind.along⟩,
        ⟨told, hannounce.ahead, hannounce.along⟩, fun _ => hearly, fun _ => hbind.along⟩,
      fun hok => ⟨hearly, hbind.along, ?_⟩, ?_⟩
    · rw [← hannounce.finished hok]
      exact hannounce.along
    · simpa [AttemptTrace.calls] using
        ((hfirst.trans hbind.makes).trans hlisten).trans hannounce.makes

theorem release_trace (ask : Ask σ) {registries : List RegistryConfig}
    (servers : List ServerConfig) (h : Filed w ∧ w.Stocked p.group registries) :
    ∃ t : ReleaseTrace,
      t.Of p registries (servers.filter fun s => w.servers.contains s.serial) ∧
      Makes w ((w.retract ask p registries).unbindServers ask p.config servers) t.calls := by
  obtain ⟨retracted, hretracted, hfirst⟩ := @retract_visits σ ask w p registries h
  obtain ⟨unbound, hunbound, hsecond⟩ :=
    unbindServers_visits ask (w.retract ask p registries) p.config servers
  rw [servers_retract] at hunbound
  exact ⟨⟨retracted, unbound⟩, ⟨hretracted, hunbound⟩, hfirst.trans hsecond⟩

theorem discard_trace (ask : Ask σ) {a : Attempt σ} (h : a.Addressed p) :
    ∃ (t : ReleaseTrace) (registries : List RegistryConfig) (servers : List ServerConfig),
      registries.Sublist p.config.announcedIn ∧ servers.Sublist p.config.servers ∧
        t.Of p registries servers ∧
        Makes a.outcome.world (a.outcome.world.discard ask p a) t.calls := by
  obtain ⟨hservers, hregistries, hfiled, hknown⟩ := h
  have hreleased (g : Nat) (k : ServiceKey) : KeepsRegistries a.outcome.world
      (((a.outcome.world.setListener p.config none).closeInvoker p).release g k).2 :=
    keepsRegistries_release _ g k
  have hclosed := (release_closed a.outcome.world p).2.filed hfiled
  rw [World.discard]
  dsimp only
  split
  · exact ⟨{}, [], [], List.nil_sublist _, List.nil_sublist _, ⟨.nil, .nil⟩,
      .of_eq (exchanges_log _ _)⟩
  · obtain ⟨t, ht, hmade⟩ := release_trace ask a.servers ⟨hclosed, (hreleased _ _).stocked hknown⟩
    exact ⟨t, a.registries, _, hregistries, List.filter_sublist.trans hservers, ht, hmade⟩

/-- A publication makes the calls of an attempt and, when that fails, perhaps calls that take
bindings back. -/
theorem publishNow_trace (ask : Ask σ) (hfiled : Filed w) (p : Provider) :
    ∃ t : PublicationTrace, t.Of p (w.nextInvoker p) (w.publishNow ask p).result ∧
      (w.isPublished p = false → (w.publishNow ask p).result = .ok () →
        t.attempt.Complete p (w.nextInvoker p)) ∧
      Makes w (w.publishNow ask p).world t.calls := by
  have hcourse := publishNow_course ask w p
  generalize w.publishNow ask p = outcome at hcourse
  cases hcourse with
  | already hpublished =>
    exact ⟨{}, .nothing p _ _, fun hnot => absurd hpublished (by simp [hnot]), .refl w⟩
  | unfit hpublished hcheck =>
    exact ⟨{}, .nothing p _ _, fun _ hok => (by cases hok), .refl w⟩
  | refused hpublished hcheck hlimit =>
    exact ⟨{}, .nothing p _ _, fun _ hok => (by cases hok), .of_eq (exchanges_prepared w p)⟩
  | @failed hpublished hcheck n counts e hlimit hattempt =>
    have hadmitted : Makes w (w.admitted p n counts) [] := .of_eq (exchanges_admitted w p n counts)
    obtain ⟨haddressed, t, ht, -, hmade⟩ :=
      attempt_trace ask ((sameBindings_admitted w p n counts).filed hfiled) p
    obtain ⟨back, registries, servers, hregistries, hservers, hback, hdone⟩ :=
      discard_trace ask haddressed
    rw [nextInvoker_admitted] at ht
    exact ⟨⟨t, back⟩, ⟨ht, ⟨registries, servers, hregistries, hservers, hback⟩,
      fun hok => (by cases hok)⟩, fun _ hok => (by cases hok), (hadmitted.trans hmade).trans hdone⟩
  | @done hpublished hcheck n counts hlimit hattempt =>
    have hadmitted : Makes w (w.admitted p n counts) [] := .of_eq (exchanges_admitted w p n counts)
    obtain ⟨-, t, ht, hcomplete, hmade⟩ :=
      attempt_trace ask ((sameBindings_admitted w p n counts).filed hfiled) p
    rw [nextInvoker_admitted] at ht hcomplete
    refine ⟨⟨t, {}⟩, ⟨ht, (PublicationTrace.Of.nothing p (w.nextInvoker p) (.ok ())).back,
      fun _ => rfl⟩, fun _ _ => hcomplete hattempt, ?_⟩
    have hcalls : (⟨t, {}⟩ : PublicationTrace).calls = t.calls := List.append_nil t.calls
    rw [hcalls]
    exact hadmitted.trans hmade

/-- A withdrawal addresses all registries of the configuration, and those of its servers that
exist. -/
theorem withdraw_trace (ask : Ask σ) (hpublished : w.isPublished p = true) (hfiled : Filed w)
    (hstocked : w.Stocked p.group p.config.announcedIn) :
    ∃ t : ReleaseTrace, t.Of p p.config.announcedIn
        (p.config.servers.filter fun s => w.servers.contains s.serial) ∧
      Makes w (w.withdraw ask p) t.calls := by
  have hbegun : Makes w (w.withdrawing p) [] := .of_eq (exchanges_log _ _)
  obtain ⟨retracted, hretracted, hfirst⟩ :=
    @retract_visits σ ask (w.withdrawing p) p p.config.announcedIn ⟨hfiled, hstocked⟩
  have hclosed : Makes w
      (((w.withdrawing p).retract ask p p.config.announcedIn).closeInvoker p) retracted :=
    hbegun.trans hfirst
  obtain ⟨unbound, hunbound, hsecond⟩ := unbindServers_visits ask
    (((w.withdrawing p).retract ask p p.config.announcedIn).closeInvoker p) p.config
    p.config.servers
  have hservers : (((w.withdrawing p).retract ask p p.config.announcedIn).closeInvoker p).servers =
      w.servers := servers_retract ask _ p _
  rw [hservers] at hunbound
  have hended : ((w.unlinked ask p).concluded p).exchanges = (w.unlinked ask p).exchanges :=
    exchanges_log _ _
  rw [withdraw_published ask hpublished]
  exact ⟨⟨retracted, unbound⟩, ⟨hretracted, hunbound⟩, (hclosed.trans hsecond).trans_eq hended⟩

end Courses

end ServicePublisher
