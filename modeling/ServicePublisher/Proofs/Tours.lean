import ServicePublisher.Proofs.Conduct

/-! Tours over collaborators. A walk visits its list in order up to the first framework error, each
visit follows a script, and there is one line of blame for every visit in which a fault occurred. -/
namespace ServicePublisher

open World

variable {σ α : Type} {w w' : World σ}

section Tours

variable {script : α → List Call → Prop} {line : α → ProviderError → Blame}

/-- The visits of a walk that ends with the first framework error, each with its exchanges. -/
inductive Tour (script : α → List Call → Prop) : List α → List (α × List Exchange) → Prop
  | done : Tour script [] []
  | ended {x : α} {calls : List Call} {here : List Exchange} (xs : List α) (hx : script x calls)
      (h : InTurn calls here) (he : firstFrameworkError here ≠ none) :
      Tour script (x :: xs) [(x, here)]
  | next {x : α} {calls : List Call} {here : List Exchange} {xs : List α}
      {visits : List (α × List Exchange)} (hx : script x calls) (h : InTurn calls here)
      (he : firstFrameworkError here = none) (hrest : Tour script xs visits) :
      Tour script (x :: xs) ((x, here) :: visits)

def exchangesOf (visits : List (α × List Exchange)) : List Exchange := visits.flatMap Prod.snd

/-- The lines about those visits of a walk in which a fault occurred. -/
def blamesOf (line : α → ProviderError → Blame) (visits : List (α × List Exchange)) :
    List Blame :=
  visits.filterMap fun v =>
    ((firstRefusal v.2).filter fun e => !e.isFramework).map (line v.1)

/-- The framework error that ends a tour is the last that is exchanged. -/
theorem Tour.last {xs : List α} {visits : List (α × List Exchange)} (h : Tour script xs visits)
    {e : ProviderError} (he : firstFrameworkError (exchangesOf visits) = some e) :
    ∃ before c, exchangesOf visits = before ++ [(c, some e)] := by
  induction h with
  | done => cases he
  | ended xs hx h hended =>
    rw [exchangesOf, List.flatMap_singleton] at he ⊢
    rw [h.firstFrameworkError, Option.filter_eq_some_iff] at he
    exact h.last he.1
  | @next x calls here xs visits hx h hnone hrest ih =>
    rw [exchangesOf, List.flatMap_cons, firstFrameworkError_append, hnone, Option.none_or] at he
    obtain ⟨before, c, hlast⟩ := ih he
    rw [exchangesOf] at hlast
    refine ⟨here ++ before, c, ?_⟩
    rw [exchangesOf, List.flatMap_cons, hlast, List.append_assoc]

/-- Whatever is exchanged on a tour belongs to the script of some visit. -/
theorem Tour.mem {xs : List α} {visits : List (α × List Exchange)} (h : Tour script xs visits)
    {x : Exchange} (hx : x ∈ exchangesOf visits) :
    ∃ y ∈ xs, ∃ calls, script y calls ∧ x.1 ∈ calls := by
  induction h with
  | done => cases hx
  | @ended y calls here xs hy h hended =>
    rw [exchangesOf, List.flatMap_singleton] at hx
    exact ⟨y, List.mem_cons_self, calls, hy, h.mem hx⟩
  | @next y calls here xs visits hy h hnone hrest ih =>
    rw [exchangesOf, List.flatMap_cons] at hx
    obtain hx | hx := List.mem_append.1 hx
    · exact ⟨y, List.mem_cons_self, calls, hy, h.mem hx⟩
    · obtain ⟨z, hz, hlater⟩ := ih hx
      exact ⟨z, List.mem_cons_of_mem y hz, hlater⟩

/-- The visits of a walk, with the exchanges and the blame that they leave behind. -/
structure Walk.Tours (walk : Walk σ α) (script : α → List Call → Prop)
    (line : α → ProviderError → Blame) (xs : List α) (w : World σ)
    (visits : List (α × List Exchange)) : Prop where
  tour : Tour script xs visits
  makes : Makes w walk.outcome.world (exchangesOf visits)
  blames : walk.outcome.world.blames = w.blames ++ blamesOf line visits
  error : walk.outcome.error? = firstFrameworkError (exchangesOf visits)

/-- A visit that does not end its walk comes before the visits of the rest. -/
theorem Walk.Tours.after {walk : Walk σ α} {x : α} {xs : List α} {calls : List Call}
    {here : List Exchange} {visits : List (α × List Exchange)}
    (h : walk.Tours script line xs w' visits) (hx : script x calls) (hturn : InTurn calls here)
    (he : firstFrameworkError here = none) (hmade : Makes w w' here)
    (hblames : w'.blames = w.blames ++ blamesOf line [(x, here)]) (accepted : List α) (n : Nat) :
    (walk.after accepted n).Tours script line (x :: xs) w ((x, here) :: visits) where
  tour := .next hx hturn he h.tour
  makes := hmade.trans h.makes
  blames := by
    rw [← List.singleton_append, blamesOf, List.filterMap_append, ← List.append_assoc]
    exact h.blames.trans (congrArg (· ++ _) hblames)
  error := by
    rw [exchangesOf, List.flatMap_cons, firstFrameworkError_append, he, Option.none_or]
    exact h.error

/-- A walk whose visits make the calls of a script. The visits may rely on what those before them
leave to the rest of the list. -/
theorem visitAll_tours {visit : α → World σ → Stop σ}
    {report : World σ → α → ProviderError → World σ} {P : List α → World σ → Prop}
    (hvisit : ∀ x xs w, P (x :: xs) w → P xs (visit x w).outcome.world ∧
      ∃ calls, script x calls ∧ Conducts w calls (visit x w).outcome)
    (hreport : ∀ xs w x e, P xs w → P xs (report w x e) ∧
      (report w x e).exchanges = w.exchanges ∧
        (report w x e).blames = w.blames ++ [line x e])
    {xs : List α} {w : World σ} (h : P xs w) :
    ∃ visits, (visitAll visit report xs w).Tours script line xs w visits := by
  induction xs generalizing w with
  | nil => exact ⟨[], .done, .refl w, (List.append_nil _).symm, rfl⟩
  | cons x xs ih =>
    obtain ⟨hkept, calls, hscript, here, hturn, hmade, hblames, he⟩ := hvisit x xs w h
    have hframework := hturn.firstFrameworkError
    rw [visitAll]
    generalize visit x w = stop at hkept hmade hblames he ⊢
    obtain ⟨accepted, result, w₁⟩ := stop
    dsimp only at hkept hmade hblames ⊢
    cases result with
    | ok u =>
      obtain ⟨visits, htours⟩ := ih hkept
      have hnone : none = firstRefusal here := he
      rw [← hnone] at hframework
      refine ⟨_, htours.after hscript hturn hframework hmade ?_ _ 1⟩
      simpa [blamesOf, ← hnone] using hblames
    | error e =>
      have hsome : some e = firstRefusal here := he
      rw [← hsome] at hframework
      dsimp only
      split
      · next hends =>
        rw [Option.filter_some, if_pos hends] at hframework
        refine ⟨[(x, here)], .ended xs hscript hturn (by simp [hframework]), ?_, ?_, ?_⟩
        · simpa [exchangesOf] using hmade
        · simpa [blamesOf, ← hsome, hends] using hblames
        · simpa [exchangesOf, hframework] using he.trans hsome.symm
      · next hfault =>
        rw [Option.filter_some, if_neg hfault] at hframework
        obtain ⟨hreported, hquiet, hline⟩ := hreport xs w₁ x e hkept
        obtain ⟨visits, htours⟩ := ih hreported
        refine ⟨_, htours.after hscript hturn hframework (hmade.trans_eq hquiet) ?_ _ 0⟩
        simpa [blamesOf, List.filterMap_cons, Option.filter_some, ← hsome, hfault, hblames]
          using hline

end Tours

section Blame

def bindingBlame (c : ProviderConfig) (s : ServerConfig) (e : ProviderError) : Blame :=
  (.error, [("app", .text c.appName), ("key", .text c.key.text), ("server", .text s.id),
    ("error", .text e.message)])

def announcingBlame (c : ProviderConfig) (r : RegistryConfig) (e : ProviderError) : Blame :=
  (.warn, [("app", .text c.appName), ("key", .text c.key.text), ("registry", .text r.id),
    ("error", .text e.message)])

theorem blames_bindingFailed (w : World σ) (c : ProviderConfig) (s : ServerConfig)
    (e : ProviderError) :
    (w.report c (.bindingFailed s.id e)).blames = w.blames ++ [bindingBlame c s e] :=
  blames_log w _

theorem blames_announcementFailed (w : World σ) (c : ProviderConfig) (r : RegistryConfig)
    (e : ProviderError) :
    (w.report c (.announcementFailed r.id e)).blames = w.blames ++ [announcingBlame c r e] :=
  blames_log w _

end Blame

section Walks

/-- What a server is asked while a provider is bound to it. Whether it has to be created depends on
the servers before it as well. -/
def BindingScript (w : World σ) (c : ProviderConfig) (v : Invoker) (s : ServerConfig)
    (calls : List Call) : Prop :=
  calls = s.bindingCalls (w.view c) v ∨ calls = .server s .create :: s.bindingCalls (w.view c) v

theorem view_bindServer (ask : Ask σ) (w : World σ) (c : ProviderConfig) (v : Invoker)
    (s : ServerConfig) : (bindServer ask c v s w).outcome.world.view c = w.view c :=
  bindServer_keeps (P := fun w' => w'.view c = w.view c)
    (fun w' _ _ h => ((sameBooks_perform ask w' _).view c).trans h) rfl

theorem bindServers_tours (ask : Ask σ) {w₀ w : World σ} {c : ProviderConfig}
    (hview : w.view c = w₀.view c) (v : Invoker) :
    ∃ visits, (w.bindServers ask c v).Tours (BindingScript w₀ c v) (bindingBlame c) c.servers w
      visits := by
  refine visitAll_tours (P := fun _ w' => w'.view c = w₀.view c) (fun s _ w' hview' => ?_)
    ?report hview
  case report =>
    intro _ w' s e hview'
    exact ⟨hview', exchanges_log w' _, blames_bindingFailed w' c s e⟩
  refine ⟨(view_bindServer ask w' c v s).trans hview', _, ?_, conducts_bindServer ask w' c v s⟩
  rw [BindingScript, ← hview', creating]
  split
  · exact .inl rfl
  · exact .inr rfl

/-- The registry in which a provider is announced for a configuration: the one on file, or else the
one that is created from the first configuration with the same identity. -/
def World.registryOf (w : World σ) (p : Provider) (r : RegistryConfig) : RegistryConfig :=
  ((w.origin? p.group r.identity).or
    (p.config.announcedIn.find? fun x => x.identity == r.identity)).getD r

/-- What a registry is asked while a provider is announced in it. -/
def AnnouncingScript (w : World σ) (p : Provider) (r : RegistryConfig) (calls : List Call) : Prop :=
  calls = (w.registryOf p r).announcingCalls p.group (w.view p.config)

/-- Nobody comes from elsewhere, and no attribute changes, while a known registry is addressed. -/
theorem announceIn_known (ask : Ask σ) {w : World σ} {p : Provider} {r x : RegistryConfig}
    (hx : w.origin? p.group r.identity = some x) :
    (∀ g identity, (announceIn ask p r w).world.origin? g identity = w.origin? g identity) ∧
      (announceIn ask p r w).world.view p.config = w.view p.config := by
  refine announceIn_keeps_of_found (P := fun w' => (∀ g identity, w'.origin? g identity =
    w.origin? g identity) ∧ w'.view p.config = w.view p.config)
    (registryFor_of_origin ask w hx) (fun w' request hrequest hw' => ?_) ⟨fun _ _ => rfl, rfl⟩
  have hcreate : ∀ g r, Call.registry p.group x request ≠ .registry g r .create := by
    obtain rfl | rfl | rfl := hrequest <;> simp
  exact ⟨fun g identity => (origin?_perform ask w' _ hcreate g identity).trans (hw'.1 g identity),
    ((sameBooks_perform ask w' _).view p.config).trans hw'.2⟩

theorem announce_tours (ask : Ask σ) {w₀ w : World σ} {p : Provider}
    (hknown : ∀ r ∈ p.config.announcedIn,
      w.origin? p.group r.identity = some (w₀.registryOf p r))
    (hview : w.view p.config = w₀.view p.config) :
    ∃ visits, (w.announce ask p).Tours (AnnouncingScript w₀ p) (announcingBlame p.config)
      p.config.announcedIn w visits := by
  refine visitAll_tours (P := fun registries w' => (∀ r ∈ registries,
    w'.origin? p.group r.identity = some (w₀.registryOf p r)) ∧
      w'.view p.config = w₀.view p.config) ?visit ?report ⟨hknown, hview⟩
  case report =>
    intro rs w' r e hw'
    exact ⟨hw', exchanges_log w' _, blames_announcementFailed w' p.config r e⟩
  intro r rs w' hw'
  obtain ⟨hknown', hview'⟩ := hw'
  have hr := hknown' r List.mem_cons_self
  obtain ⟨horigin, hafter⟩ := announceIn_known ask hr
  refine ⟨⟨fun r' hr' => ?_, hafter.trans hview'⟩, _, rfl, ?_⟩
  · exact (horigin p.group r'.identity).trans (hknown' r' (List.mem_cons_of_mem r hr'))
  · rw [← hview']
    exact conducts_announceIn ask w' hr

end Walks

end ServicePublisher
