import ServicePublisher.Proofs.Returns

/-! What a failed publication takes back. Every entry that somebody accepted in the attempt is
asked back once, from the registries first and then from the servers, unless other publications of
the key live on; whatever is answered then, the books are as before and the caller is given what
ended the attempt. -/
namespace ServicePublisher

open World

variable {σ α : Type} {ask : Ask σ} {w w' : World σ} {p : Provider}

/-- The call that takes back what an exchange has written, if it has written an entry. -/
def undo? : Exchange → Option Call
  | (.server s (.register view _), none) => some (s.unbinding view)
  | (.registry g r (.register view), none) => some (.registry g r (.unregister view))
  | _ => none

def Call.ofRegistry : Call → Bool
  | .registry .. => true
  | .server .. => false

theorem ofRegistry_undo {x : Exchange} {c : Call} (h : undo? x = some c) :
    c.ofRegistry = x.1.ofRegistry := by
  rw [undo?.eq_def] at h
  split at h <;> cases h <;> rfl

namespace World

/-- What would take back every entry that was ever written, in the order of the writing. -/
def owed (w : World σ) : List Call := w.exchanges.filterMap undo?

theorem owed_of_exchanges (h : w'.exchanges = w.exchanges) : w'.owed = w.owed := by
  rw [owed, h, owed]

theorem Makes.owed {made : List Exchange} (h : Makes w w' made) :
    w'.owed = w.owed ++ made.filterMap undo? := by
  rw [World.owed, h, List.filterMap_append, World.owed]

theorem owed_perform (ask : Ask σ) (w : World σ) (c : Call) :
    (w.perform ask c).world.owed = w.owed ++ (undo? (c, (ask c w.outside).1)).toList := by
  rw [(makes_perform ask w c).owed]
  cases h : undo? (c, (ask c w.outside).1) <;> simp [h]

/-- Only what writes an entry leaves something to be taken back. -/
theorem owed_perform_of_none (ask : Ask σ) (w : World σ) {c : Call}
    (hc : ∀ answer, undo? (c, answer) = none) : (w.perform ask c).world.owed = w.owed := by
  rw [owed_perform, hc, Option.toList_none, List.append_nil]

end World

section Walks

/-- A stop leaves owed what takes it back, if the provider was accepted there. -/
def Stop.Owes (stop : Stop σ) (w : World σ) (undo : Call) : Prop :=
  stop.outcome.world.owed = w.owed ++ if stop.accepted then [undo] else []

/-- A walk leaves owed what takes back the stops at which the provider was accepted. -/
theorem visitAll_owed {visit : α → World σ → Stop σ}
    {report : World σ → α → ProviderError → World σ} {P : World σ → Prop} {undo : α → Call}
    {xs : List α}
    (hvisit : ∀ x ∈ xs, ∀ w, P w → P (visit x w).outcome.world ∧ (visit x w).Owes w (undo x))
    (hreport : ∀ w x e, P w → P (report w x e) ∧ (report w x e).owed = w.owed)
    {w : World σ} (h : P w) :
    (visitAll visit report xs w).outcome.world.owed =
      w.owed ++ (visitAll visit report xs w).accepted.map undo := by
  induction xs generalizing w with
  | nil => exact (List.append_nil _).symm
  | cons x xs ih =>
    have hrest := @ih fun y hy => hvisit y (List.mem_cons_of_mem x hy)
    obtain ⟨hkept, howed⟩ := hvisit x List.mem_cons_self w h
    have hhere (accepted : Bool) : (if accepted then [undo x] else []) =
        (if accepted then [x] else []).map undo := by cases accepted <;> rfl
    rw [Stop.Owes, hhere] at howed
    rw [visitAll]
    generalize visit x w = stop at hkept howed ⊢
    obtain ⟨accepted, result, w₁⟩ := stop
    dsimp only at hkept howed ⊢
    cases result with
    | ok u =>
      dsimp only [Walk.after]
      rw [List.map_append, ← List.append_assoc, ← howed]
      exact hrest hkept
    | error e =>
      dsimp only
      split
      · exact howed
      · obtain ⟨hreported, hsame⟩ := hreport w₁ x e hkept
        dsimp only [Walk.after]
        rw [List.map_append, ← List.append_assoc, ← howed, ← hsame]
        exact hrest hreported

theorem owes_bindServer (ask : Ask σ) (c : ProviderConfig) (v : Invoker) (s : ServerConfig)
    (w : World σ) : (bindServer ask c v s w).Owes w (s.unbinding (w.view c)) := by
  have hbuilt : (w.build ask s).world.owed = w.owed :=
    build_keeps (P := fun w' => w'.owed = w.owed)
      (fun w' h => (owed_perform_of_none ask w' fun _ => rfl).trans h) rfl
  have hview := (@sameBooks_build σ ask w s).view c
  rw [bindServer]
  generalize w.build ask s = built at hbuilt hview ⊢
  obtain ⟨result, w₁⟩ := built
  cases result with
  | error e => exact hbuilt.trans (List.append_nil _).symm
  | ok u =>
    have howed := owed_perform ask w₁ (.server s (.register (w₁.view c) v))
    have hcourse := perform_course ask w₁ (.server s (.register (w₁.view c) v))
    dsimp only at hbuilt hview howed ⊢
    rw [hbuilt] at howed
    generalize w₁.perform ask (.server s (.register (w₁.view c) v)) = registered
      at howed hcourse ⊢
    cases hcourse with
    | refused hanswer =>
      rw [hanswer] at howed
      exact howed
    | accepted hanswer =>
      rw [hanswer] at howed
      rw [Stop.Owes, ← hview]
      dsimp only
      split
      · exact (owed_perform_of_none ask _ fun _ => rfl).trans howed
      · exact howed

theorem owed_bindServers (ask : Ask σ) (w : World σ) (c : ProviderConfig) (v : Invoker) :
    (w.bindServers ask c v).outcome.world.owed = w.owed ++
      (w.bindServers ask c v).accepted.map (ServerConfig.unbinding (w.view c)) := by
  refine visitAll_owed (P := fun w' => w'.view c = w.view c) (fun s _ w' h => ?_) ?report rfl
  case report => exact fun w' s e h => ⟨h, owed_of_exchanges (exchanges_log w' _)⟩
  have howed := owes_bindServer ask c v s w'
  rw [h] at howed
  exact ⟨(view_bindServer ask w' c v s).trans h, howed⟩

/-- A provider is shown in a certain way, and certain registries are on file for it. -/
structure World.Knows (w : World σ) (p : Provider) (view : ConfigView)
    (origin : RegistryConfig → RegistryConfig) : Prop where
  view : w.view p.config = view
  origin : ∀ r ∈ p.config.announcedIn, w.origin? p.group r.identity = some (origin r)

variable {view : ConfigView} {origin : RegistryConfig → RegistryConfig}

theorem World.Knows.announceStop (h : w.Knows p view origin) (ask : Ask σ) {r : RegistryConfig}
    (hr : r ∈ p.config.announcedIn) :
    (World.announceStop ask p r w).outcome.world.Knows p view origin := by
  obtain ⟨horigin, hview⟩ := announceIn_known ask (h.origin r hr)
  exact ⟨hview.trans h.view, fun r' hr' => (horigin _ _).trans (h.origin r' hr')⟩

theorem owes_announceStop (ask : Ask σ) {r x : RegistryConfig}
    (hx : w.origin? p.group r.identity = some x) :
    (World.announceStop ask p r w).Owes w
      (.registry p.group x (.unregister (w.view p.config))) := by
  obtain ⟨made, hturn, hmade, -, herror⟩ := conducts_announceIn ask w hx
  have howed := hmade.owed
  rw [announceStop, Stop.Owes]
  generalize announceIn ask p r w = o at howed herror ⊢
  obtain ⟨result, w₁⟩ := o
  dsimp only at howed ⊢
  rw [howed]
  -- The registry is asked three times at most; only the last of these calls writes an entry.
  obtain _ | _ | ⟨_, _ | _ | ⟨_, _ | _ | ⟨_, _ | _⟩⟩⟩ := hturn <;> cases result <;>
    first | rfl | cases herror

theorem World.Knows.announce (h : w.Knows p view origin) (ask : Ask σ) :
    (w.announce ask p).outcome.world.Knows p view origin ∧
      (w.announce ask p).outcome.world.owed =
        w.owed ++ (w.announce ask p).accepted.map (p.retraction view origin) := by
  have hvisit (r : RegistryConfig) (hr : r ∈ p.config.announcedIn) (w : World σ)
      (h : w.Knows p view origin) := h.announceStop ask hr
  constructor
  · refine visitAll_keeps hvisit (fun _ _ w' e h => ?_) h
    exact ⟨h.view, h.origin⟩
  · refine visitAll_owed (P := fun w => w.Knows p view origin) (fun r hr w' h => ?_) ?report h
    case report =>
      intro w' r e h
      exact ⟨⟨h.view, h.origin⟩, owed_of_exchanges (exchanges_log w' _)⟩
    have howed := owes_announceStop ask (h.origin r hr)
    rw [h.view] at howed
    exact ⟨hvisit r hr w' h, howed⟩

end Walks

section Attempts

/-- Whom an attempt leaves behind, so that they can be asked back. -/
structure Attempt.Owes (a : Attempt σ) (w : World σ) (p : Provider) : Prop where
  view : a.outcome.world.view p.config = w.view p.config
  owed : a.outcome.world.owed = w.owed ++
    (a.servers.map (ServerConfig.unbinding (w.view p.config)) ++
    a.registries.map (p.retraction (w.view p.config) (w.registryOf p)))
  known : ∀ r ∈ a.registries,
    a.outcome.world.origin? p.group r.identity = some (w.registryOf p r)
  built : ∀ s ∈ a.servers, a.outcome.world.servers.contains s.serial = true

theorem contains_of_processor {n : Nat} {k : ServiceKey} {v : Invoker}
    (h : w.processor? n k = some v) : w.servers.contains n = true := by
  obtain ⟨t, ht, -⟩ := Option.bind_eq_some_iff.1 h
  rw [Std.ExtTreeMap.contains_eq_isSome_getElem?, ht]
  rfl

theorem owed_prime (ask : Ask σ) (w : World σ) (g : Nat) (registries : List RegistryConfig) :
    (prime ask g registries w).world.owed = w.owed :=
  prime_keeps (P := fun w' => w'.owed = w.owed)
    (fun w' _ _ h => (owed_perform_of_none ask w' fun _ => rfl).trans h)
    (fun w' _ _ h => (owed_of_exchanges (exchanges_log w' _)).trans h) rfl

theorem attempt_owes (ask : Ask σ) (w : World σ) (p : Provider) : (w.attempt ask p).Owes w p := by
  have hprimed := owed_prime ask (w.openInvoker p) p.group p.config.announcedIn
  have hview : (prime ask p.group p.config.announcedIn (w.openInvoker p)).world.view p.config =
      w.view p.config := (sameBooks_prime ask (w.openInvoker p) p.group p.config.announcedIn).view _
  have horigin := @origin?_prime σ ask (w.openInvoker p) p.group p.config.announcedIn
  have hmem := fun r => @mem_announcedIn_of_mem_attempt σ ask w p r
  have hcourse := attempt_course ask w p
  generalize w.attempt ask p = a at hcourse hmem ⊢
  cases hcourse with
  | unprimed hprime =>
    rw [hprime] at hprimed hview
    exact ⟨hview, hprimed.trans (List.append_nil _).symm, by simp, by simp⟩
  | @unbound w₁ e hprime hbound =>
    rw [hprime] at hprimed hview
    have hbooks := sameBooks_bindServers ask w₁ p.config (w.nextInvoker p)
    have howed := owed_bindServers ask w₁ p.config (w.nextInvoker p)
    refine ⟨(hbooks.view _).trans hview, ?_, by simp, fun s hs => ?_⟩
    · rw [boundAfter, howed, hview, hprimed, List.map_nil, List.append_nil]
      rfl
    · refine contains_of_processor (k := p.config.key) (v := w.nextInvoker p) ?_
      rw [boundAfter, processor?_bindServers, if_pos ⟨s, hs, rfl, rfl⟩]
  | @announced w₁ hprime hbound =>
    rw [hprime] at hprimed hview horigin
    have hbooks := sameBooks_bindServers ask w₁ p.config (w.nextInvoker p)
    have howed := owed_bindServers ask w₁ p.config (w.nextInvoker p)
    have hready : (listening p (w.boundAfter ask p w₁)).Knows p (w.view p.config)
        (w.registryOf p) :=
      ⟨(view_listening p _).trans ((hbooks.view _).trans hview),
        listening_known ask w p (horigin rfl)⟩
    have hlisten : (listening p (w.boundAfter ask p w₁)).owed =
        (w.boundAfter ask p w₁).outcome.world.owed := owed_of_exchanges (exchanges_log _ _)
    obtain ⟨hknown, hannounced⟩ := hready.announce ask
    refine ⟨hknown.view, ?_, fun r hr => hknown.origin r (hmem r hr), fun s hs => ?_⟩
    · rw [hannounced, hlisten, boundAfter, howed, hview, hprimed, List.append_assoc]
      rfl
    · rw [servers_announce]
      refine contains_of_processor (k := p.config.key) (v := w.nextInvoker p) ?_
      change (w.boundAfter ask p w₁).outcome.world.processor? _ _ = _
      rw [boundAfter, processor?_bindServers, if_pos ⟨s, hs, rfl, rfl⟩]

/-- A failed attempt that was the only publication of its key asks back whom it has left behind, the
registries first; no other attempt asks anybody. -/
theorem discard_asks (ask : Ask σ) {a : Attempt σ} (h : a.Owes w p) :
    ∃ back, Makes a.outcome.world (a.outcome.world.discard ask p a) back ∧
      back.map Prod.fst = if a.outcome.world.liveCount p ≤ 1 then
        a.registries.map (p.retraction (w.view p.config) (w.registryOf p)) ++
          a.servers.map (ServerConfig.unbinding (w.view p.config)) else [] := by
  obtain ⟨hremaining, -⟩ := release_closed a.outcome.world p
  rw [World.discard]
  dsimp only
  rw [hremaining]
  set w₁ := (((a.outcome.world.setListener p.config none).closeInvoker p).release p.group
    p.config.key).2 with hw₁
  have hmade : w₁.events = a.outcome.world.events := rfl
  have hview : w₁.view p.config = w.view p.config :=
    (steady_setListener a.outcome.world p.config none).view.trans h.view
  have horigin (r : RegistryConfig) (hr : r ∈ a.registries) :
      w₁.origin? p.group r.identity = some (w.registryOf p r) := by
    rw [← h.known r hr, origin?, origin?, hw₁, release, services_modifyServices, if_pos rfl]
    rfl
  by_cases hlast : a.outcome.world.liveCount p ≤ 1
  · obtain ⟨told, htold, hretracted⟩ := retract_round p ask horigin
    obtain ⟨asked, hasked, hunbound⟩ :=
      unbindServers_round p ask (w₁.retract ask p a.registries) a.servers
    have hbuilt : a.servers.filter (fun s =>
        (w₁.retract ask p a.registries).servers.contains s.serial) = a.servers := by
      refine List.filter_eq_self.2 fun s hs => ?_
      rw [servers_retract]
      exact h.built s hs
    rw [if_neg (by omega), if_pos hlast]
    rw [(sameBooks_retract ask w₁ p a.registries).view, hview] at hunbound
    rw [hview] at hretracted
    refine ⟨told.map (fun x => (p.retraction (w.view p.config) (w.registryOf p) x.1, x.2)) ++
      asked.map fun x => (x.1.unbinding (w.view p.config), x.2), ?_, ?_⟩
    · rw [Makes, exchanges, hunbound, hretracted, hmade, List.filterMap_append,
        List.filterMap_append, exchanges_roundOf, exchanges_roundOf, List.append_assoc]
      rfl
    · rw [List.map_append, ← htold, ← hbuilt, ← hasked]
      simp [Function.comp_def]
  · rw [if_pos (by omega), if_neg hlast]
    exact ⟨[], .of_eq ((exchanges_log w₁ _).trans (congrArg (List.filterMap _) hmade)), rfl⟩

end Attempts

section Failures

variable {t : AttemptTrace}

/-- An attempt asks factories of registries, then servers, then registries, and nobody back. -/
theorem AttemptTrace.Follows.kinds (h : t.Follows w p) :
    (∀ x ∈ t.created, undo? x = none ∧ x.1.releases = false) ∧
    (∀ x ∈ t.bound, x.1.ofRegistry = false ∧ x.1.releases = false) ∧
    ∀ x ∈ t.announced, x.1.ofRegistry = true ∧ x.1.releases = false := by
  obtain ⟨hcreated, hbound, hannounced⟩ := h
  refine ⟨fun x hx => ?_, fun x hx => ?_, fun x hx => ?_⟩
  · obtain ⟨r, -, hr⟩ := List.mem_map.1 (hcreated.mem hx)
    obtain ⟨c, answer⟩ := x
    cases hr
    exact ⟨rfl, rfl⟩
  · split at hbound
    · obtain ⟨visits, htour, hvisits⟩ := hbound
      rw [hvisits] at hx
      obtain ⟨s, -, calls, hscript, hcall⟩ := htour.mem hx
      obtain rfl | rfl := hscript <;> simp only [ServerConfig.bindingCalls] at hcall <;>
        split at hcall <;> simp at hcall <;> grind [Call.ofRegistry, Call.releases]
    · rw [hbound] at hx
      cases hx
  · split at hannounced
    · obtain ⟨visits, htour, hvisits⟩ := hannounced
      rw [hvisits] at hx
      obtain ⟨r, -, calls, rfl, hcall⟩ := htour.mem hx
      simp only [RegistryConfig.announcingCalls, List.mem_cons, List.not_mem_nil, or_false] at hcall
      obtain hcall | hcall | hcall := hcall <;> rw [hcall] <;> exact ⟨rfl, rfl⟩
    · rw [hannounced] at hx
      cases hx

/-- A list is divided in one way only into a part without a property and a part with it. -/
theorem append_inj_of_parts {q : α → Bool} {xs ys xs' ys' : List α} (h : xs ++ ys = xs' ++ ys')
    (hxs : ∀ x ∈ xs, q x = false) (hys : ∀ y ∈ ys, q y = true) (hxs' : ∀ x ∈ xs', q x = false)
    (hys' : ∀ y ∈ ys', q y = true) : xs = xs' ∧ ys = ys' := by
  have hsecond := congrArg (List.filter q) h
  rw [List.filter_append, List.filter_append, List.filter_eq_self.2 hys, List.filter_eq_self.2 hys',
    List.filter_eq_nil_iff.2 fun x hx => by simp [hxs x hx],
    List.filter_eq_nil_iff.2 fun x hx => by simp [hxs' x hx]] at hsecond
  obtain rfl : ys = ys' := hsecond
  exact ⟨List.append_cancel_right h, rfl⟩

/-- The entries that servers accepted in an attempt and those that registries accepted. -/
theorem Attempt.Owes.parts {a : Attempt σ} (h : a.Owes w p) (hfollows : t.Follows w' p)
    (hmade : Makes w a.outcome.world t.calls) :
    a.servers.map (ServerConfig.unbinding (w.view p.config)) = t.bound.filterMap undo? ∧
      a.registries.map (p.retraction (w.view p.config) (w.registryOf p)) =
        t.announced.filterMap undo? := by
  obtain ⟨hcreated, hbound, hannounced⟩ := hfollows.kinds
  have howed := hmade.owed
  rw [h.owed, List.append_right_inj, AttemptTrace.calls, List.filterMap_append,
    List.filterMap_append, List.filterMap_eq_nil_iff.2 fun x hx => (hcreated x hx).1,
    List.nil_append] at howed
  refine append_inj_of_parts (q := Call.ofRegistry) howed ?_ ?_ ?_ ?_
  · intro c hc
    obtain ⟨s, -, rfl⟩ := List.mem_map.1 hc
    rfl
  · intro c hc
    obtain ⟨r, -, rfl⟩ := List.mem_map.1 hc
    rfl
  · intro c hc
    obtain ⟨x, hx, hundo⟩ := List.mem_filterMap.1 hc
    rw [ofRegistry_undo hundo, (hbound x hx).1]
  · intro c hc
    obtain ⟨x, hx, hundo⟩ := List.mem_filterMap.1 hc
    rw [ofRegistry_undo hundo, (hannounced x hx).1]

/-- What has become of a publication that failed after it had been counted: an attempt, whose last
call was refused and with whose refusal the publication ends; and then the calls that take back what
was accepted, each entry once, those of registries first. With that, everything is as before. -/
structure Undone (w : World σ) (p : Provider) (o : Outcome σ Unit) (t : AttemptTrace)
    (back : List Exchange) : Prop where
  follows : t.Follows w p
  exchanges : o.world.exchanges = w.exchanges ++ t.calls ++ back
  attempted : ∀ x ∈ t.calls, x.1.releases = false
  undone : back.map Prod.fst =
    if w.liveCount p = 0 then t.announced.filterMap undo? ++ t.bound.filterMap undo? else []
  aborted : ∃ before c e, t.calls = before ++ [(c, some e)] ∧ o.result = .error e.intoFramework
  counts : ∀ g, (o.world.services g).counts = (w.services g).counts
  table : ∀ g, (o.world.services g).published = (w.services g).published
  unpublished : o.world.isPublished p = false
  invoker : (o.world.provider p).invoker = none
  listener : (o.world.config p.config).listener = none
  attributes : (o.world.config p.config).attributes = (w.config p.config).attributes

/-- A publication at once that fails after it has been counted is undone, whatever is answered to
the calls that undo it. -/
theorem failure_undone (ask : Ask σ) (w : World σ) (p : Provider) {n : Nat} {e : ProviderError}
    (hdelay : p.config.delayMs = 0) (hcheck : p.config.check = .ok ())
    (hcounted : (w.acquire p.group p.config.key p.config.repeatLimit.toInt).result = .ok n)
    (hfailed : (w.publish ask p).result = .error e) :
    ∃ (t : AttemptTrace) (back : List Exchange), Undone w p (w.publish ask p) t back := by
  rw [publish_at_once ask w hdelay] at hfailed ⊢
  have hcourse := publishNow_course ask w p
  generalize w.publishNow ask p = o at hcourse hfailed ⊢
  cases hcourse with
  | already hpublished => cases hfailed
  | unfit hpublished hunfit =>
    rw [hcheck] at hunfit
    cases hunfit
  | refused hpublished _ hlimit =>
    rw [acquire, hlimit] at hcounted
    cases hcounted
  | done => cases hfailed
  | @failed hpublished _ n counts e hlimit hattempt =>
    set a := (w.admitted p n counts).attempt ask p with ha
    have hsteady := (steady_admitted w p n counts).view
    have hregistries := registries_admitted w p n counts
    have hadmitted : Makes w (w.admitted p n counts) [] := .of_eq (exchanges_admitted w p n counts)
    obtain ⟨t, hfollows, hmade, herror⟩ := attempt_follows ask (w.admitted p n counts) p
    -- To be counted touches nothing that an attempt follows.
    have hfollows' := hfollows.congr hregistries hsteady (nextInvoker_admitted w p n counts)
    have howes : a.Owes (w.admitted p n counts) p := attempt_owes ask _ p
    obtain ⟨hservers, hannounced⟩ := howes.parts hfollows hmade
    obtain ⟨back, hback, hasked⟩ := discard_asks ask howes
    have hbooks : Rebooked w (a.outcome.world.discard ask p a) p _ none (w.liveCount p)
        (w.entry p) := rebooked_failed hlimit hattempt
    rw [Outcome.error?_eq_some_iff.2 hattempt] at herror
    obtain ⟨before, c, e', hlast, he⟩ := hfollows'.last herror.symm
    refine ⟨t, back, hfollows', ?_, ?_, ?_, ⟨before, c, e', hlast, congrArg _ he⟩,
      hbooks.counts_eq, hbooks.published_eq, ?_, ?_, ?_, hbooks.attributes⟩
    · rw [List.append_assoc]
      exact (hadmitted.trans hmade).trans hback
    · intro x hx
      obtain ⟨hcreated, hbound, hannouncing⟩ := hfollows.kinds
      rw [AttemptTrace.calls, List.mem_append, List.mem_append] at hx
      obtain (hx | hx) | hx := hx
      · exact (hcreated x hx).2
      · exact (hbound x hx).2
      · exact (hannouncing x hx).2
    · rw [hasked, ha, liveCount_attempt hlimit, hservers, hannounced]
      by_cases hzero : w.liveCount p = 0
      · rw [if_pos hzero, if_pos (by omega)]
      · rw [if_neg hzero, if_neg (by omega)]
    · rw [isPublished, hbooks.provider_self]
      exact hpublished
    · rw [hbooks.provider_self]
    · rw [listener_config, hbooks.listenerAt, if_pos rfl]

/-- The first server accepts the provider but does not start, the second registry halts. When the
two servers and the first registry are asked back, two of the three refuse. -/
theorem failure_undone_refused :
    let registry (name : String) : RegistryConfig := ⟨⟨name, "mock", name⟩, ⟨"mock"⟩⟩
    let server (n : Nat) (id : String) : ServerConfig := ⟨n, { id }, ⟨"mock"⟩⟩
    let p := smallProvider 0 [server 0 "one", server 1 "two"]
      [registry "first", registry "second"] 1
    let ask : Ask Unit := fun c _ =>
      (if c.name = "server.start" ∧ c.id = "one" then some (.collaborator "start" (.text "in use"))
        else if c.name = "registry.start" ∧ c.id = "second" then some (.runtime "halted" none)
        else if c.name = "registry.unregister" then some (.runtime "gone" none)
        else if c.name = "server.unregister" ∧ c.id = "one" then
          some (.collaborator "unregister" (.text "not running"))
        else none, ())
    let w := World.start ()
    p.config.delayMs = 0 ∧ p.config.check = .ok () ∧
      (w.acquire p.group p.config.key p.config.repeatLimit.toInt).result = .ok 1 ∧
      (w.publish ask p).error?.map ProviderError.message = some "halted" ∧
      ((w.publish ask p).world.exchanges.map fun x => (x.1.name, x.1.id)).drop 13 =
        [("registry.unregister", "first"), ("server.unregister", "one"),
          ("server.unregister", "two")] ∧
      ∃ (t : AttemptTrace) (back : List Exchange), Undone w p (w.publish ask p) t back := by
  intro registry server p ask w
  have hhalted : (w.publish ask p).error?.map ProviderError.message = some "halted" := by
    decide +kernel
  obtain ⟨e, he, -⟩ := Option.map_eq_some_iff.1 hhalted
  exact ⟨rfl, rfl, rfl, hhalted, by decide +kernel,
    failure_undone ask w p rfl rfl rfl (Outcome.error?_eq_some_iff.1 he)⟩

end Failures

end ServicePublisher
