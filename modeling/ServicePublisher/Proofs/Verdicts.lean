import ServicePublisher.Proofs.Coverage
import ServicePublisher.Proofs.Tours
import ServicePublisher.Proofs.Traces
import ServicePublisher.Proofs.Views

/-! What a publication answers. The configuration and its key may stand against it, and then nobody
is called. Otherwise the answers of the collaborators decide: any fault counts while registries are
created, but only a framework error while servers are bound and the provider is announced. -/
namespace ServicePublisher

open World

variable {σ α : Type} {ask : Ask σ} {w w' w'' : World σ} {p : Provider}

namespace ProviderConfig

def misfit? (c : ProviderConfig) : Option ProviderError :=
  let refuse (value : String) : Option ProviderError :=
    some (.configuration "provider.ref" value
      s!"This is not an instance of {c.interface.id} in provider config with key {c.key.text} !")
  match c.implementation with
  | none => refuse "null"
  | some x => if x.typeName = c.interface.typeName then none else refuse x.typeName

def unserved? (c : ProviderConfig) : Option ProviderError :=
  if c.servers = [] then
    some (.configuration "server" "NULL"
      s!"Value of \"server\" is not specified in provider config with key {c.key.text} !")
  else none

def objections (c : ProviderConfig) : List (Option ProviderError) := [c.misfit?, c.unserved?]

end ProviderConfig

namespace World

/-- The key has as many live publications as a positive limit allows. -/
def crowded? (w : World σ) (p : Provider) : Option ProviderError :=
  if 0 < p.config.repeatLimit.toInt ∧ p.config.repeatLimit.toInt ≤ w.liveCount p then
    some (.duplicate p.config.key.text p.config.repeatLimit.toInt.toNat)
  else none

/-- What may stand against a publication before anybody is called, in the order of precedence. -/
def objections (w : World σ) (p : Provider) : List (Option ProviderError) :=
  p.config.objections ++ [w.crowded? p]

end World

/-- What may end an attempt to publish, in the order of precedence: a registry that cannot be
created, whatever the reason, then a framework error of a server, then one of a registry. -/
def AttemptTrace.failures (t : AttemptTrace) : List (Option ProviderError) :=
  [(firstRefusal t.created).map fun e =>
      if e.isFramework then e else .runtime "Build provider proxy error!" (some (.error e)),
    firstFrameworkError t.bound, firstFrameworkError t.announced]

/-- The first that applies. -/
def firstOf {ε : Type} (candidates : List (Option ε)) : Option ε := candidates.findSome? id

/-- The calls of an attempt: the missing registries are created until one fails; then the servers
are visited, each asked in turn until it refuses, up to the first framework error; then the
registries likewise. -/
structure AttemptTrace.Follows (t : AttemptTrace) (w : World σ) (p : Provider) : Prop where
  created : InTurn ((w.missing p.group p.config.announcedIn).map fun r =>
    .registry p.group r .create) t.created
  bound : if firstRefusal t.created = none then
      ∃ visits, Tour (BindingScript w p.config (w.nextInvoker p)) p.config.servers visits ∧
        t.bound = exchangesOf visits
    else t.bound = []
  announced : if firstRefusal t.created = none ∧ firstFrameworkError t.bound = none then
      ∃ visits, Tour (AnnouncingScript w p) p.config.announcedIn visits ∧
        t.announced = exchangesOf visits
    else t.announced = []

section Objections

theorem firstOf_append {ε : Type} (xs ys : List (Option ε)) :
    firstOf (xs ++ ys) = (firstOf xs).or (firstOf ys) :=
  List.findSome?_append

theorem mem_of_firstOf {ε : Type} {candidates : List (Option ε)} {e : ε}
    (h : firstOf candidates = some e) : some e ∈ candidates := by
  obtain ⟨x, hx, rfl⟩ := List.exists_of_findSome?_eq_some h
  exact hx

theorem check_eq (c : ProviderConfig) :
    c.check = match firstOf c.objections with
      | none => .ok ()
      | some e => .error e := by
  rw [ProviderConfig.check, ProviderConfig.objections, ProviderConfig.misfit?,
    ProviderConfig.unserved?]
  cases c.implementation with
  | none => rfl
  | some x =>
    dsimp only
    rw [Interface.isImplementedBy]
    by_cases htype : x.typeName = c.interface.typeName
    · cases c.servers with
      | nil => simp [htype, firstOf]
      | cons s servers => simp [htype, firstOf]
    · simp [htype, firstOf]

/-- The configuration objects to its publication exactly when it does not pass its check. -/
theorem objections_of_unfit {e : ProviderError} (h : p.config.check = .error e) :
    firstOf (w.objections p) = some e := by
  rw [check_eq] at h
  rw [objections, firstOf_append]
  cases hfirst : firstOf p.config.objections with
  | none => simp [hfirst] at h
  | some e' =>
    simp only [hfirst, Except.error.injEq] at h
    rw [h, Option.some_or]

theorem objections_of_fit (h : p.config.check = .ok ()) :
    firstOf (w.objections p) = w.crowded? p := by
  rw [check_eq] at h
  rw [objections, firstOf_append]
  cases hfirst : firstOf p.config.objections with
  | none => cases w.crowded? p <;> simp [firstOf]
  | some e' => simp [hfirst] at h

theorem crowded_of_refused {e : ProviderError}
    (h : (w.services p.group).counts.acquire p.config.key p.config.repeatLimit.toInt = .error e) :
    w.crowded? p = some e := by
  have hfull : ¬(p.config.repeatLimit.toInt ≤ 0 ∨
      (w.liveCount p : Int) < p.config.repeatLimit.toInt) := by
    intro hroom
    rw [ExportCounts.acquire_eq_ok_iff.2 ⟨hroom, rfl, rfl⟩] at h
    cases h
  rw [crowded?, if_pos (by omega), ExportCounts.eq_of_acquire_eq_error h]

theorem crowded_of_counted {n : Nat} {counts : ExportCounts}
    (h : (w.services p.group).counts.acquire p.config.key p.config.repeatLimit.toInt =
      .ok (n, counts)) : w.crowded? p = none := by
  obtain ⟨hroom, -, -⟩ := ExportCounts.acquire_eq_ok_iff.1 h
  rw [crowded?, liveCount, if_neg (by omega)]

theorem isFramework_of_objection {e : ProviderError} (h : firstOf (w.objections p) = some e) :
    e.isFramework = true := by
  have hmem := mem_of_firstOf h
  simp only [objections, ProviderConfig.objections, List.cons_append, List.nil_append,
    List.mem_cons, List.not_mem_nil, or_false] at hmem
  obtain hmisfit | hunserved | hcrowded := hmem
  · rw [ProviderConfig.misfit?] at hmisfit
    dsimp only at hmisfit
    split at hmisfit
    · cases hmisfit
      rfl
    · split at hmisfit <;> cases hmisfit
      rfl
  · rw [ProviderConfig.unserved?] at hunserved
    split at hunserved <;> cases hunserved
    rfl
  · rw [crowded?] at hcrowded
    split at hcrowded <;> cases hcrowded
    rfl

end Objections

section Attempts

theorem registries_admitted (w : World σ) (p : Provider) (n : Nat) (counts : ExportCounts)
    (g : Nat) : ((w.admitted p n counts).services g).registries = (w.services g).registries := by
  have hcounted : (((w.prepared p).modifyServices p.group fun t => { t with counts }).services
      g).registries = (w.services g).registries := by
    exact (modifyServices_keeps (w.prepared p) p.group (fun t => { t with counts })
      (fun _ => rfl) g).trans (@decideMethods_keeps σ w _ Services.registries (fun _ _ => rfl) p g)
  rw [admitted]
  split
  · exact hcounted
  · exact hcounted

theorem isFramework_of_first {made : List Exchange} {e : ProviderError}
    (h : firstFrameworkError made = some e) : e.isFramework = true := by
  obtain ⟨x, -, hx⟩ := List.exists_of_findSome?_eq_some h
  exact (Option.filter_eq_some_iff.1 hx).2

/-- A framework error is given to the caller as it is. -/
theorem map_intoFramework (made : List Exchange) :
    (firstFrameworkError made).map ProviderError.intoFramework = firstFrameworkError made := by
  cases h : firstFrameworkError made with
  | none => rfl
  | some e =>
    rw [Option.map_some, ProviderError.intoFramework_of_framework (isFramework_of_first h)]

theorem view_listening (p : Provider) (bound : Walk σ ServerConfig) :
    (listening p bound).view p.config = bound.outcome.world.view p.config := by
  rw [view, listening, setListener, config_modifyConfig, if_pos rfl]
  rfl

/-- When a provider is about to be announced, its registries exist. -/
theorem listening_known (ask : Ask σ) (w : World σ) (p : Provider) {w₁ : World σ}
    (horigin : ∀ identity, w₁.origin? p.group identity = (w.origin? p.group identity).or
      (p.config.announcedIn.find? fun r => r.identity == identity)) :
    ∀ r ∈ p.config.announcedIn, (listening p (w.boundAfter ask p w₁)).origin? p.group r.identity =
      some (w.registryOf p r) := by
  intro r hr
  have hservices : (listening p (w.boundAfter ask p w₁)).origin? p.group r.identity =
      w₁.origin? p.group r.identity := by
    have hbound := @services_bindServers σ ask w₁ p.config (w.nextInvoker p) p.group
    rw [origin?, origin?, ← hbound]
    rfl
  have hfound : (p.config.announcedIn.find? fun x => x.identity == r.identity).isSome = true :=
    List.find?_isSome.2 ⟨r, hr, by simp⟩
  rw [hservices, horigin, registryOf]
  cases hx : w.origin? p.group r.identity with
  | some x => rfl
  | none =>
    obtain ⟨y, hy⟩ := Option.isSome_iff_exists.1 hfound
    rw [hy]
    rfl

/-- An attempt follows the configuration, and its error is what ends it. -/
theorem attempt_follows (ask : Ask σ) (w : World σ) (p : Provider) :
    ∃ t : AttemptTrace, t.Follows w p ∧ Makes w (w.attempt ask p).outcome.world t.calls ∧
      (w.attempt ask p).outcome.error?.map ProviderError.intoFramework = firstOf t.failures := by
  obtain ⟨created, hcreated, hmade, -, hfailed⟩ :=
    conducts_prime ask (w.openInvoker p) p.group p.config.announcedIn
  have hfirst : Makes w (prime ask p.group p.config.announcedIn (w.openInvoker p)).world created :=
    hmade
  -- No part of an attempt writes attributes, so all of it shows those that were there at first.
  have hview : (prime ask p.group p.config.announcedIn (w.openInvoker p)).world.view p.config =
      w.view p.config := (sameBooks_prime ask (w.openInvoker p) p.group p.config.announcedIn).view _
  have horigin := @origin?_prime σ ask (w.openInvoker p) p.group p.config.announcedIn
  have hcourse := attempt_course ask w p
  generalize w.attempt ask p = a at hcourse
  cases hcourse with
  | @unprimed e w₁ hprime =>
    rw [hprime] at hfirst hfailed
    have hrefused : firstRefusal created = some e := hfailed.symm
    refine ⟨{ created }, ⟨hcreated, by simp [hrefused], by simp [hrefused]⟩, ?_, ?_⟩
    · simpa [AttemptTrace.calls] using hfirst
    · rw [AttemptTrace.failures, hrefused]
      rfl
  | @unbound w₁ e hprime hbound =>
    rw [hprime] at hfirst hfailed hview
    have haccepted : firstRefusal created = none := hfailed.symm
    obtain ⟨visits, hbind⟩ := bindServers_tours ask hview (w.nextInvoker p)
    have hended : firstFrameworkError (exchangesOf visits) = some e :=
      hbind.error.symm.trans (Outcome.error?_eq_some_iff.2 hbound)
    refine ⟨{ created, bound := exchangesOf visits }, ⟨hcreated, ?_, by simp [hended]⟩, ?_, ?_⟩
    · rw [if_pos haccepted]
      exact ⟨visits, hbind.tour, rfl⟩
    · simpa [AttemptTrace.calls, boundAfter] using hfirst.trans hbind.makes
    · rw [Outcome.error?_eq_some_iff.2 hbound, ← hended, map_intoFramework,
        AttemptTrace.failures, haccepted, hended]
      rfl
  | @announced w₁ hprime hbound =>
    rw [hprime] at hfirst hfailed hview horigin
    have haccepted : firstRefusal created = none := hfailed.symm
    obtain ⟨visits, hbind⟩ := bindServers_tours ask hview (w.nextInvoker p)
    have hended : firstFrameworkError (exchangesOf visits) = none :=
      hbind.error.symm.trans (Outcome.error?_eq_none_iff.2 hbound)
    have hlisten : Makes (w.boundAfter ask p w₁).outcome.world
        (listening p (w.boundAfter ask p w₁)) [] := .of_eq (exchanges_log _ _)
    have hready := listening_known ask w p (horigin rfl)
    have hlistening : (listening p (w.boundAfter ask p w₁)).view p.config = w.view p.config :=
      (view_listening p _).trans
        (((sameBooks_bindServers ask w₁ p.config (w.nextInvoker p)).view _).trans hview)
    obtain ⟨later, hannounce⟩ := announce_tours ask hready hlistening
    refine ⟨{ created, bound := exchangesOf visits, announced := exchangesOf later },
      ⟨hcreated, ?_, ?_⟩, ?_, ?_⟩
    · rw [if_pos haccepted]
      exact ⟨visits, hbind.tour, rfl⟩
    · rw [if_pos ⟨haccepted, hended⟩]
      exact ⟨later, hannounce.tour, rfl⟩
    · simpa [AttemptTrace.calls, boundAfter] using
        ((hfirst.trans hbind.makes).trans hlisten).trans hannounce.makes
    · rw [hannounce.error, map_intoFramework, AttemptTrace.failures, haccepted, hended]
      cases firstFrameworkError (exchangesOf later) <;> rfl

/-- What an attempt follows is decided by the registries, the attributes and the number of attempts
so far. -/
theorem AttemptTrace.Follows.congr {t : AttemptTrace} (h : t.Follows w' p)
    (hregistries : ∀ g, (w'.services g).registries = (w.services g).registries)
    (hview : w'.view p.config = w.view p.config)
    (hinvoker : w'.nextInvoker p = w.nextInvoker p) : t.Follows w p := by
  have hbinding : BindingScript w' p.config (w.nextInvoker p) =
      BindingScript w p.config (w.nextInvoker p) := by
    funext s calls
    rw [BindingScript, BindingScript, hview]
  have hannouncing : AnnouncingScript w' p = AnnouncingScript w p := by
    funext r calls
    rw [AnnouncingScript, AnnouncingScript, registryOf, registryOf, origin?, origin?, hregistries,
      hview]
  obtain ⟨hcreated, hbound, hannounced⟩ := h
  rw [missing, hregistries] at hcreated
  rw [hinvoker, hbinding] at hbound
  rw [hannouncing] at hannounced
  exact ⟨hcreated, hbound, hannounced⟩

/-- What ends an attempt is the last that is exchanged. -/
theorem AttemptTrace.Follows.last {t : AttemptTrace} (h : t.Follows w p) {e : ProviderError}
    (he : firstOf t.failures = some e) :
    ∃ before c e', t.calls = before ++ [(c, some e')] ∧ e = e'.intoFramework := by
  obtain ⟨hcreated, hbound, hannounced⟩ := h
  have hframework {made : List Exchange} {e : ProviderError}
      (h : firstFrameworkError made = some e) : e = e.intoFramework :=
    (ProviderError.intoFramework_of_framework (isFramework_of_first h)).symm
  rw [failures, firstOf, List.findSome?_cons] at he
  cases hrefused : firstRefusal t.created with
  | some e' =>
    simp only [hrefused, reduceCtorEq, if_false, false_and] at hbound hannounced
    simp only [hrefused, Option.map_some, id, Option.some.injEq] at he
    obtain ⟨before, c, hlast⟩ := hcreated.last hrefused
    refine ⟨before, c, e', ?_, he.symm⟩
    rw [calls, hbound, hannounced, hlast, List.append_nil, List.append_nil]
  | none =>
    simp only [hrefused, if_true, true_and] at hbound hannounced
    simp only [hrefused, Option.map_none, id] at he
    obtain ⟨visits, htour, hvisits⟩ := hbound
    rw [List.findSome?_cons] at he
    cases hended : firstFrameworkError t.bound with
    | some e' =>
      simp only [hended, reduceCtorEq, if_false] at hannounced
      simp only [hended, id, Option.some.injEq] at he
      rw [hvisits] at hended
      obtain ⟨before, c, hlast⟩ := htour.last hended
      refine ⟨t.created ++ before, c, e', ?_, he ▸ hframework hended⟩
      rw [calls, hannounced, hvisits, hlast, List.append_nil, List.append_assoc]
    | none =>
      simp only [hended, if_true] at hannounced
      simp only [hended, id, List.findSome?_cons, List.findSome?_nil] at he
      obtain ⟨later, htour, hlater⟩ := hannounced
      have hlate : firstFrameworkError (exchangesOf later) = some e := by
        rw [← hlater]
        cases h : firstFrameworkError t.announced with
        | none => simp [h] at he
        | some e' => simpa [h] using he
      obtain ⟨before, c, hlast⟩ := htour.last hlate
      refine ⟨t.created ++ t.bound ++ before, c, e, ?_, hframework hlate⟩
      rw [calls, hlater, hlast, ← List.append_assoc]

end Attempts

section Releases

/-- If it is a call, it takes an entry back. -/
def Event.Releasing : Event → Prop
  | .call c _ => c.releases = true
  | _ => True

theorem World.Grows.releases (h : Grows Event.Releasing w w') :
    ∃ back, Makes w w' back ∧ ∀ x ∈ back, x.1.releases = true := by
  obtain ⟨es, hes, hfits⟩ := h
  refine ⟨es.filterMap Event.exchange?, ?_, fun x hx => ?_⟩
  · rw [Makes, exchanges, hes, List.filterMap_append]
    rfl
  · obtain ⟨event, hevent, hx⟩ := List.mem_filterMap.1 hx
    have hfit := hfits event hevent
    cases event with
    | call c answer =>
      cases hx
      exact hfit
    | _ => cases hx

/-- Bindings are taken back by calls that do only that, as the registries concerned are known. -/
theorem releasing_retract (ask : Ask σ) {registries : List RegistryConfig}
    (hstocked : w.Stocked p.group registries) :
    Grows Event.Releasing w (w.retract ask p registries) := by
  have hkept : (w.retract ask p registries).Stocked p.group registries ∧
      Grows Event.Releasing w (w.retract ask p registries) := by
    rw [retract]
    refine sweep_keeps (P := fun w' => w'.Stocked p.group registries ∧
      Grows Event.Releasing w w') ?visit ?report ⟨hstocked, .refl w⟩
    case report =>
      intro r _ w' e hw'
      have hnotice : Event.Releasing
          (.notice (.ofProvider p.config.appName p.config.key (.retractionFailed r.id e))) :=
        trivial
      exact ⟨hw'.1, hw'.2.record hnotice⟩
    intro r hr w' hw'
    obtain ⟨x, hx⟩ := Option.isSome_iff_exists.1 (hw'.1 r hr)
    rw [retractFrom, registryFor, hx]
    exact ⟨(keepsRegistries_perform ask w' _).stocked hw'.1,
      hw'.2.trans (grows_perform ask w' fun _ => rfl)⟩
  exact hkept.2

theorem releasing_unbindServers (ask : Ask σ) (w : World σ) (c : ProviderConfig)
    (servers : List ServerConfig) : Grows Event.Releasing w (w.unbindServers ask c servers) :=
  unbindServers_keeps (fun w' _ _ h => h.trans (grows_perform ask w' fun _ => rfl))
    (fun _ _ _ h => h.record trivial) (.refl w)

/-- Whoever announced a provider in an attempt is known. -/
theorem stocked_accepted (ask : Ask σ) (w : World σ) (p : Provider) :
    (w.attempt ask p).outcome.world.Stocked p.group (w.attempt ask p).registries := by
  have hstocked := @stocked_prime σ ask (w.openInvoker p) p.group p.config.announcedIn
  have hmem := fun r => @mem_announcedIn_of_mem_attempt σ ask w p r
  have hcourse := attempt_course ask w p
  generalize w.attempt ask p = a at hcourse hmem
  cases hcourse with
  | unprimed hprime => simp [Stocked]
  | unbound hprime hbound => simp [Stocked]
  | @announced w₁ hprime hbound =>
    rw [hprime] at hstocked
    have hfound := (keepsRegistries_announced ask w p w₁).stocked (hstocked rfl)
    exact fun r hr => hfound r (hmem r hr)

theorem releasing_discard (ask : Ask σ) {a : Attempt σ}
    (hstocked : w.Stocked p.group a.registries) :
    Grows Event.Releasing w (w.discard ask p a) := by
  have hclosed : KeepsRegistries w
      (((w.setListener p.config none).closeInvoker p).release p.group p.config.key).2 :=
    keepsRegistries_release _ p.group p.config.key
  have hreleased : Grows Event.Releasing w
      (((w.setListener p.config none).closeInvoker p).release p.group p.config.key).2 := .of_eq rfl
  rw [World.discard]
  dsimp only
  split
  · exact hreleased.record trivial
  · exact (hreleased.trans (releasing_retract ask (hclosed.stocked hstocked))).trans
      (releasing_unbindServers ask _ p.config a.servers)

end Releases

section Verdicts

/-- How a publication answers: with the first that applies of what the configuration and its key
object to and of what ends the attempt. When something is objected nobody is called, else the
attempt follows the configuration. An error is a framework error; it stems from the last call of the
attempt, and after that call bindings are only taken back. -/
structure Verdict (w : World σ) (p : Provider) (o : Outcome σ Unit) (t : AttemptTrace)
    (back : List Exchange) : Prop where
  error : o.error? = firstOf (w.objections p ++ t.failures)
  exchanges : o.world.exchanges = w.exchanges ++ t.calls ++ back
  uncalled : ∀ e, firstOf (w.objections p) = some e → t.calls = [] ∧ back = []
  follows : firstOf (w.objections p) = none → t.Follows w p
  framework : ∀ e, o.error? = some e → e.isFramework = true
  last : ∀ e, firstOf (w.objections p) = none → o.error? = some e →
    ∃ before c e', t.calls = before ++ [(c, some e')] ∧ e = e'.intoFramework
  releases : ∀ x ∈ back, x.1.releases = true
  kept : o.error? = none → back = []

theorem verdict_of_objection {w' : World σ} {e : ProviderError}
    (h : firstOf (w.objections p) = some e) (hquiet : w'.exchanges = w.exchanges) :
    Verdict w p ⟨.error e, w'⟩ {} [] where
  error := by
    rw [firstOf_append, h]
    rfl
  exchanges := by simpa [AttemptTrace.calls] using hquiet
  uncalled _ _ := ⟨rfl, rfl⟩
  follows hclear := by rw [h] at hclear; cases hclear
  framework e' he := by
    cases he
    exact isFramework_of_objection h
  last e' hclear := by rw [h] at hclear; cases hclear
  releases := by simp
  kept he := by cases he

theorem verdict_of_attempt {o : Outcome σ Unit} {t : AttemptTrace} {back : List Exchange}
    (hclear : firstOf (w.objections p) = none) (ht : t.Follows w p)
    (herror : o.error? = firstOf t.failures) (hmade : Makes w o.world (t.calls ++ back))
    (hreleases : ∀ x ∈ back, x.1.releases = true) (hkept : o.error? = none → back = []) :
    Verdict w p o t back where
  error := by rw [firstOf_append, hclear, Option.none_or, herror]
  exchanges := by rw [hmade, List.append_assoc]
  uncalled e he := by rw [hclear] at he; cases he
  follows _ := ht
  framework e he := by
    obtain ⟨before, c, e', -, rfl⟩ := ht.last (herror ▸ he)
    exact ProviderError.isFramework_intoFramework e'
  last e _ he := ht.last (herror ▸ he)
  releases := hreleases
  kept := hkept

theorem publishNow_verdict (ask : Ask σ) (hunpublished : w.isPublished p = false) :
    ∃ t back, Verdict w p (w.publishNow ask p) t back := by
  -- An admitted provider attempts what it would attempt in the state before.
  have hattempts (n : Nat) (counts : ExportCounts) : ∃ t : AttemptTrace, t.Follows w p ∧
      Makes w ((w.admitted p n counts).attempt ask p).outcome.world t.calls ∧
      ((w.admitted p n counts).attempt ask p).outcome.error?.map ProviderError.intoFramework =
        firstOf t.failures := by
    have hadmitted : Makes w (w.admitted p n counts) [] := .of_eq (exchanges_admitted w p n counts)
    obtain ⟨t, hfollows, hmade, herror⟩ := attempt_follows ask (w.admitted p n counts) p
    exact ⟨t, hfollows.congr (registries_admitted w p n counts) (steady_admitted w p n counts).view
      (nextInvoker_admitted w p n counts), hadmitted.trans hmade, herror⟩
  have hcourse := publishNow_course ask w p
  generalize w.publishNow ask p = outcome at hcourse
  cases hcourse with
  | already hpublished => rw [hunpublished] at hpublished; cases hpublished
  | unfit _ hcheck => exact ⟨{}, [], verdict_of_objection (objections_of_unfit hcheck) rfl⟩
  | refused _ hcheck hlimit =>
    exact ⟨{}, [], verdict_of_objection
      ((objections_of_fit hcheck).trans (crowded_of_refused hlimit)) (exchanges_prepared w p)⟩
  | @failed _ hcheck n counts e hlimit hattempt =>
    obtain ⟨t, hfollows, hmade, herror⟩ := hattempts n counts
    obtain ⟨back, hback, hreleases⟩ :=
      (releasing_discard ask (stocked_accepted ask (w.admitted p n counts) p)).releases
    rw [Outcome.error?_eq_some_iff.2 hattempt] at herror
    exact ⟨t, back,
      verdict_of_attempt ((objections_of_fit hcheck).trans (crowded_of_counted hlimit))
      hfollows herror (hmade.trans hback) hreleases fun he => (by cases he)⟩
  | @done _ hcheck n counts hlimit hattempt =>
    obtain ⟨t, hfollows, hmade, herror⟩ := hattempts n counts
    rw [Outcome.error?_eq_none_iff.2 hattempt] at herror
    exact ⟨t, [], verdict_of_attempt ((objections_of_fit hcheck).trans (crowded_of_counted hlimit))
      hfollows herror (by rwa [List.append_nil]) (by simp) fun _ => rfl⟩

/-- A publication at once of a provider that is not published has such a verdict in every state and
whatever the collaborators answer. -/
theorem publication_verdict (ask : Ask σ) (w : World σ) (p : Provider)
    (hdelay : p.config.delayMs = 0) (hunpublished : w.isPublished p = false) :
    ∃ (t : AttemptTrace) (back : List Exchange), Verdict w p (w.publish ask p) t back := by
  rw [publish_at_once ask w hdelay]
  exact publishNow_verdict ask hunpublished

/-- The first server does not start, which is its own affair; then the second registry cannot be
started for a reason of the framework, which ends the publication. -/
theorem publication_verdict_ended :
    let registry (name : String) : RegistryConfig := ⟨⟨name, "mock", name⟩, ⟨"mock"⟩⟩
    let server (n : Nat) (id : String) : ServerConfig := ⟨n, { id }, ⟨"mock"⟩⟩
    let p := smallProvider 0 [server 0 "one", server 1 "two"]
      [registry "first", registry "second"] 1
    let ask : Ask Unit := fun c _ =>
      (if c.name = "server.start" ∧ c.id = "one" then some (.collaborator "start" (.text "in use"))
        else if c.name = "registry.start" ∧ c.id = "second" then some (.runtime "halted" none)
        else none, ())
    let w := World.start ()
    p.config.delayMs = 0 ∧ w.isPublished p = false ∧
      (w.publish ask p).error?.map ProviderError.message = some "halted" ∧
      (w.publish ask p).world.exchanges.map (fun x => (x.1.name, x.1.id)) =
        [("registry.create", "first"), ("registry.create", "second"),
          ("server.create", "one"), ("server.register", "one"), ("server.start", "one"),
          ("server.create", "two"), ("server.register", "two"), ("server.start", "two"),
          ("registry.init", "first"), ("registry.start", "first"), ("registry.register", "first"),
          ("registry.init", "second"), ("registry.start", "second"),
          ("registry.unregister", "first"), ("server.unregister", "one"),
          ("server.unregister", "two")] ∧
      ∃ (t : AttemptTrace) (back : List Exchange), Verdict w p (w.publish ask p) t back := by
  intro registry server p ask w
  exact ⟨rfl, rfl, by decide +kernel, by decide +kernel, publication_verdict ask w p rfl rfl⟩

end Verdicts

end ServicePublisher
