import ServicePublisher.Proofs.Coherence
import ServicePublisher.Proofs.Values
import ServicePublisher.Proofs.Views

/-! Changes of attributes are all or nothing. A provider that hears of updates is published with all
of them, or with none, or withdrawn with none; and no collaborator ever sees anything in between. -/
namespace ServicePublisher

open World ProviderConfig

variable {σ : Type}

inductive Ending where
  /-- The provider is published with the new values. -/
  | changed
  /-- It is published with the old values. -/
  | restored
  /-- It is not published any more, and has the old values. -/
  | lost (e : ProviderError)

/-- Whether a change that began in a state has ended in a way. -/
def Ending.Fits (w : World σ) (p : Provider) (new : Attributes) (outcome : Outcome σ Unit) :
    Ending → Prop
  | .changed => outcome.result = .ok () ∧ outcome.world.isPublished p = true ∧
      (outcome.world.config p.config).attributes = new
  | .restored => outcome.result = .ok () ∧ outcome.world.isPublished p = true ∧
      (outcome.world.config p.config).attributes = (w.config p.config).attributes
  | .lost e => outcome.result = .error e ∧ outcome.world.isPublished p = false ∧
      (outcome.world.config p.config).attributes = (w.config p.config).attributes ∧
      outcome.world.liveCount p + 1 = w.liveCount p

/-- A change ends in one way only, if the new values are not the old ones. -/
theorem Ending.Fits.unique {w : World σ} {p : Provider} {new : Attributes}
    {outcome : Outcome σ Unit} (hnew : new ≠ (w.config p.config).attributes) {x y : Ending}
    (hx : x.Fits w p new outcome) (hy : y.Fits w p new outcome) : x = y := by
  cases x with
  | changed =>
    obtain ⟨hok, -, hattributes⟩ := hx
    cases y with
    | changed => rfl
    | restored => exact absurd (hattributes.symm.trans hy.2.2) hnew
    | lost e => cases hok.symm.trans hy.1
  | restored =>
    obtain ⟨hok, -, hattributes⟩ := hx
    cases y with
    | changed => exact absurd (hy.2.2.symm.trans hattributes) hnew
    | restored => rfl
    | lost e => cases hok.symm.trans hy.1
  | lost e =>
    obtain ⟨herror, -⟩ := hx
    cases y with
    | changed => cases herror.symm.trans hy.1
    | restored => cases herror.symm.trans hy.1
    | lost e' => rw [Except.error.inj (herror.symm.trans hy.1)]

namespace World

variable (ask : Ask σ) (w : World σ) (p : Provider) (updates : List (String × Option String))

/-- The state in which a provider that hears of updates is published again: it has been withdrawn,
and the values are written. -/
def rewritten : World σ :=
  (updateAll p.config updates ((w.report p.config .republishing).withdraw ask p)).world

/-- The state in which it is published once more: that has failed, and the old values are back. -/
def restored : World σ :=
  match (w.report p.config .republishing).republish ask p updates with
  | ⟨.ok (), w'⟩ => w'
  | ⟨.error e, w'⟩ => restore p.config (Attributes.stale (w.config p.config).attributes updates)
      (w'.report p.config (.updateFailed e))

end World

/-- Between two states a provider has been withdrawn and nothing more. -/
structure Suspended (w w' : World σ) (p : Provider) : Prop where
  published : w'.isPublished p = false
  count : w'.liveCount p + 1 = w.liveCount p

section Steps

variable (ask : Ask σ) {w w' w'' : World σ} {p : Provider} {a : Attributes}

theorem Suspended.wrote (h : Suspended w w' p) (hwrote : Wrote p.config w' w'' a) :
    Suspended w w'' p where
  published := by
    rw [isPublished, provider, hwrote.providers]
    exact h.published
  count := by
    rw [liveCount, services, hwrote.groups]
    exact h.count

theorem suspended_withdraw (hpublished : w.isPublished p = true) (hcount : 0 < w.liveCount p) :
    Suspended w (w.withdraw ask p) p := by
  have hbooked := @rebooked_withdraw σ ask w p hpublished
  refine ⟨?_, ?_⟩
  · rw [isPublished, hbooked.provider_self]
  · rw [hbooked.liveCount_self]
    omega

/-- A provider that is suspended is published, or still suspended when that fails. -/
theorem Suspended.publish (h : Suspended w w' p) (hdelay : p.config.delayMs = 0) :
    ((w'.publish ask p).result = .ok () ∧ (w'.publish ask p).world.isPublished p = true) ∨
      ∃ e, (w'.publish ask p).result = .error e ∧ Suspended w (w'.publish ask p).world p := by
  have hcourse := publishNow_course ask w' p
  rw [World.publish]
  simp only [hdelay, if_true]
  generalize w'.publishNow ask p = outcome at hcourse
  have hdead : (w'.provider p).published = false := h.published
  cases hcourse with
  | already hpublished => exact .inl ⟨rfl, hpublished⟩
  | unfit hpublished hcheck => exact .inr ⟨_, rfl, h⟩
  | refused hpublished hcheck hlimit =>
    have hbooked := rebooked_prepared w' p
    refine .inr ⟨_, rfl, ?_, ?_⟩
    · rw [isPublished, hbooked.provider_self, hdead]
    · rw [hbooked.liveCount_self, h.count]
  | failed hpublished hcheck hlimit hattempt =>
    have hbooked := rebooked_failed hlimit hattempt
    refine .inr ⟨_, rfl, ?_, ?_⟩
    · rw [isPublished, hbooked.provider_self, hdead]
    · rw [hbooked.liveCount_self, h.count]
  | done hpublished hcheck hlimit hattempt =>
    have hbooked := rebooked_done hlimit hattempt
    exact .inl ⟨rfl, by rw [isPublished, hbooked.provider_self]⟩

theorem steady_publish : Steady p.config w (w.publish ask p).world := by
  have hscheduled (later : List Scheduled) : Steady p.config w { w with scheduled := later } :=
    .of_eq rfl rfl
  rw [World.publish]
  dsimp only
  split
  · exact steady_publishNow ask w p
  · split
    · exact .refl w
    · exact (hscheduled _).log _

theorem World.Steady.attributes {c : ProviderConfig} (h : Steady c w w') :
    (w'.config c).attributes = (w.config c).attributes :=
  congrArg ConfigView.attributes h.view

/-- The courses of a second publication: a value is refused, or all are written and the provider is
published again. -/
inductive RepublicationCourse (ask : Ask σ) (w : World σ) (p : Provider)
    (updates : List (String × Option String)) : Outcome σ Unit → Prop
  | refused (hbad : ¬∀ u ∈ updates, p.config.Admits u.1 u.2) {e : ProviderError} {w' : World σ}
      {written : List (String × Option String)} (hwritten : ∀ u ∈ written, u ∈ updates)
      (hwrote : Wrote p.config (w.withdraw ask p) w'
        (Attributes.putAll (w.config p.config).attributes written)) :
      RepublicationCourse ask w p updates ⟨.error e, w'⟩
  | rewritten (hgood : ∀ u ∈ updates, p.config.Admits u.1 u.2) {w' : World σ}
      (hrewritten : (updateAll p.config updates (w.withdraw ask p)).world = w')
      (hwrote : Wrote p.config (w.withdraw ask p) w'
        (Attributes.putAll (w.config p.config).attributes updates)) :
      RepublicationCourse ask w p updates (w'.publish ask p)

theorem republish_course (w : World σ) (p : Provider)
    (updates : List (String × Option String)) :
    RepublicationCourse ask w p updates (w.republish ask p updates) := by
  have hattributes := (steady_withdraw ask w p).attributes
  rw [republish]
  by_cases hgood : ∀ u ∈ updates, p.config.Admits u.1 u.2
  · obtain ⟨w', hall, hwrote⟩ := updateAll_of_admits hgood (w.withdraw ask p)
    rw [hattributes] at hwrote
    have hcourse := RepublicationCourse.rewritten hgood (congrArg Outcome.world hall) hwrote
    rw [hall]
    exact hcourse
  · obtain ⟨e, w', written, hall, hwritten, hwrote⟩ :=
      updateAll_of_not_admits hgood (w.withdraw ask p)
    rw [hattributes] at hwrote
    rw [hall]
    exact .refused hgood hwritten hwrote

/-- A suspended provider that is rolled back is published with the old values, or stays suspended
with them. -/
theorem Suspended.rollBack (h : Suspended w w' p) (hdelay : p.config.delayMs = 0)
    {stale : List (String × Option String)} (hstale : ∀ u ∈ stale, p.config.Admits u.1 u.2)
    (ha : Attributes.putAll (w'.config p.config).attributes stale = a) :
    ((w'.rollBack ask p stale).result = .ok () ∧
        (w'.rollBack ask p stale).world.isPublished p = true ∨
      ∃ e, (w'.rollBack ask p stale).result = .error e ∧
        ((restore p.config stale w').publish ask p).result = .error e ∧
        Suspended w (w'.rollBack ask p stale).world p) ∧
      ((w'.rollBack ask p stale).world.config p.config).attributes = a ∧
      Grows (Event.Shows ⟨p.config, a⟩) w' (w'.rollBack ask p stale).world := by
  have hwrote := restore_of_admits hstale w'
  rw [ha] at hwrote
  have hend := (h.wrote hwrote).publish ask hdelay
  have hsteady := @steady_publish σ ask (restore p.config stale w') p
  have hgrows : Grows (Event.Shows ⟨p.config, a⟩) w'
      ((restore p.config stale w').publish ask p).world := by
    have hshows := hsteady.shows
    rw [World.view, hwrote.attributes] at hshows
    exact (Grows.of_eq hwrote.events).trans hshows
  have hattributes := hsteady.attributes.trans hwrote.attributes
  rw [World.rollBack]
  generalize (restore p.config stale w').publish ask p = outcome at hend hattributes hgrows ⊢
  obtain ⟨result, w₁⟩ := outcome
  cases result with
  | ok u =>
    refine ⟨hend.imp_right ?_, hattributes, hgrows⟩
    intro hgiven
    obtain ⟨e, herror, -⟩ := hgiven
    cases herror
  | error e =>
    obtain ⟨hok, -⟩ | ⟨e', herror, hsuspended⟩ := hend
    · cases hok
    · exact ⟨.inr ⟨e, rfl, rfl, hsuspended.published, hsuspended.count⟩, hattributes,
        hgrows.record trivial⟩

end Steps

/-- A provider without delay is published, and hears of updates of known attributes that change
something; and the values that it has under numeric properties are integers. -/
structure Reconfigurable (w : World σ) (p : Provider) (updates : Updates) : Prop where
  immediate : p.config.delayMs = 0
  published : w.isPublished p = true
  integers : ∀ (key : String) k value, p.config.attributeKey key = .ok k → k.isNumeric = true →
    (w.config p.config).attributes[key]? = some value → isInteger (some value) = true
  accepted : ∀ (key : String) value, updates[key]? = some value →
    ∃ old, w.queryAttribute p.config key = .ok old
  differs : ∃ (key : String) (value : Option String), updates[key]? = some value ∧
    (w.config p.config).attributes[key]? ≠ value

namespace Reconfigurable

variable {w : World σ} {p : Provider} {updates : Updates}

theorem query (h : Reconfigurable w p updates) :
    ∀ u ∈ updates.toList, ∃ old, w.queryAttribute p.config u.1 = .ok old :=
  fun u hu => h.accepted u.1 u.2 (Std.ExtTreeMap.mem_toList_iff_getElem?_eq_some.1 hu)

/-- The values that the updates would change can be brought back. -/
theorem admits_stale (h : Reconfigurable w p updates) :
    ∀ u ∈ Attributes.stale (w.config p.config).attributes updates.toList,
      p.config.Admits u.1 u.2 := by
  intro u hu
  obtain ⟨⟨key, value⟩, hmem, rfl⟩ := List.mem_map.1 hu
  obtain ⟨old, hquery⟩ := h.query _ (List.mem_of_mem_filter hmem)
  rw [queryAttribute, ProviderConfig.query] at hquery
  cases hk : p.config.attributeKey key with
  | error e =>
    rw [hk] at hquery
    cases hquery
  | ok k =>
    refine ⟨k, hk, fun hnumeric => ?_⟩
    cases hvalue : (w.config p.config).attributes[key]? with
    | none => rfl
    | some v => exact h.integers key k v hk hnumeric hvalue

theorem effective (h : Reconfigurable w p updates) : Effective w p.config updates :=
  ⟨h.accepted, h.differs⟩

theorem new_ne_old (h : Reconfigurable w p updates) :
    Attributes.putAll (w.config p.config).attributes updates.toList ≠
      (w.config p.config).attributes := by
  obtain ⟨key, value, hvalue, hdiffers⟩ := h.differs
  intro hsame
  have hnew := getElem?_putAll_toList (w.config p.config).attributes updates key
  rw [hsame, hvalue, Option.getD_some] at hnew
  exact hdiffers hnew

end Reconfigurable

/-- Whether an event, if it is a call that shows a configuration, shows it with the old attributes
or with the new ones. -/
def Event.ShowsEither (c : ProviderConfig) (old new : Attributes) (e : Event) : Prop :=
  e.Shows ⟨c, old⟩ ∨ e.Shows ⟨c, new⟩

section Changes

variable (ask : Ask σ) {w : World σ} {p : Provider} {updates : Updates}

/-- The first publication with the new values is one that shows either all of them or none, and
whose failure leaves the provider suspended with some of them. -/
theorem Reconfigurable.republish (h : Reconfigurable w p updates) (hcount : 0 < w.liveCount p) :
    let old := (w.config p.config).attributes
    let new := Attributes.putAll old updates.toList
    let first := w.republish ask p updates.toList
    let succeeds := (∀ u ∈ updates.toList, p.config.Admits u.1 u.2) ∧
      ((updateAll p.config updates.toList (w.withdraw ask p)).world.publish ask p).result = .ok ()
    (first.result = .ok () ∧ succeeds ∧ first.world.isPublished p = true ∧
        (first.world.config p.config).attributes = new ∨
      ∃ e written, first.result = .error e ∧ ¬succeeds ∧ Suspended w first.world p ∧
        (∀ u ∈ written, u ∈ updates.toList) ∧
        (first.world.config p.config).attributes = Attributes.putAll old written) ∧
      Grows (Event.ShowsEither p.config old new) w first.world := by
  intro old new first succeeds
  have hsuspended : Suspended w (w.withdraw ask p) p := suspended_withdraw ask h.published hcount
  have hshown : Grows (Event.ShowsEither p.config old new) w (w.withdraw ask p) :=
    (steady_withdraw ask w p).shows.mono fun _ he => .inl he
  have hcourse := republish_course ask w p updates.toList
  change RepublicationCourse ask w p updates.toList first at hcourse
  generalize first = outcome at hcourse ⊢
  cases hcourse with
  | @refused hbad e w' written hwritten hwrote =>
    refine ⟨.inr ⟨e, written, rfl, fun hgood => hbad hgood.1, hsuspended.wrote hwrote, hwritten,
      hwrote.attributes⟩, hshown.trans (.of_eq hwrote.events)⟩
  | @rewritten hgood w' hrewritten hwrote =>
    have hend := (hsuspended.wrote hwrote).publish ask h.immediate
    have hsteady := @steady_publish σ ask w' p
    have hattributes : ((w'.publish ask p).world.config p.config).attributes = new :=
      hsteady.attributes.trans hwrote.attributes
    have hgrows : Grows (Event.ShowsEither p.config old new) w (w'.publish ask p).world := by
      have hshows := hsteady.shows
      rw [World.view, hwrote.attributes] at hshows
      exact (hshown.trans (.of_eq hwrote.events)).trans (hshows.mono fun _ he => .inr he)
    refine ⟨?_, hgrows⟩
    obtain ⟨hok, hlive⟩ | ⟨e, herror, hstill⟩ := hend
    · exact .inl ⟨hok, ⟨hgood, by rw [hrewritten, hok]⟩, hlive, hattributes⟩
    · refine .inr ⟨e, updates.toList, herror, fun hsucceeds => ?_, hstill, fun _ hu => hu,
        hattributes⟩
      have hok := hsucceeds.2
      rw [hrewritten, herror] at hok
      cases hok

/-- A change that is not void is one more publication, and one with the old values if that fails. -/
theorem reconfigure_of_stale (ask : Ask σ) {updates old : List (String × Option String)}
    (hold : w.staleValues p.config updates = .ok old) (hne : old ≠ []) :
    w.reconfigure ask p updates =
      match (w.report p.config .republishing).republish ask p updates with
      | ⟨.ok (), w⟩ => ⟨.ok (), w⟩
      | ⟨.error e, w'⟩ => (w'.report p.config (.updateFailed e)).rollBack ask p old := by
  rw [World.reconfigure, hold]
  cases old with
  | nil => exact absurd rfl hne
  | cons u rest => rfl

/-- A change succeeds at once, or is taken back. -/
theorem Reconfigurable.reconfigure (h : Reconfigurable w p updates) (hcount : 0 < w.liveCount p) :
    let old := (w.config p.config).attributes
    let new := Attributes.putAll old updates.toList
    let outcome := w.reconfigure ask p updates.toList
    let succeeds := (∀ u ∈ updates.toList, p.config.Admits u.1 u.2) ∧
      ((w.rewritten ask p updates.toList).publish ask p).result = .ok ()
    (succeeds ∧ Ending.changed.Fits w p new outcome ∨
      ¬succeeds ∧ (Ending.restored.Fits w p new outcome ∨
        ∃ e, (Ending.lost e).Fits w p new outcome ∧
          ((w.restored ask p updates.toList).publish ask p).result = .error e)) ∧
      Grows (Event.ShowsEither p.config old new) w outcome.world := by
  intro old new outcome succeeds
  have hagain : Reconfigurable (w.report p.config .republishing) p updates :=
    ⟨h.immediate, h.published, h.integers, h.accepted, h.differs⟩
  have hstarted : Grows (Event.ShowsEither p.config old new) w (w.report p.config .republishing) :=
    (Grows.refl w).record (.inl trivial)
  have hrestored : w.restored ask p updates.toList =
      match (w.report p.config .republishing).republish ask p updates.toList with
      | ⟨.ok (), w'⟩ => w'
      | ⟨.error e, w'⟩ => restore p.config (Attributes.stale old updates.toList)
          (w'.report p.config (.updateFailed e)) := rfl
  have houtcome : outcome = _ :=
    reconfigure_of_stale ask h.effective.staleValues h.effective.stale_ne_nil
  obtain ⟨hfirst, hshown⟩ := hagain.republish ask hcount
  replace hshown := hstarted.trans hshown
  generalize (w.report p.config .republishing).republish ask p updates.toList = first
    at hfirst hshown hrestored houtcome
  obtain ⟨result, w₁⟩ := first
  obtain ⟨hok, hsucceeds, hlive, hnew⟩ |
    ⟨e, written, herror, hfails, hsuspended, hwritten, hpartly⟩ := hfirst
  · cases hok
    rw [houtcome]
    exact ⟨.inl ⟨hsucceeds, rfl, hlive, hnew⟩, hshown⟩
  · cases herror
    -- The log line in between concerns neither the provider nor its attributes.
    have hreported : Suspended w (w₁.report p.config (.updateFailed e)) p :=
      ⟨hsuspended.published, hsuspended.count⟩
    have hback : Attributes.putAll
        ((w₁.report p.config (.updateFailed e)).config p.config).attributes
        (Attributes.stale old updates.toList) = old := by
      rw [report_eq_record, config_record, hpartly]
      exact putAll_stale old hwritten
    have hlogged := hshown.record (e := .notice (.ofProvider p.config.appName p.config.key
      (.updateFailed e))) (.inl trivial)
    obtain ⟨hend, hold, hgrows⟩ := hreported.rollBack ask h.immediate h.admits_stale hback
    rw [houtcome]
    refine ⟨.inr ⟨hfails, ?_⟩, hlogged.trans (hgrows.mono fun _ he => .inl he)⟩
    obtain ⟨hok, hlive⟩ | ⟨e', herror, hrollback, hstill⟩ := hend
    · exact .inl ⟨hok, hlive, hold⟩
    · refine .inr ⟨e', ⟨herror, hstill.published, hold, hstill.count⟩, ?_⟩
      rw [hrestored]
      exact hrollback

theorem Coherent.listens {fleet : Fleet} (h : Coherent fleet w) (hp : p ∈ fleet.members)
    (howns : fleet.Owns p) (hpublished : w.isPublished p = true) :
    (w.config p.config).listener = some (.republish p) := by
  rw [listener_config, h.listener p hp howns, hpublished, if_pos rfl]

theorem Coherent.alive {fleet : Fleet} (h : Coherent fleet w) (hp : p ∈ fleet.members)
    (hpublished : w.isPublished p = true) : w.isAlive p = true := by
  refine isAlive_of_entry ?_
  have hentry := h.entry p hp
  rwa [hpublished, if_pos rfl] at hentry

theorem notify_of_listens (hlistens : (w.config p.config).listener = some (.republish p))
    (halive : w.isAlive p = true) (updates : Updates) :
    w.notify ask p.config (.updated updates) = w.reconfigure ask p updates.toList := by
  unfold World.notify
  rw [hlistens]
  simp only [halive, if_true]

/-- A provider that is published is the one that hears of changes of its configuration. -/
theorem Coherent.notify {fleet : Fleet} (h : Coherent fleet w) (hp : p ∈ fleet.members)
    (howns : fleet.Owns p) (hpublished : w.isPublished p = true) (updates : Updates) :
    w.notify ask p.config (.updated updates) = w.reconfigure ask p updates.toList :=
  notify_of_listens ask (h.listens hp howns hpublished) (h.alive hp hpublished) updates

end Changes

/-- A change that a provider hears of ends in exactly one way, whatever the collaborators answer:
the new values stay exactly if all of them are admitted and the first publication with them
succeeds; the provider is lost only with the error of the publication that brings the old values
back; and every call shows either the old values or the new ones. -/
theorem reconfiguration_all_or_nothing {fleet : Fleet} {p : Provider} (hp : p ∈ fleet.members)
    (howns : fleet.Owns p) (ask : Ask σ) (outside : σ) {ops : List Operation}
    (hops : ∀ op ∈ ops, op.Within fleet) {updates : Updates}
    (h : Reconfigurable (run ask ops (World.start outside)) p updates) :
    let w := run ask ops (World.start outside)
    let old := (w.config p.config).attributes
    let new := Attributes.putAll old updates.toList
    let outcome := w.notify ask p.config (.updated updates)
    (∃! ending : Ending, ending.Fits w p new outcome) ∧
    (Ending.changed.Fits w p new outcome ↔
      (∀ key value, updates[key]? = some value → p.config.Admits key value) ∧
        ((w.rewritten ask p updates.toList).publish ask p).result = .ok ()) ∧
    (∀ e, (Ending.lost e).Fits w p new outcome →
      ((w.restored ask p updates.toList).publish ask p).result = .error e) ∧
    Grows (Event.ShowsEither p.config old new) w outcome.world := by
  intro w old new outcome
  have hcoherent : Coherent fleet w := coherent_run ask outside hops
  have houtcome : outcome = _ := hcoherent.notify ask hp howns h.published updates
  obtain ⟨hend, hshown⟩ := h.reconfigure ask (hcoherent.liveCount_pos hp h.published)
  rw [← houtcome] at hend hshown
  have honce {x y : Ending} (hx : x.Fits w p new outcome) (hy : y.Fits w p new outcome) : x = y :=
    hx.unique h.new_ne_old hy
  have hadmits : (∀ u ∈ updates.toList, p.config.Admits u.1 u.2) ↔
      ∀ key value, updates[key]? = some value → p.config.Admits key value := by
    constructor
    · intro hall key value hvalue
      exact hall (key, value) (Std.ExtTreeMap.mem_toList_iff_getElem?_eq_some.2 hvalue)
    · intro hall u hu
      exact hall u.1 u.2 (Std.ExtTreeMap.mem_toList_iff_getElem?_eq_some.1 hu)
  rw [← hadmits]
  obtain ⟨hsucceeds, hchanged⟩ | ⟨hfails, hrestored | ⟨e, hlost, hrollback⟩⟩ := hend
  · refine ⟨⟨_, hchanged, fun _ hy => honce hy hchanged⟩, ⟨fun _ => hsucceeds, fun _ => hchanged⟩,
      fun e hlost => ?_, hshown⟩
    cases honce hchanged hlost
  · refine ⟨⟨_, hrestored, fun _ hy => honce hy hrestored⟩,
      ⟨fun hchanged => ?_, fun hsucceeds => ?_⟩, fun e hlost => ?_, hshown⟩
    · cases honce hrestored hchanged
    · exact absurd hsucceeds hfails
    · cases honce hrestored hlost
  · refine ⟨⟨_, hlost, fun _ hy => honce hy hlost⟩,
      ⟨fun hchanged => ?_, fun hsucceeds => ?_⟩, fun e' hlost' => ?_, hshown⟩
    · cases honce hlost hchanged
    · exact absurd hsucceeds hfails
    · cases honce hlost hlost'
      exact hrollback

/-- A server refuses a provider that comes back with another weight. -/
theorem reconfiguration_of_weight :
    let small := smallProvider 0 [smallServer 0] [] 1
    let p := { small with
      config := { small.config with attributes := (∅ : Attributes).insert "weight" "10" } }
    let fleet := Fleet.pair p (smallProvider 1 [smallServer 0] [] 1) rfl (by decide)
    let ask : Ask Nat := fun _ n => (if n = 4 then some (.runtime "refused" none) else none, n + 1)
    let updates := (∅ : Updates).insert "weight" (some "20")
    let w := run ask [.publish p] (World.start 0)
    let new := Attributes.putAll (w.config p.config).attributes updates.toList
    p ∈ fleet.members ∧ fleet.Owns p ∧ (∀ op ∈ [Operation.publish p], op.Within fleet) ∧
      Reconfigurable w p updates ∧
      ∃! ending : Ending, ending.Fits w p new (w.notify ask p.config (.updated updates)) := by
  intro small p fleet ask updates w new
  have hp : p ∈ fleet.members := List.mem_cons_self
  have howns : fleet.Owns p := by
    intro q hq hserial
    obtain rfl | rfl := List.mem_pair.1 hq
    · rfl
    · cases hserial
  have hops : ∀ op ∈ [Operation.publish p], op.Within fleet := by
    intro op hop
    obtain rfl := List.mem_singleton.1 hop
    exact hp
  have hattributes : (w.config p.config).attributes = (∅ : Attributes).insert "weight" "10" :=
    (steady_publish ask (w := World.start 0)).attributes
  have h : Reconfigurable w p updates := by
    refine ⟨rfl, by decide, ?_, ?_, ?_⟩
    · intro key k value _ _ hvalue
      rw [hattributes] at hvalue
      obtain ⟨rfl, rfl⟩ : "weight" = key ∧ "10" = value := by
        simpa [Std.ExtTreeMap.getElem?_insert] using hvalue
      rfl
    · intro key value hvalue
      obtain ⟨rfl, -⟩ : "weight" = key ∧ some "20" = value := by
        simpa [updates, Std.ExtTreeMap.getElem?_insert] using hvalue
      exact ⟨_, rfl⟩
    · refine ⟨"weight", some "20", ?_, ?_⟩
      · simp [updates]
      · rw [hattributes]
        simp
  exact ⟨hp, howns, hops, h, (reconfiguration_all_or_nothing hp howns ask 0 hops h).1⟩

end ServicePublisher
