import ServicePublisher.Proofs.Epochs
import ServicePublisher.Proofs.Rollback

/-! Changes of providers with a delay. Such a provider is withdrawn, given the new values, and only
scheduled to be published again; the change has succeeded by then. What happens when the publication
comes due is no part of the change any more, so its failure takes nothing back. -/
namespace ServicePublisher

open World ProviderConfig

namespace ProviderConfig

def AdmitsAll (c : ProviderConfig) (updates : Updates) : Prop :=
  ∀ (key : String) value, updates[key]? = some value → c.Admits key value

theorem AdmitsAll.toList {c : ProviderConfig} {updates : Updates} (h : c.AdmitsAll updates) :
    ∀ u ∈ updates.toList, c.Admits u.1 u.2 :=
  fun u hu => h u.1 u.2 (Std.ExtTreeMap.mem_toList_iff_getElem?_eq_some.1 hu)

theorem putAll_of_stale_eq_nil {a : Attributes} {updates : Updates}
    (h : Attributes.stale a updates.toList = []) : Attributes.putAll a updates.toList = a := by
  apply Std.ExtTreeMap.ext_getElem?
  intro key
  rw [getElem?_putAll_toList]
  cases hvalue : updates[key]? with
  | none => rfl
  | some value =>
    have hmem := Std.ExtTreeMap.mem_toList_iff_getElem?_eq_some.2 hvalue
    have hsame := List.filter_eq_nil_iff.1 (List.map_eq_nil_iff.1 h) _ hmem
    simpa using Eq.symm (by simpa using hsame)

theorem putAll_ne {a : Attributes} {updates : Updates} {key : String} {value : Option String}
    (hvalue : updates[key]? = some value) (hdiffers : a[key]? ≠ value) :
    Attributes.putAll a updates.toList ≠ a := by
  intro hsame
  have hnew := getElem?_putAll_toList a updates key
  rw [hsame, hvalue, Option.getD_some] at hnew
  exact hdiffers hnew

end ProviderConfig

variable {σ : Type} {ask : Ask σ} {fleet : Fleet} {w w' : World σ} {p : Provider} {a : Attributes}

theorem ProviderConfig.AdmitsAll.accepted {updates : Updates} (h : p.config.AdmitsAll updates) :
    ∀ u ∈ updates.toList, ∃ old, w.queryAttribute p.config u.1 = .ok old := by
  intro u hu
  obtain ⟨k, hk, -⟩ := h.toList u hu
  exact ⟨_, by rw [queryAttribute, query, hk]; rfl⟩

theorem scheduled_updateAll (c : ProviderConfig) (updates : List (String × Option String))
    (w : World σ) : (updateAll c updates w).world.scheduled = w.scheduled := by
  induction updates generalizing w with
  | nil => rfl
  | cons u rest ih =>
    have hfirst : (w.updateAttribute c u.1 u.2 true).world.scheduled = w.scheduled := by
      rw [updateAttribute]
      split <;> rfl
    rw [updateAll]
    generalize w.updateAttribute c u.1 u.2 true = outcome at hfirst ⊢
    obtain ⟨result, w₁⟩ := outcome
    cases result with
    | error e => exact hfirst
    | ok touched => exact (ih w₁).trans hfirst

section Steps

/-- A provider is to be published with its present attributes, by one scheduled publication. -/
structure Awaiting (p : Provider) (a : Attributes) (w : World σ) : Prop where
  unpublished : w.isPublished p = false
  once : w.pending p = 1
  attributes : (w.config p.config).attributes = a

/-- A provider with these attributes is published, or nothing scheduled will publish it. -/
structure Decided (p : Provider) (a : Attributes) (w : World σ) : Prop where
  idle : w.isPublished p = false → w.pending p = 0
  attributes : (w.config p.config).attributes = a

theorem Awaiting.undisturbed (h : Awaiting p a w) (hsame : Undisturbed p w w') :
    Awaiting p a w' where
  unpublished := by rw [hsame.isPublished, h.unpublished]
  once := by rw [hsame.pending, h.once]
  attributes := by rw [hsame.attributes, h.attributes]

theorem attributes_fire {i : Nat} (ask : Ask σ)
    (hbooks : SameBooks ((w.unscheduled i).publishNow ask p).world (w.fire ask i)) :
    ((w.fire ask i).config p.config).attributes = (w.config p.config).attributes := by
  rw [hbooks.config, (steady_publishNow ask (w.unscheduled i) p).attributes]
  rfl

theorem pending_fire {i : Nat} (ask : Ask σ)
    (hbooks : SameBooks ((w.unscheduled i).publishNow ask p).world (w.fire ask i)) :
    (w.fire ask i).pending p = (w.unscheduled i).pending p := by
  have hepoch := epoch_publishNow ask (w.unscheduled i) p p
  have hscheduled := scheduled_publishNow ask (w.unscheduled i) p
  rw [pending_congr (hbooks.provider p) hbooks.scheduled, pending, pending, hscheduled]
  congr 1
  funext s
  rw [isPending, isPending, hepoch]

theorem isPublished_fire {i : Nat} (ask : Ask σ)
    (hbooks : SameBooks ((w.unscheduled i).publishNow ask p).world (w.fire ask i)) :
    (w.fire ask i).isPublished p = true ↔ ((w.unscheduled i).publishNow ask p).result = .ok () := by
  rw [hbooks.isPublished, isPublished_publishNow]

section Firing

variable (hp : p ∈ fleet.members) (hclosed : Closed fleet w)
include hp hclosed

/-- When the publication comes due it decides. -/
theorem Awaiting.fire (h : Awaiting p a w) {i : Nat} {s : Scheduled}
    (hs : w.scheduled[i]? = some s) (hpending : w.isPending p s = true) :
    Decided p a (w.fire ask i) := by
  obtain ⟨hbooks, hless⟩ := @fire_of_isPending σ fleet w p hp hclosed ask i s hs hpending
  rw [h.once] at hless
  refine ⟨fun _ => ?_, ?_⟩
  · rw [pending_fire ask hbooks]
    omega
  · rw [attributes_fire ask hbooks, h.attributes]

/-- Whatever comes due later does not change the decision. -/
theorem Decided.fire (h : Decided p a w) (howns : fleet.Owns p) (i : Nat) :
    Decided p a (w.fire ask i) ∧ (w.fire ask i).isPublished p = w.isPublished p := by
  by_cases hdue : ∃ s, w.scheduled[i]? = some s ∧ w.isPending p s = true
  · obtain ⟨s, hs, hpending⟩ := hdue
    obtain ⟨hbooks, hless⟩ := @fire_of_isPending σ fleet w p hp hclosed ask i s hs hpending
    have hlive : w.isPublished p = true := by
      by_contra hdead
      have hidle := h.idle (eq_false_of_ne_true hdead)
      omega
    have hpublished := (isPublished_fire ask hbooks).2
      (by rw [publishNow_published ask (w := w.unscheduled i) hlive])
    refine ⟨⟨fun hdead => ?_, ?_⟩, hpublished.trans hlive.symm⟩
    · rw [hpublished] at hdead
      cases hdead
    · rw [attributes_fire ask hbooks, h.attributes]
  · have hsame := undisturbed_fire hp hclosed howns ask fun s hs =>
      eq_false_of_ne_true fun hpending => hdue ⟨s, hs, hpending⟩
    refine ⟨⟨fun hdead => ?_, ?_⟩, hsame.isPublished⟩
    · rw [hsame.pending, h.idle (by rw [← hsame.isPublished, hdead])]
    · rw [hsame.attributes, h.attributes]

end Firing

theorem Decided.run (hp : p ∈ fleet.members) (howns : fleet.Owns p) (htimely : Timely fleet w)
    (h : Decided p a w) (fires : List Nat) :
    Decided p a (run ask (fires.map .fire) w) ∧
      (run ask (fires.map .fire) w).isPublished p = w.isPublished p := by
  induction fires generalizing w with
  | nil => exact ⟨h, rfl⟩
  | cons i rest ih =>
    obtain ⟨hdecided, hlive⟩ := @Decided.fire σ ask fleet w p a hp htimely.toClosed h howns i
    obtain ⟨hend, hsame⟩ := ih (htimely.after ask (.fire i) trivial) hdecided
    exact ⟨hend, hsame.trans hlive⟩

theorem Awaiting.run (hp : p ∈ fleet.members) (howns : fleet.Owns p) (htimely : Timely fleet w)
    (h : Awaiting p a w) {fires : List Nat}
    (hidle : (run ask (fires.map .fire) w).pending p = 0) :
    ∃ before i after, fires = before ++ i :: after ∧
      let v := run ask (before.map .fire) w
      Awaiting p a v ∧ (∃ s, v.scheduled[i]? = some s ∧ v.isPending p s = true) ∧
        ((run ask (fires.map .fire) w).isPublished p = true ↔
          ((v.unscheduled i).publishNow ask p).result = .ok ()) ∧
        ((run ask (fires.map .fire) w).config p.config).attributes = a := by
  induction fires generalizing w with
  | nil =>
    have hone := h.once
    change w.pending p = 0 at hidle
    omega
  | cons i rest ih =>
    have hnext : Timely fleet (w.fire ask i) := htimely.after ask (.fire i) trivial
    by_cases hdue : ∃ s, w.scheduled[i]? = some s ∧ w.isPending p s = true
    · obtain ⟨s, hs, hpending⟩ := hdue
      obtain ⟨hbooks, -⟩ := @fire_of_isPending σ fleet w p hp htimely.toClosed ask i s hs hpending
      have hdecided := @Awaiting.fire σ ask fleet w p a hp htimely.toClosed h i s hs hpending
      obtain ⟨hend, hsame⟩ :=
        @Decided.run σ ask fleet (w.fire ask i) p a hp howns hnext hdecided rest
      refine ⟨[], i, rest, rfl, h, ⟨s, hs, hpending⟩, ?_, hend.attributes⟩
      change _ ↔ ((w.unscheduled i).publishNow ask p).result = .ok ()
      rw [← isPublished_fire ask hbooks, ← hsame]
      rfl
    · have hsame := undisturbed_fire hp htimely.toClosed howns ask fun s hs =>
        eq_false_of_ne_true fun hpending => hdue ⟨s, hs, hpending⟩
      obtain ⟨before, j, after, rfl, hrest⟩ := ih hnext (h.undisturbed hsame) hidle
      exact ⟨i :: before, j, after, rfl, hrest⟩

/-- A change that a provider with a delay hears of has succeeded once it is scheduled. -/
theorem Timely.deferred (h : Timely fleet w) (hp : p ∈ fleet.members) (howns : fleet.Owns p)
    (ask : Ask σ) (hdelay : 0 < p.config.delayMs) (hpublished : w.isPublished p = true)
    {updates : Updates} (hadmits : p.config.AdmitsAll updates)
    (hstale : Attributes.stale (w.config p.config).attributes updates.toList ≠ []) :
    (w.notify ask p.config (.updated updates)).result = .ok () ∧
      Awaiting p (Attributes.putAll (w.config p.config).attributes updates.toList)
        (w.notify ask p.config (.updated updates)).world := by
  rw [h.notify ask hp howns hpublished updates,
    reconfigure_of_stale ask (staleValues_of_accepted hadmits.accepted) hstale]
  have hcourse := republish_course ask (w.report p.config .republishing) p updates.toList
  generalize hfirst : (w.report p.config .republishing).republish ask p updates.toList = first
    at hcourse ⊢
  cases hcourse with
  | refused hbad hwritten hwrote => exact absurd hadmits.toList hbad
  | @rewritten hgood w₁ hrewritten hwrote =>
    have hbooked := @rebooked_withdraw σ ask (w.report p.config .republishing) p hpublished
    have hprovider : w₁.provider p =
        { w.provider p with
          invoker := none, epoch := (w.provider p).epoch + 1, published := false } := by
      rw [World.provider, hwrote.providers]
      exact hbooked.provider_self
    have hscheduled : w₁.scheduled = w.scheduled := by
      rw [← hrewritten, scheduled_updateAll, hbooked.scheduled]
      rfl
    have hdead : w₁.isPublished p = false := by rw [isPublished, hprovider]
    -- What was scheduled before belongs to an earlier epoch.
    have hold : w₁.pending p = 0 := by
      refine List.countP_eq_zero.2 fun s hs hpending => ?_
      rw [hscheduled] at hs
      have hbegun := h.epoch s hs
      simp only [isPending, hprovider, Bool.and_eq_true, beq_iff_eq] at hpending
      rw [World.provider, hpending.1, ← World.provider] at hbegun
      omega
    rw [publish_of_delay ask hdelay hdead]
    refine ⟨rfl, hdead, ?_, hwrote.attributes⟩
    change (w₁.enrolled p).pending p = 1
    rw [pending_enrolled, hold]

end Steps

/-- A change that a provider with a delay hears of is never taken back, whatever the collaborators
answer: it has succeeded at once, the new values stay, and the one publication that was scheduled
decides alone, when it comes due, whether the provider is published. -/
theorem deferred_change_stays {fleet : Fleet} {p : Provider} (hp : p ∈ fleet.members)
    (howns : fleet.Owns p) (hdelay : 0 < p.config.delayMs) (ask : Ask σ) (outside : σ)
    {ops : List Operation} (hops : ∀ op ∈ ops, op.Within fleet)
    (hpublished : (run ask ops (World.start outside)).isPublished p = true) {updates : Updates}
    (hadmits : p.config.AdmitsAll updates) {key : String} {value : Option String}
    (hvalue : updates[key]? = some value)
    (hdiffers : ((run ask ops (World.start outside)).config p.config).attributes[key]? ≠ value)
    (ask' : Ask σ) {fires : List Nat} :
    let w := run ask ops (World.start outside)
    let old := (w.config p.config).attributes
    let new := Attributes.putAll old updates.toList
    let told := w.notify ask' p.config (.updated updates)
    let final := run ask' (fires.map .fire) told.world
    told.result = .ok () ∧ new ≠ old ∧
    ((∀ s ∈ final.scheduled, s.provider ≠ p) →
      (final.config p.config).attributes = new ∧
      ∃ before i after, fires = before ++ i :: after ∧
        let v := run ask' (before.map .fire) told.world
        v.isPublished p = false ∧ (v.config p.config).attributes = new ∧
        (∃ s, v.scheduled[i]? = some s ∧ s.provider = p ∧ s.epoch = (v.provider p).epoch) ∧
        (final.isPublished p = true ↔
          ((v.unscheduled i).publishNow ask' p).result = .ok ())) := by
  intro w old new told final
  have htimely : Timely fleet w := timely_run ask outside hops
  have hstale : Attributes.stale old updates.toList ≠ [] :=
    stale_ne_nil old (Std.ExtTreeMap.mem_toList_iff_getElem?_eq_some.2 hvalue) hdiffers
  obtain ⟨hok, hawaiting⟩ := htimely.deferred hp howns ask' hdelay hpublished hadmits hstale
  have htold : Timely fleet told.world :=
    htimely.after ask' (.notify p.config (.updated updates)) trivial
  refine ⟨hok, putAll_ne hvalue hdiffers, fun hdue => ?_⟩
  have hfinal : Timely fleet final :=
    htold.afterAll ask' fun op hop => by obtain ⟨i, -, rfl⟩ := List.mem_map.1 hop; trivial
  have hidle : final.pending p = 0 := by
    refine pending_eq_zero fun s hs hnumber => hdue s hs ?_
    exact fleet.eq_of_number (hfinal.scheduled s hs) hp hnumber
  obtain ⟨before, i, after, hfires, hbefore, ⟨s, hs, hpending⟩, hlive, hend⟩ :=
    @Awaiting.run σ ask' fleet told.world p new hp howns htold hawaiting fires hidle
  refine ⟨hend, before, i, after, hfires, hbefore.unpublished, hbefore.attributes, ⟨s, hs, ?_⟩,
    hlive⟩
  have hv : Timely fleet (run ask' (before.map .fire) told.world) :=
    htold.afterAll ask' fun op hop => by obtain ⟨i, -, rfl⟩ := List.mem_map.1 hop; trivial
  obtain ⟨hown, hepoch⟩ := provider_of_isPending hp hv.toClosed hs hpending
  rw [hown] at hepoch
  exact ⟨hown, hepoch.symm⟩

/-- A provider with a delay hears of a new tag, and its one server refuses that: the tag stays. -/
theorem deferred_change_of_tag :
    let small := smallProvider 0 [smallServer 0] [] 1
    let p := { small with config := { small.config with delayMs := 5 } }
    let fleet := Fleet.pair p (smallProvider 1 [smallServer 0] [] 1) rfl (by decide)
    let ask : Ask Nat := fun _ n => (if n = 4 then some (.runtime "refused" none) else none, n + 1)
    let ops : List Operation := [.publish p, .fire 0]
    let updates := (∅ : Updates).insert "tags" (some "green")
    let w := run ask ops (World.start 0)
    let told := w.notify ask p.config (.updated updates)
    let final := run ask ([0].map .fire) told.world
    p ∈ fleet.members ∧ fleet.Owns p ∧ 0 < p.config.delayMs ∧ (∀ op ∈ ops, op.Within fleet) ∧
      w.isPublished p = true ∧ p.config.AdmitsAll updates ∧
      updates["tags"]? = some (some "green") ∧
      (w.config p.config).attributes["tags"]? ≠ some "green" ∧
      (∀ s ∈ final.scheduled, s.provider ≠ p) ∧ final.isPublished p = false ∧
      (final.config p.config).attributes =
        Attributes.putAll (w.config p.config).attributes updates.toList := by
  intro small p fleet ask ops updates w told final
  have hp : p ∈ fleet.members := List.mem_cons_self
  have howns : fleet.Owns p :=
    Fleet.owns_pair p (smallProvider 1 [smallServer 0] [] 1) rfl (by decide) (by decide) hp
  have hops : ∀ op ∈ ops, op.Within fleet := by
    simp [ops, Operation.Within, hp]
  have hpublished : w.isPublished p = true := by decide +kernel
  have hadmits : p.config.AdmitsAll updates := by
    intro key value hvalue
    obtain ⟨rfl, -⟩ : "tags" = key ∧ some "green" = value := by
      simpa [updates, Std.ExtTreeMap.getElem?_insert] using hvalue
    exact ⟨.plain "tags", rfl, fun hnumeric => by cases hnumeric⟩
  have hvalue : updates["tags"]? = some (some "green") := by simp [updates]
  have hdiffers : (w.config p.config).attributes["tags"]? ≠ some "green" := by decide +kernel
  have hdue : ∀ s ∈ final.scheduled, s.provider ≠ p := by
    have hnone : final.scheduled.length = 0 := by decide +kernel
    simp [List.length_eq_zero_iff.1 hnone]
  have hstays := (@deferred_change_stays Nat fleet p hp howns (by decide) ask 0 ops hops hpublished
    updates hadmits "tags" _ hvalue hdiffers ask [0]).2.2 hdue
  exact ⟨hp, howns, by decide, hops, hpublished, hadmits, hvalue, hdiffers, hdue,
    by decide +kernel, hstays.1⟩

/-- A server refuses a provider with a green tag. One that is blue and has no delay stays blue when
it is told to be green; one with a delay is not published any more and green, although it could be
published in blue. -/
theorem deferred_change_not_taken_back :
    let small := smallProvider 0 [smallServer 0] [] 1
    let prompt := { small with
      config := { small.config with attributes := (∅ : Attributes).insert "tags" "blue" } }
    let p := { prompt with config := { prompt.config with delayMs := 5 } }
    let ask : Ask Unit := fun c outside =>
      (if c.view?.any (·.attributes["tags"]? == some "green") then some (.runtime "refused" none)
        else none, outside)
    let updates := (∅ : Updates).insert "tags" (some "green")
    let w := run ask [.publish p, .fire 0] (World.start ())
    let told := w.notify ask p.config (.updated updates)
    let final := told.world.fire ask 0
    let told' := (run ask [.publish prompt] (World.start ())).notify ask prompt.config
      (.updated updates)
    w.isPublished p = true ∧ told.result.isOk = true ∧ final.scheduled.length = 0 ∧
      final.isPublished p = false ∧
      (final.config p.config).attributes["tags"]? = some "green" ∧
      (run ask [.update p.config "tags" (some "blue") true, .publish p, .fire 0] final).isPublished
        p = true ∧
      told'.result.isOk = true ∧ told'.world.isPublished prompt = true ∧
      (told'.world.config prompt.config).attributes["tags"]? = some "blue" := by
  decide +kernel

end ServicePublisher
