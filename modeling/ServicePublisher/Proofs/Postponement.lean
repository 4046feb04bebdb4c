import ServicePublisher.Proofs.Delays
import ServicePublisher.Proofs.Epochs

/-! Publication with a delay against publication at once. What was scheduled for a provider is worth
a publication at the moment when it comes due, unless the provider was asked to withdraw meanwhile;
then it is worth nothing. -/
namespace ServicePublisher

open World

/-- What a provider is asked for, or what was scheduled for it and comes due, known by its position
among what was scheduled since the beginning. -/
inductive Act where
  | publish
  | withdraw
  | fire (position : Nat)

namespace Act

def operation (p : Provider) (before : Nat) : Act → Operation
  | .publish => .publish p
  | .withdraw => .withdraw p
  | .fire i => .fire (before + i)

/-- What is done instead without a delay. The list tells of each scheduled publication whether there
was no withdrawal since. -/
def instead (p : Provider) (current : List Bool) : Act → List Operation
  | .publish => []
  | .withdraw => [.withdraw p]
  | .fire i => if current[i]? = some true then [.publish p] else []

def update {σ : Type} (w : World σ) (p : Provider) (current : List Bool) : Act → List Bool
  | .publish => if w.isPublished p then current else current ++ [true]
  | .withdraw => current.map fun _ => false
  | .fire i => current.eraseIdx i

end Act

/-- The same acts without a delay: publications asked for are skipped, withdrawals are kept, and
what comes due is done at once unless there was a withdrawal since. -/
def atOnce {σ : Type} (ask : Ask σ) (p : Provider) : List Act → List Bool → World σ → List Operation
  | [], _, _ => []
  | act :: acts, current, w =>
    act.instead p current ++
      atOnce ask p acts (act.update w p current) (run ask (act.instead p current) w)

variable {σ : Type} {ask : Ask σ} {p : Provider} {n : Nat} {past : List Exchange} {w w' : World σ}
  {earlier later : List Scheduled} {current : List Bool}

theorem Alike.reschedule (h : Alike n past w w') (schedule : List Scheduled) :
    Alike n past { w with scheduled := schedule } w' :=
  ⟨h.outside, h.config, h.provider, h.servers, h.counts, h.registries, h.published, h.args,
    h.exchanges⟩

/-- What was scheduled since the beginning belongs to one provider, and of each we know whether
there was no withdrawal since. -/
structure Tracked (p : Provider) (earlier : List Scheduled) (current : List Bool) (w : World σ) :
    Prop where
  schedule : ∃ later, w.scheduled = earlier ++ later ∧
    (∀ s ∈ later, s.provider = p ∧ s.epoch ≤ (w.provider p).epoch) ∧
    current = later.map fun s => s.epoch == (w.provider p).epoch

namespace Tracked

theorem congr (h : Tracked p earlier current w) (hscheduled : w'.scheduled = w.scheduled)
    (hepoch : (w'.provider p).epoch = (w.provider p).epoch) : Tracked p earlier current w' := by
  obtain ⟨later, hlater, hown, hcurrent⟩ := h
  refine ⟨later, hscheduled.trans hlater, fun s hs => ?_, ?_⟩
  · rw [hepoch]
    exact hown s hs
  · rw [hepoch, hcurrent]

theorem enrolled (h : Tracked p earlier current w) :
    Tracked p earlier (current ++ [true]) (w.enrolled p) := by
  obtain ⟨later, hlater, hown, hcurrent⟩ := h
  refine ⟨later ++ [⟨p, (w.provider p).epoch, w.clock + p.config.delayMs⟩], ?_, fun s hs => ?_, ?_⟩
  · rw [World.enrolled, hlater, List.append_assoc]
  · obtain hs | hs := List.mem_append.1 hs
    · exact hown s hs
    · rw [List.mem_singleton.1 hs]
      exact ⟨rfl, Nat.le_refl _⟩
  · rw [hcurrent, List.map_append]
    simp [World.enrolled, World.provider]

/-- A withdrawal voids everything that was scheduled before. -/
theorem withdraw (h : Tracked p earlier current w) (ask : Ask σ) :
    Tracked p earlier (current.map fun _ => false) (w.withdraw ask p) := by
  obtain ⟨later, hlater, hown, hcurrent⟩ := h
  have hepoch := epoch_withdraw ask w p p
  rw [if_pos rfl] at hepoch
  refine ⟨later, (scheduled_withdraw ask w p).trans hlater, fun s hs => ?_, ?_⟩
  · obtain ⟨hprovider, hbegun⟩ := hown s hs
    exact ⟨hprovider, by omega⟩
  · rw [hepoch, hcurrent, List.map_map]
    refine List.map_congr_left fun s hs => ?_
    have hbegun := (hown s hs).2
    have hne : s.epoch ≠ (w.provider p).epoch + 1 := by omega
    simpa using hne

theorem unscheduled (h : Tracked p earlier current w) (i : Nat) :
    Tracked p earlier (current.eraseIdx i) (w.unscheduled (earlier.length + i)) := by
  obtain ⟨later, hlater, hown, hcurrent⟩ := h
  refine ⟨later.eraseIdx i, ?_, fun s hs => hown s (List.mem_of_mem_eraseIdx hs), ?_⟩
  · rw [World.unscheduled, hlater, List.eraseIdx_append_of_length_le (Nat.le_add_right _ _),
      Nat.add_sub_cancel_left]
  · change current.eraseIdx i = (later.eraseIdx i).map fun s => s.epoch == (w.provider p).epoch
    simp [hcurrent, List.eraseIdx_eq_take_drop_succ]

/-- Something that comes due is not void exactly if there was no withdrawal since. -/
theorem current_iff (h : Tracked p earlier current w) (i : Nat) :
    (∀ s, w.scheduled[earlier.length + i]? = some s → s.provider = p ∧
      ((w.provider s.provider).epoch = s.epoch ↔ current[i]? = some true)) ∧
    (w.scheduled[earlier.length + i]? = none → current[i]? = none) := by
  obtain ⟨later, hlater, hown, hcurrent⟩ := h
  have hat : w.scheduled[earlier.length + i]? = later[i]? := by
    rw [hlater, List.getElem?_append_right (Nat.le_add_right _ _), Nat.add_sub_cancel_left]
  rw [hat, hcurrent, List.getElem?_map]
  refine ⟨fun s hs => ?_, fun hs => by rw [hs]; rfl⟩
  obtain ⟨hprovider, -⟩ := hown s (List.mem_of_getElem? hs)
  rw [hs, hprovider]
  refine ⟨rfl, ?_⟩
  simp only [Option.map_some, Option.some.injEq, beq_iff_eq]
  exact eq_comm

end Tracked

section Steps

variable (hdelay : 0 < p.config.delayMs)
include hdelay

/-- An act of a provider with a delay goes with what is done instead without one. -/
theorem alike_act (act : Act) (h : Alike 0 past w w') (htracked : Tracked p earlier current w) :
    Alike 0 past (step ask (act.operation p earlier.length) w)
        (run (ask.forDelay p.config.delayMs) (act.instead (p.withDelay 0) current) w') ∧
      Tracked p earlier (act.update w' (p.withDelay 0) current)
        (step ask (act.operation p earlier.length) w) := by
  cases act with
  | publish =>
    have hlive : w'.isPublished (p.withDelay 0) = w.isPublished p := h.isPublished p
    change Alike 0 past (w.publish ask p).world w' ∧
      Tracked p earlier (if w'.isPublished (p.withDelay 0) then current else current ++ [true])
        (w.publish ask p).world
    rw [hlive]
    cases hpublished : w.isPublished p with
    | true =>
      have hsame : w.publish ask p = ⟨.ok (), w⟩ := by
        rw [World.publish]
        simp only [hpublished, Nat.ne_of_gt hdelay, if_true, if_false]
      rw [hsame]
      exact ⟨h, htracked⟩
    | false =>
      rw [publish_of_delay ask hdelay hpublished]
      exact ⟨(h.reschedule _).log_left _, htracked.enrolled.congr rfl rfl⟩
  | withdraw => exact ⟨h.withdraw ask p, htracked.withdraw ask⟩
  | fire i =>
    -- The list tells whether what comes due is void, so both sides publish or neither does.
    obtain ⟨hcurrent, hnone⟩ := htracked.current_iff i
    have hless := htracked.unscheduled i
    have hnow := (h.reschedule (w.unscheduled (earlier.length + i)).scheduled).publishNow ask p
    change AlikeOutcomes 0 past ((w.unscheduled (earlier.length + i)).publishNow ask p) _ at hnow
    have hpublished : Tracked p earlier (current.eraseIdx i)
        ((w.unscheduled (earlier.length + i)).publishNow ask p).world :=
      hless.congr (scheduled_publishNow _ _ _) (epoch_publishNow _ _ _ _)
    have hcourse := fire_course ask w (earlier.length + i)
    change Alike 0 past (w.fire ask (earlier.length + i)) (run (ask.forDelay p.config.delayMs)
        (if current[i]? = some true then [.publish (p.withDelay 0)] else []) w') ∧
      Tracked p earlier (current.eraseIdx i) (w.fire ask (earlier.length + i))
    generalize w.fire ask (earlier.length + i) = fired at hcourse ⊢
    cases hcourse with
    | idle hs =>
      rw [if_neg (by simp [hnone hs])]
      have hlength : current.length ≤ i := List.getElem?_eq_none_iff.1 (hnone hs)
      rw [List.eraseIdx_of_length_le hlength]
      exact ⟨h, htracked⟩
    | void hs hepoch =>
      rw [if_neg (mt (hcurrent _ hs).2.2 hepoch)]
      exact ⟨(h.reschedule _).log_left _, hless.congr rfl rfl⟩
    | published hs hepoch hresult =>
      rw [if_pos ((hcurrent _ hs).2.1 hepoch), (hcurrent _ hs).1]
      exact ⟨hnow.world, hpublished⟩
    | failed hs hepoch hresult =>
      rw [if_pos ((hcurrent _ hs).2.1 hepoch), (hcurrent _ hs).1]
      exact ⟨hnow.world.log_left _, hpublished.congr rfl rfl⟩

theorem alike_acts (acts : List Act) (h : Alike 0 past w w')
    (htracked : Tracked p earlier current w) :
    ∃ final, Tracked p earlier final (run ask (acts.map (Act.operation p earlier.length)) w) ∧
      Alike 0 past (run ask (acts.map (Act.operation p earlier.length)) w)
        (run (ask.forDelay p.config.delayMs)
          (atOnce (ask.forDelay p.config.delayMs) (p.withDelay 0) acts current w') w') := by
  induction acts generalizing w w' current with
  | nil => exact ⟨current, htracked, h⟩
  | cons act acts ih =>
    obtain ⟨halike, hnext⟩ := @alike_act σ ask p past w w' earlier current hdelay act h htracked
    rw [atOnce, run_append]
    exact ih halike hnext

end Steps

/-- A provider that is published makes no more calls until it is withdrawn, whatever was scheduled
for it. -/
theorem idle_act (ask : Ask σ) {act : Act} (hact : act ≠ .withdraw)
    (htracked : Tracked p earlier current w) (hlive : w.isPublished p = true) :
    (step ask (act.operation p earlier.length) w).exchanges = w.exchanges ∧
      (step ask (act.operation p earlier.length) w).provider p = w.provider p := by
  cases act with
  | withdraw => exact absurd rfl hact
  | publish =>
    change (w.publish ask p).world.exchanges = _ ∧ (w.publish ask p).world.provider p = _
    have hsame : w.publish ask p = ⟨.ok (), w⟩ := by
      simp [World.publish, World.publishNow, hlive]
    rw [hsame]
    exact ⟨rfl, rfl⟩
  | fire i =>
    have hcurrent := (htracked.current_iff i).1
    have hsame : (w.unscheduled (earlier.length + i)).publishNow ask p =
        ⟨.ok (), w.unscheduled (earlier.length + i)⟩ := publishNow_published ask hlive
    have hcourse := fire_course ask w (earlier.length + i)
    change (w.fire ask (earlier.length + i)).exchanges = _ ∧
      (w.fire ask (earlier.length + i)).provider p = _
    generalize w.fire ask (earlier.length + i) = fired at hcourse ⊢
    cases hcourse with
    | idle hs => exact ⟨rfl, rfl⟩
    | void hs hepoch => exact ⟨exchanges_log _ _, rfl⟩
    | published hs hepoch hresult =>
      rw [(hcurrent _ hs).1, hsame]
      exact ⟨rfl, rfl⟩
    | failed hs hepoch hresult =>
      rw [(hcurrent _ hs).1, hsame] at hresult
      cases hresult

theorem idle_acts (ask : Ask σ) (hdelay : 0 < p.config.delayMs) {acts : List Act}
    (hacts : .withdraw ∉ acts) (h : Alike 0 past w w') (htracked : Tracked p earlier current w)
    (hlive : w.isPublished p = true) :
    (run ask (acts.map (Act.operation p earlier.length)) w).exchanges = w.exchanges ∧
      (run ask (acts.map (Act.operation p earlier.length)) w).provider p = w.provider p := by
  induction acts generalizing w w' current with
  | nil => exact ⟨rfl, rfl⟩
  | cons act acts ih =>
    rw [List.mem_cons, not_or] at hacts
    obtain ⟨hcalls, hprovider⟩ := idle_act ask (Ne.symm hacts.1) htracked hlive
    obtain ⟨halike, hnext⟩ := @alike_act σ ask p past w w' earlier current hdelay act h htracked
    have hstill : (step ask (act.operation p earlier.length) w).isPublished p = true := by
      rw [isPublished, hprovider]
      exact hlive
    obtain ⟨hcalls', hprovider'⟩ := ih hacts.2 halike hnext hstill
    exact ⟨hcalls'.trans hcalls, hprovider'.trans hprovider⟩

theorem tracked_start (p : Provider) (w : World σ) : Tracked p w.scheduled [] w :=
  ⟨[], (List.append_nil _).symm, by simp, rfl⟩

/-- A provider with a delay does what the same provider does at once: skip what is asked, keep the
withdrawals, and publish when something comes due that was scheduled after the latest withdrawal,
for every order in which things come due and every pattern of answers. The calls are the same and
the books as well, up to the delay that they show. And once it is published nothing that was
scheduled makes another call, unless it is withdrawn. -/
theorem delayed_agrees_with_immediate (hdelay : 0 < p.config.delayMs) (ask : Ask σ) (w : World σ)
    (acts : List Act) :
    let after (acts : List Act) := run ask (acts.map (Act.operation p w.scheduled.length)) w
    let p₀ := p.withDelay 0
    let ask₀ := ask.forDelay p.config.delayMs
    let final₀ := run ask₀ (atOnce ask₀ p₀ acts [] w) w
    (∃ made, (after acts).exchanges = w.exchanges ++ made ∧
      final₀.exchanges = w.exchanges ++ made.map (Exchange.withDelay 0)) ∧
    (∀ q, final₀.isPublished q = (after acts).isPublished q ∧
      ((final₀.provider q).invoker.map fun v => v.withDelay 0) =
        ((after acts).provider q).invoker.map fun v => v.withDelay 0) ∧
    (∀ c, (final₀.config c).listener.map (Listener.withDelay 0) =
      ((after acts).config c).listener.map (Listener.withDelay 0)) ∧
    (∀ g, (final₀.services g).counts = ((after acts).services g).counts ∧
      ∀ m : Nat, ((final₀.services g).published[m]?.map fun q => q.withDelay 0) =
        ((after acts).services g).published[m]?.map fun q => q.withDelay 0) ∧
    (∀ before rest, acts = before ++ rest → .withdraw ∉ rest →
      (after before).isPublished p = true →
      (after acts).exchanges = (after before).exchanges ∧
        (after acts).provider p = (after before).provider p) := by
  intro after p₀ ask₀ final₀
  have hrun (acts : List Act) : ∃ current, Tracked p w.scheduled current (after acts) ∧
      Alike 0 w.exchanges (after acts) (run ask₀ (atOnce ask₀ p₀ acts [] w) w) :=
    alike_acts hdelay acts (alike_refl 0 w) (tracked_start p w)
  obtain ⟨-, -, h⟩ := hrun acts
  refine ⟨h.exchanges, fun q => ⟨h.isPublished q, ?_⟩, fun c => ?_, fun g => ⟨h.counts g,
    h.published g⟩, fun before rest hacts hrest hlive => ?_⟩
  · have hsame := congrArg ProviderState.invoker (h.provider q)
    exact hsame
  · have hsame := congrArg ConfigState.listener (h.config c)
    exact hsame
  · obtain ⟨current, htracked, halike⟩ := hrun before
    have hidle := idle_acts ask hdelay hrest halike htracked hlive
    have hsplit : after acts =
        run ask (rest.map (Act.operation p w.scheduled.length)) (after before) := by
      simp only [after, hacts, List.map_append, run_append]
    rw [hsplit]
    exact hidle

/-- A server refuses a provider once. It is asked for three times; the first of these that comes due
fails, the second succeeds, the third finds it published, and two more are void. -/
theorem delayed_agrees_on_retry :
    let small := smallProvider 0 [smallServer 0] [] 1
    let p := { small with config := { small.config with delayMs := 5 } }
    let ask : Ask Nat := fun _ n => (if n = 1 then some (.runtime "refused" none) else none, n + 1)
    let acts : List Act := [.publish, .publish, .publish, .fire 2, .fire 0, .fire 0, .withdraw,
      .publish, .publish, .withdraw, .fire 1, .fire 0]
    let w := World.start 0
    let final := run ask (acts.map (Act.operation p w.scheduled.length)) w
    let ask₀ := ask.forDelay p.config.delayMs
    let final₀ := run ask₀ (atOnce ask₀ (p.withDelay 0) acts [] w) w
    0 < p.config.delayMs ∧ (atOnce ask₀ (p.withDelay 0) acts [] w).length = 5 ∧
      final.exchanges.length = 5 ∧
      ∃ made, final.exchanges = w.exchanges ++ made ∧
        final₀.exchanges = w.exchanges ++ made.map (Exchange.withDelay 0) := by
  intro small p ask acts w final ask₀ final₀
  exact ⟨by decide, by decide +kernel, by decide +kernel,
    (delayed_agrees_with_immediate (by decide) ask w acts).1⟩

end ServicePublisher
