import ServicePublisher.Proofs.Accepting
import ServicePublisher.Proofs.Deferral

/-! What a provider with a delay hears. From a change to the next publication of it that succeeds it
is not published and listens to nothing, and whoever tells it something in between is not told
so. -/
namespace ServicePublisher

open World ProviderConfig

/-- Something that a provider is told, or what is scheduled at a position comes due. -/
inductive Turn where
  | tell (updates : Updates)
  | fire (position : Nat)

namespace Turn

def operation (p : Provider) : Turn → Operation
  | .tell updates => .notify p.config (.updated updates)
  | .fire i => .fire i

def Admitted (c : ProviderConfig) : Turn → Prop
  | .tell updates => c.AdmitsAll updates
  | .fire _ => True

/-- A provider hears what it is told while it is published. -/
def heard {σ : Type} (w : World σ) (p : Provider) : Turn → List Updates
  | .tell updates => if w.isPublished p then [updates] else []
  | .fire _ => []

/-- A publication of the provider comes due that is not void, and succeeds. -/
def Republishes {σ : Type} (ask : Ask σ) (w : World σ) (p : Provider) : Turn → Prop
  | .tell _ => False
  | .fire i => (∃ s, w.scheduled[i]? = some s ∧ w.isPending p s = true) ∧
      ((w.unscheduled i).publishNow ask p).result = .ok ()

theorem within_operation {fleet : Fleet} {p : Provider} (turns : List Turn) :
    ∀ op ∈ turns.map (operation p), op.Within fleet := by
  intro op hop
  obtain ⟨turn, -, rfl⟩ := List.mem_map.1 hop
  cases turn <;> trivial

end Turn

def heard {σ : Type} (ask : Ask σ) (p : Provider) : List Turn → World σ → List Updates
  | [], _ => []
  | turn :: turns, w => turn.heard w p ++ heard ask p turns (step ask (turn.operation p) w)

def ProviderConfig.Attributes.applyAll (a : Attributes) (told : List Updates) : Attributes :=
  told.foldl (fun a updates => Attributes.putAll a updates.toList) a

theorem ProviderConfig.Attributes.applyAll_append (a : Attributes) (told told' : List Updates) :
    Attributes.applyAll a (told ++ told') =
      Attributes.applyAll (Attributes.applyAll a told) told' :=
  List.foldl_append

variable {σ : Type} {ask : Ask σ} {fleet : Fleet} {w w' : World σ} {p : Provider}
  {a : Attributes}

/-- A provider with these attributes is not published, and nobody listens to its configuration. -/
structure Silent (p : Provider) (a : Attributes) (w : World σ) : Prop where
  unpublished : w.isPublished p = false
  slot : (w.config p.config).listener = none
  attributes : (w.config p.config).attributes = a

section Steps

theorem notify_of_deaf (ask : Ask σ) (hslot : (w.config p.config).listener = none)
    (change : Change) : w.notify ask p.config change = ⟨.ok (), w⟩ := by
  unfold World.notify
  rw [hslot]

variable (h : Timely fleet w) (hp : p ∈ fleet.members) (howns : fleet.Owns p)
include h hp howns

theorem Timely.listener_eq_none_iff :
    (w.config p.config).listener = none ↔ w.isPublished p = false := by
  rw [listener_config, h.listener p hp howns]
  cases w.isPublished p <;> simp

theorem Timely.told_unpublished (ask : Ask σ) (hpublished : w.isPublished p = false)
    (change : Change) : w.notify ask p.config change = ⟨.ok (), w⟩ :=
  notify_of_deaf ask ((h.listener_eq_none_iff hp howns).2 hpublished) change

theorem Timely.told_published (ask : Ask σ) (hdelay : 0 < p.config.delayMs)
    (hpublished : w.isPublished p = true) {updates : Updates}
    (hadmits : p.config.AdmitsAll updates) :
    (w.notify ask p.config (.updated updates)).result = .ok () ∧
      ((w.notify ask p.config (.updated updates)).world.config p.config).attributes =
        Attributes.putAll (w.config p.config).attributes updates.toList ∧
      ((w.notify ask p.config (.updated updates)).world.isPublished p = false →
        0 < (w.notify ask p.config (.updated updates)).world.pending p) := by
  by_cases hstale : Attributes.stale (w.config p.config).attributes updates.toList = []
  · have hquiet : w.notify ask p.config (.updated updates) = ⟨.ok (), w⟩ := by
      rw [h.notify ask hp howns hpublished, World.reconfigure,
        staleValues_of_accepted hadmits.accepted, hstale]
    rw [hquiet, putAll_of_stale_eq_nil hstale]
    exact ⟨rfl, rfl, fun hdead => by simp [hpublished] at hdead⟩
  · obtain ⟨hok, hawaiting⟩ := h.deferred hp howns ask hdelay hpublished hadmits hstale
    have honce := hawaiting.once
    exact ⟨hok, hawaiting.attributes, fun _ => by omega⟩

theorem Timely.result_tell (ask : Ask σ) (hdelay : 0 < p.config.delayMs) {updates : Updates}
    (hadmits : p.config.AdmitsAll updates) :
    (w.notify ask p.config (.updated updates)).result = .ok () := by
  cases hpublished : w.isPublished p with
  | false => rw [h.told_unpublished hp howns ask hpublished]
  | true => exact (h.told_published hp howns ask hdelay hpublished hadmits).1

theorem Timely.attributes_turn (ask : Ask σ) (hdelay : 0 < p.config.delayMs) {turn : Turn}
    (hadmits : turn.Admitted p.config) :
    ((step ask (turn.operation p) w).config p.config).attributes =
      Attributes.applyAll (w.config p.config).attributes (turn.heard w p) := by
  cases turn with
  | tell updates =>
    change ((w.notify ask p.config (.updated updates)).world.config p.config).attributes = _
    cases hpublished : w.isPublished p with
    | false =>
      rw [h.told_unpublished hp howns ask hpublished, Turn.heard, hpublished]
      rfl
    | true =>
      rw [(h.told_published hp howns ask hdelay hpublished hadmits).2.1, Turn.heard, hpublished]
      rfl
  | fire i =>
    change ((w.fire ask i).config p.config).attributes = (w.config p.config).attributes
    by_cases hdue : ∃ s, w.scheduled[i]? = some s ∧ w.isPending p s = true
    · obtain ⟨s, hs, hpending⟩ := hdue
      exact attributes_fire ask (fire_of_isPending hp h.toClosed ask hs hpending).1
    · have hsame := undisturbed_fire hp h.toClosed howns ask fun s hs =>
        eq_false_of_ne_true fun hpending => hdue ⟨s, hs, hpending⟩
      exact hsame.attributes

/-- A provider that is not published is so again after a turn exactly if the turn publishes it. -/
theorem Timely.isPublished_turn_iff (ask : Ask σ) (hpublished : w.isPublished p = false)
    (turn : Turn) : (step ask (turn.operation p) w).isPublished p = true ↔
      turn.Republishes ask w p := by
  cases turn with
  | tell updates =>
    change (w.notify ask p.config (.updated updates)).world.isPublished p = true ↔ False
    rw [h.told_unpublished hp howns ask hpublished]
    simp [hpublished]
  | fire i =>
    change (w.fire ask i).isPublished p = true ↔ _
    by_cases hdue : ∃ s, w.scheduled[i]? = some s ∧ w.isPending p s = true
    · obtain ⟨s, hs, hpending⟩ := hdue
      rw [isPublished_fire ask (fire_of_isPending hp h.toClosed ask hs hpending).1]
      exact ⟨fun hok => ⟨⟨s, hs, hpending⟩, hok⟩, fun hok => hok.2⟩
    · have hsame := undisturbed_fire hp h.toClosed howns ask fun s hs =>
        eq_false_of_ne_true fun hpending => hdue ⟨s, hs, hpending⟩
      rw [hsame.isPublished, hpublished]
      exact ⟨nofun, fun hok => absurd hok.1 hdue⟩

/-- What it is told meanwhile leaves no trace, nor does a publication that fails. -/
theorem Silent.turn (hsilent : Silent p a w) (ask : Ask σ) (hdelay : 0 < p.config.delayMs)
    {turn : Turn} (hadmits : turn.Admitted p.config) (hnot : ¬turn.Republishes ask w p) :
    Silent p a (step ask (turn.operation p) w) := by
  have hnext : Timely fleet (step ask (turn.operation p) w) :=
    h.after ask _ (Turn.within_operation [turn] _ List.mem_cons_self)
  have hdead : (step ask (turn.operation p) w).isPublished p = false :=
    eq_false_of_ne_true (mt (h.isPublished_turn_iff hp howns ask hsilent.unpublished turn).1 hnot)
  have hunheard : turn.heard w p = [] := by
    cases turn with
    | tell updates => rw [Turn.heard, hsilent.unpublished]; rfl
    | fire i => rfl
  refine ⟨hdead, (hnext.listener_eq_none_iff hp howns).2 hdead, ?_⟩
  rw [h.attributes_turn hp howns ask hdelay hadmits, hunheard, hsilent.attributes]
  rfl

/-- A change silences a provider, and one publication of it is scheduled then that is not void. -/
theorem Timely.silenced (ask : Ask σ) (hdelay : 0 < p.config.delayMs)
    (hpublished : w.isPublished p = true) {updates : Updates}
    (hadmits : p.config.AdmitsAll updates)
    (hstale : Attributes.stale (w.config p.config).attributes updates.toList ≠ []) :
    let w' := step ask ((Turn.tell updates).operation p) w
    Silent p (Attributes.putAll (w.config p.config).attributes updates.toList) w' ∧
      w'.pending p = 1 := by
  intro w'
  have hawaiting := (h.deferred hp howns ask hdelay hpublished hadmits hstale).2
  have hnext : Timely fleet w' := h.after ask _ trivial
  exact ⟨⟨hawaiting.unpublished, (hnext.listener_eq_none_iff hp howns).2 hawaiting.unpublished,
    hawaiting.attributes⟩, hawaiting.once⟩

/-- A provider that is not published stays due until a publication of it succeeds. -/
theorem Timely.due_turn (hdelay : 0 < p.config.delayMs) {turn : Turn}
    (hadmits : turn.Admitted p.config) (haccepts : ask.Accepts) (hcheck : p.config.check = .ok ())
    (hroom : ∀ i s, turn = .fire i → w.scheduled[i]? = some s → w.isPending p s = true →
      w.isPublished p = false → w.HasRoom p)
    (hdue : w.isPublished p = false → 0 < w.pending p) :
    (step ask (turn.operation p) w).isPublished p = false →
      0 < (step ask (turn.operation p) w).pending p := by
  cases turn with
  | tell updates =>
    change (w.notify ask p.config (.updated updates)).world.isPublished p = false →
      0 < (w.notify ask p.config (.updated updates)).world.pending p
    cases hpublished : w.isPublished p with
    | false =>
      rw [h.told_unpublished hp howns ask hpublished]
      exact fun _ => hdue hpublished
    | true => exact (h.told_published hp howns ask hdelay hpublished hadmits).2.2
  | fire i =>
    intro hdead
    change (w.fire ask i).isPublished p = false at hdead
    change 0 < (w.fire ask i).pending p
    by_cases hcurrent : ∃ s, w.scheduled[i]? = some s ∧ w.isPending p s = true
    · -- The publication that comes due cannot fail.
      obtain ⟨s, hs, hpending⟩ := hcurrent
      have hbooks := (fire_of_isPending hp h.toClosed ask hs hpending).1
      have hok : ((w.unscheduled i).publishNow ask p).result = .ok () := by
        cases hpublished : w.isPublished p with
        | false =>
          exact (@publishNow_of_room σ ask (w.unscheduled i) p haccepts hpublished hcheck
            (hroom i s rfl hs hpending hpublished)).1
        | true =>
          rw [publishNow_published ask (w := w.unscheduled i) hpublished]
      rw [(isPublished_fire ask hbooks).2 hok] at hdead
      cases hdead
    · have hsame := undisturbed_fire hp h.toClosed howns ask fun s hs =>
        eq_false_of_ne_true fun hpending => hcurrent ⟨s, hs, hpending⟩
      rw [hsame.pending]
      exact hdue (by rw [← hsame.isPublished, hdead])

end Steps

section Runs

variable (hp : p ∈ fleet.members) (howns : fleet.Owns p) (hdelay : 0 < p.config.delayMs)
include hp howns hdelay

theorem attributes_turns (h : Timely fleet w) {turns : List Turn}
    (hadmits : ∀ turn ∈ turns, turn.Admitted p.config) :
    ((run ask (turns.map (Turn.operation p)) w).config p.config).attributes =
      Attributes.applyAll (w.config p.config).attributes (heard ask p turns w) := by
  induction turns generalizing w with
  | nil => rfl
  | cons turn turns ih =>
    obtain ⟨hfirst, hrest⟩ := List.forall_mem_cons.1 hadmits
    have hnext : Timely fleet (step ask (turn.operation p) w) :=
      h.after ask _ (Turn.within_operation [turn] _ List.mem_cons_self)
    have hstep := h.attributes_turn hp howns ask hdelay hfirst
    rw [heard, Attributes.applyAll_append, ← hstep]
    exact ih hnext hrest

theorem silent_turns (h : Timely fleet w) (hsilent : Silent p a w) {turns : List Turn}
    (hadmits : ∀ turn ∈ turns, turn.Admitted p.config)
    (hnot : ∀ early turn late, turns = early ++ turn :: late →
      ¬turn.Republishes ask (run ask (early.map (Turn.operation p)) w) p) :
    Silent p a (run ask (turns.map (Turn.operation p)) w) := by
  induction turns generalizing w with
  | nil => exact hsilent
  | cons turn turns ih =>
    obtain ⟨hfirst, hrest⟩ := List.forall_mem_cons.1 hadmits
    have hnext : Timely fleet (step ask (turn.operation p) w) :=
      h.after ask _ (Turn.within_operation [turn] _ List.mem_cons_self)
    refine ih hnext (hsilent.turn h hp howns ask hdelay hfirst (hnot [] turn turns rfl)) hrest ?_
    exact fun early later late hturns => hnot (turn :: early) later late (by rw [hturns]; rfl)

theorem silent_since_change (h : Timely fleet w) (hpublished : w.isPublished p = true)
    {updates : Updates} {turns : List Turn}
    (hadmits : ∀ turn ∈ .tell updates :: turns, turn.Admitted p.config)
    (hstale : Attributes.stale (w.config p.config).attributes updates.toList ≠ [])
    (hnot : ∀ early turn late, turns = early ++ turn :: late →
      ¬turn.Republishes ask (run ask ((.tell updates :: early).map (Turn.operation p)) w) p) :
    Silent p (Attributes.putAll (w.config p.config).attributes updates.toList)
      (run ask ((.tell updates :: turns).map (Turn.operation p)) w) := by
  obtain ⟨hfirst, hrest⟩ := List.forall_mem_cons.1 hadmits
  have hnext : Timely fleet (step ask ((Turn.tell updates).operation p) w) := h.after ask _ trivial
  have hsilent := (h.silenced hp howns ask hdelay hpublished hfirst hstale).1
  exact silent_turns hp howns hdelay hnext hsilent hrest hnot

theorem due_turns (h : Timely fleet w) {turns : List Turn}
    (hadmits : ∀ turn ∈ turns, turn.Admitted p.config) (haccepts : ask.Accepts)
    (hcheck : p.config.check = .ok ())
    (hroom : ∀ before i after s, turns = before ++ .fire i :: after →
      let v := run ask (before.map (Turn.operation p)) w
      v.scheduled[i]? = some s → v.isPending p s = true → v.isPublished p = false → v.HasRoom p)
    (hdue : w.isPublished p = false → 0 < w.pending p) :
    (run ask (turns.map (Turn.operation p)) w).isPublished p = false →
      0 < (run ask (turns.map (Turn.operation p)) w).pending p := by
  induction turns generalizing w with
  | nil => exact hdue
  | cons turn turns ih =>
    obtain ⟨hfirst, hrest⟩ := List.forall_mem_cons.1 hadmits
    have hnext : Timely fleet (step ask (turn.operation p) w) :=
      h.after ask _ (Turn.within_operation [turn] _ List.mem_cons_self)
    have hstep := h.due_turn hp howns hdelay hfirst haccepts hcheck
      (fun i s hturn => hroom [] i turns s (by rw [hturn]; rfl)) hdue
    refine ih hnext hrest (fun before i after s hturns => ?_) hstep
    exact hroom (turn :: before) i after s (by rw [hturns]; rfl)

end Runs

/-- Whatever a provider with a delay is told, the answer is that all is well. Its attributes are in
the end those it had with all updates applied that it was told while it was published, in order. Its
configuration has a listener exactly while it is published, and without one it can be told anything:
nothing happens. A change withdraws it and has it scheduled once; until a publication of it that
comes due succeeds, it has no listener and keeps the attributes of that change. And if every call is
accepted, and its key has room whenever its publication comes due, then it is published in the
end. -/
theorem updates_heard_while_published (hp : p ∈ fleet.members) (howns : fleet.Owns p)
    (hdelay : 0 < p.config.delayMs) (ask : Ask σ) (outside : σ) {ops : List Operation}
    (hops : ∀ op ∈ ops, op.Within fleet)
    (hpublished : (run ask ops (World.start outside)).isPublished p = true) (ask' : Ask σ)
    {turns : List Turn} (hadmits : ∀ turn ∈ turns, turn.Admitted p.config) :
    let w := run ask ops (World.start outside)
    let after (turns : List Turn) := run ask' (turns.map (Turn.operation p)) w
    (∀ before updates rest, turns = before ++ .tell updates :: rest →
      ((after before).notify ask' p.config (.updated updates)).result = .ok ()) ∧
    ((after turns).config p.config).attributes =
      Attributes.applyAll (w.config p.config).attributes (heard ask' p turns w) ∧
    (∀ before rest, turns = before ++ rest →
      (((after before).config p.config).listener = none ↔ (after before).isPublished p = false) ∧
      (((after before).config p.config).listener = none →
        ∀ change, (after before).notify ask' p.config change = ⟨.ok (), after before⟩)) ∧
    (∀ before updates rest, turns = before ++ .tell updates :: rest →
      (after before).isPublished p = true → ∀ (key : String) value, updates[key]? = some value →
      ((after before).config p.config).attributes[key]? ≠ value →
      let told := after (before ++ [.tell updates])
      let changed := Attributes.putAll ((after before).config p.config).attributes updates.toList
      Silent p changed told ∧ told.pending p = 1 ∧
      ∀ mid last, rest = mid ++ last →
        (∀ early turn late, mid = early ++ turn :: late →
          ¬turn.Republishes ask' (after (before ++ .tell updates :: early)) p) →
        Silent p changed (after (before ++ .tell updates :: mid))) ∧
    (∀ before turn rest, turns = before ++ turn :: rest → (after before).isPublished p = false →
      ((after (before ++ [turn])).isPublished p = true ↔
        turn.Republishes ask' (after before) p)) ∧
    (ask'.Accepts →
      (∀ before i rest s, turns = before ++ .fire i :: rest →
        (after before).scheduled[i]? = some s → (after before).isPending p s = true →
        (after before).isPublished p = false → (after before).HasRoom p) →
      (∀ s ∈ (after turns).scheduled, s.provider ≠ p) → (after turns).isPublished p = true) := by
  intro w after
  have htimely : Timely fleet w := timely_run ask outside hops
  have hafter (turns : List Turn) : Timely fleet (after turns) :=
    htimely.afterAll ask' (Turn.within_operation turns)
  -- What comes before a change is a run of its own, and what comes after starts where that ends.
  have hsplit (before later : List Turn) : after (before ++ later) =
      run ask' (later.map (Turn.operation p)) (after before) := by
    rw [← run_append, ← List.map_append]
  refine ⟨fun before updates rest hturns => ?answer,
    attributes_turns hp howns hdelay htimely hadmits,
    fun before rest _ => ⟨(hafter before).listener_eq_none_iff hp howns, notify_of_deaf ask'⟩,
    fun before updates rest hturns hlive key value hvalue hdiffers => ?change,
    fun before turn rest _ hdead => ?again, fun haccepts hroom hdue => ?published⟩
  case answer =>
    refine (hafter before).result_tell hp howns ask' hdelay ?_
    exact hadmits (.tell updates) (by simp [hturns])
  case change =>
    intro told changed
    have hstale :
        Attributes.stale ((after before).config p.config).attributes updates.toList ≠ [] :=
      stale_ne_nil _ (Std.ExtTreeMap.mem_toList_iff_getElem?_eq_some.2 hvalue) hdiffers
    have hall : ∀ turn ∈ .tell updates :: rest, turn.Admitted p.config := fun turn hturn =>
      hadmits turn (hturns ▸ List.mem_append_right before hturn)
    have hcut (later : List Turn) : after (before ++ .tell updates :: later) =
        run ask' ((.tell updates :: later).map (Turn.operation p)) (after before) :=
      hsplit before (.tell updates :: later)
    have hsince : ∀ mid last, rest = mid ++ last →
        (∀ early turn late, mid = early ++ turn :: late →
          ¬turn.Republishes ask' (after (before ++ .tell updates :: early)) p) →
        Silent p changed (after (before ++ .tell updates :: mid)) := by
      intro mid last hrest hnot
      rw [hcut mid]
      refine silent_since_change hp howns hdelay (hafter before) hlive
        (fun turn hturn => hall turn ?_) hstale fun early turn late hmid => ?_
      · rw [hrest, ← List.cons_append]
        exact List.mem_append_left last hturn
      · rw [← hcut early]
        exact hnot early turn late hmid
    have honce : told.pending p = 1 := by
      have htold : told = step ask' ((Turn.tell updates).operation p) (after before) := hcut []
      rw [htold]
      exact ((hafter before).silenced hp howns ask' hdelay hlive (hall _ List.mem_cons_self)
        hstale).2
    exact ⟨hsince [] rest rfl (by simp), honce, hsince⟩
  case again =>
    rw [hsplit before [turn]]
    exact (hafter before).isPublished_turn_iff hp howns ask' hdead turn
  case published =>
    -- Otherwise a publication would still be due, but nothing of the provider is scheduled.
    by_contra hdead
    have hcheck := htimely.fit p hp hpublished
    have hstart : w.isPublished p = false → 0 < w.pending p :=
      fun hnot => by simp [w, hpublished] at hnot
    have hpending := due_turns hp howns hdelay htimely hadmits haccepts hcheck hroom hstart
      (eq_false_of_ne_true hdead)
    have hidle : (after turns).pending p = 0 := by
      refine pending_eq_zero fun s hs hnumber => hdue s hs ?_
      exact fleet.eq_of_number ((hafter turns).scheduled s hs) hp hnumber
    exact Nat.ne_of_gt hpending hidle

/-- Two changes in turn, each followed by the publication that is due, with a third one in between
that is not heard and leaves the provider as the first one left it. -/
theorem updates_heard_of_weight :
    let small := smallProvider 0 [smallServer 0] [] 0
    let p := { small with config := { small.config with delayMs := 5 } }
    let fleet := Fleet.pair p (smallProvider 1 [smallServer 0] [] 1) rfl (by decide)
    let ask : Ask Unit := fun _ outside => (none, outside)
    let ops : List Operation := [.publish p, .fire 0]
    let weigh (n : String) : Updates := (∅ : Updates).insert "weight" (some n)
    let turns : List Turn :=
      [.tell (weigh "1"), .tell (weigh "2"), .fire 0, .tell (weigh "3"), .fire 0]
    let w := run ask ops (World.start ())
    let told := run ask ([.tell (weigh "1"), .tell (weigh "2")].map (Turn.operation p)) w
    let final := run ask (turns.map (Turn.operation p)) w
    p ∈ fleet.members ∧ fleet.Owns p ∧ 0 < p.config.delayMs ∧ (∀ op ∈ ops, op.Within fleet) ∧
      w.isPublished p = true ∧ (∀ turn ∈ turns, turn.Admitted p.config) ∧
      (final.config p.config).attributes =
        Attributes.applyAll (w.config p.config).attributes (heard ask p turns w) ∧
      (heard ask p turns w).length = 2 ∧ final.isPublished p = true ∧
      Silent p (Attributes.putAll (w.config p.config).attributes (weigh "1").toList) told := by
  intro small p fleet ask ops weigh turns w told final
  have hp : p ∈ fleet.members := List.mem_cons_self
  have howns : fleet.Owns p :=
    Fleet.owns_pair p (smallProvider 1 [smallServer 0] [] 1) rfl (by decide) (by decide) hp
  have hops : ∀ op ∈ ops, op.Within fleet := by
    simp [ops, Operation.Within, hp]
  have hpublished : w.isPublished p = true := by decide +kernel
  have hweight (n : String) : (weigh n)["weight"]? = some (some n) := by
    simp [weigh]
  have hweigh (n : String) (hn : isInteger (some n) = true) : p.config.AdmitsAll (weigh n) := by
    intro key value hvalue
    obtain ⟨rfl, rfl⟩ : "weight" = key ∧ some n = value := by
      simpa [weigh, Std.ExtTreeMap.getElem?_insert] using hvalue
    exact ⟨.plain "weight", rfl, fun _ => hn⟩
  have hadmits : ∀ turn ∈ turns, turn.Admitted p.config := by
    intro turn hturn
    simp only [turns, List.mem_cons, List.not_mem_nil, or_false] at hturn
    obtain rfl | rfl | rfl | rfl | rfl := hturn
    · exact hweigh "1" (by decide)
    · exact hweigh "2" (by decide)
    · trivial
    · exact hweigh "3" (by decide)
    · trivial
  have hdue : ∀ s ∈ final.scheduled, s.provider ≠ p := by
    have hnone : final.scheduled.length = 0 := by decide +kernel
    simp [List.length_eq_zero_iff.1 hnone]
  obtain ⟨-, hattributes, -, hchange, -, hlive⟩ :=
    updates_heard_while_published hp howns (by decide) ask () hops hpublished ask hadmits
  have hdiffers : (w.config p.config).attributes["weight"]? ≠ some "1" := by decide +kernel
  obtain ⟨-, -, hsilent⟩ := hchange [] (weigh "1") _ rfl hpublished _ _ (hweight "1") hdiffers
  refine ⟨hp, howns, by decide, hops, hpublished, hadmits, hattributes, by decide +kernel,
    hlive (fun _ _ => rfl) (fun _ _ _ _ _ _ _ _ => .inl (by decide)) hdue,
    hsilent [.tell (weigh "2")] _ rfl fun early turn late hmid => ?_⟩
  obtain ⟨rfl, rfl, -⟩ : early = [] ∧ turn = .tell (weigh "2") ∧ late = [] := by
    cases early with
    | nil => simpa [eq_comm] using hmid
    | cons => simp at hmid
  exact id

/-- All calls are accepted and every change is answered with success. A weight that a provider is
told before it is published again with its new tag is lost; and a provider that may be published
once does not come back if another one of its key has been published meanwhile. -/
theorem update_lost_while_due :
    let small := smallProvider 0 [smallServer 0] [] 1
    let p := { small with config := { small.config with delayMs := 5 } }
    let other := smallProvider 1 [smallServer 1] [] 0
    let q := { other with config := { other.config with delayMs := 5 } }
    let ask : Ask Unit := fun _ outside => (none, outside)
    let tag : Updates := (∅ : Updates).insert "tags" (some "green")
    let weigh : Updates := (∅ : Updates).insert "weight" (some "5")
    let w := run ask [.publish p, .fire 0] (World.start ())
    let tagged := w.notify ask p.config (.updated tag)
    let weighed := tagged.world.notify ask p.config (.updated weigh)
    let final := weighed.world.fire ask 0
    let beside := run ask [.publish q, .notify p.config (.updated tag), .fire 0, .fire 0] w
    (w.isPublished p = true ∧ tagged.result.isOk = true ∧ weighed.result.isOk = true ∧
      final.scheduled.length = 0 ∧ final.isPublished p = true ∧
      (final.config p.config).attributes["tags"]? = some "green" ∧
      (final.config p.config).attributes["weight"]? = none) ∧
    (p.config.key = q.config.key ∧ beside.scheduled.length = 0 ∧ beside.isPublished q = true ∧
      beside.isPublished p = false) := by
  decide +kernel

end ServicePublisher
