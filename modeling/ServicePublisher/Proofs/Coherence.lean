import ServicePublisher.Proofs.Fleet

/-! Coherence of the books. Whether a provider is published shows in five places: its own flag, its
invoker, the table of published providers, the listener of its configuration, and the count of its
key. Between operations the five agree, whatever has been asked for and however the collaborators
have answered. -/
namespace ServicePublisher

open World

variable {σ : Type}

def Fleet.publications (fleet : Fleet) (w : World σ) (k : ServiceKey) : Nat :=
  fleet.members.countP fun p => w.isPublished p && decide (p.config.key = k)

/-- The five places agree, and only members are about. -/
structure Coherent (fleet : Fleet) (w : World σ) : Prop extends Closed fleet w where
  invoker : ∀ p ∈ fleet.members, (w.provider p).invoker.isSome = w.isPublished p
  entry : ∀ p ∈ fleet.members, w.entry p = if w.isPublished p then some p else none
  listener : ∀ p ∈ fleet.members, fleet.Owns p →
    w.listenerAt p.config.serial = if w.isPublished p then some (.republish p) else none
  count : ∀ k, (w.services fleet.group).counts.count k = fleet.publications w k

theorem coherent_start (fleet : Fleet) (outside : σ) : Coherent fleet (World.start outside) where
  scheduled s hs := by simp [World.start] at hs
  published g m q hq := by simp [World.start, services] at hq
  listening n l hl := by simp [World.start, listenerAt] at hl
  invoker p hp := by simp [World.start, provider, isPublished]
  entry p hp := by simp [World.start, entry, services, isPublished, provider]
  listener p hp _ := by simp [World.start, listenerAt, isPublished, provider]
  count k := by simp [World.start, services, Fleet.publications, isPublished, provider]

/-- Two counts of a list whose criteria differ at one member only. -/
theorem countP_exchange {ms : List Provider} (hn : (ms.map Provider.number).Nodup) {p : Provider}
    (hp : p ∈ ms) {f g : Provider → Bool} (h : ∀ q ∈ ms, q.number ≠ p.number → g q = f q) :
    ms.countP g + (f p).toNat = ms.countP f + (g p).toNat := by
  induction ms with
  | nil => cases hp
  | cons q ms ih =>
    obtain ⟨hq, hn⟩ := List.nodup_cons.1 hn
    rw [List.countP_cons, List.countP_cons]
    obtain rfl | hp := List.mem_cons.1 hp
    · have hrest : ms.countP g = ms.countP f := by
        refine List.countP_congr fun r hr => ?_
        rw [h r (List.mem_cons_of_mem p hr)]
        intro hnumber
        exact hq (List.mem_map.2 ⟨r, hr, hnumber⟩)
      cases hf : f p <;> cases hg : g p <;> simp [hrest]
    · have hrest := ih hn hp fun r hr => h r (List.mem_cons_of_mem q hr)
      have hsame : g q = f q := by
        refine h q List.mem_cons_self fun hnumber => hq ?_
        exact List.mem_map.2 ⟨p, hp, hnumber.symm⟩
      rw [hsame]
      omega

section Rebooked

variable {fleet : Fleet} {w w' : World σ} {p : Provider} {s : ProviderState}
  {l : Option Listener} {n : Nat} {t : Option Provider}

theorem isPublished_rebooked (hr : Rebooked w w' p s l n t) (q : Provider) :
    w'.isPublished q = if p.number = q.number then s.published else w.isPublished q := by
  rw [isPublished, hr.provider]
  split <;> rfl

theorem publications_rebooked (hp : p ∈ fleet.members) (hr : Rebooked w w' p s l n t)
    (k : ServiceKey) :
    fleet.publications w' k + (w.isPublished p && decide (p.config.key = k)).toNat =
      fleet.publications w k + (s.published && decide (p.config.key = k)).toNat := by
  have hself : w'.isPublished p = s.published := by rw [isPublished_rebooked hr, if_pos rfl]
  rw [← hself]
  refine countP_exchange (f := fun q => w.isPublished q && decide (q.config.key = k))
    (g := fun q => w'.isPublished q && decide (q.config.key = k)) fleet.numbered hp ?_
  intro q hq hne
  rw [isPublished_rebooked hr, if_neg (Ne.symm hne)]

/-- New entries that agree with each other and with the old ones keep the books coherent. -/
theorem Coherent.rebooked (h : Coherent fleet w) (hp : p ∈ fleet.members)
    (hr : Rebooked w w' p s l n t) (hinvoker : s.invoker.isSome = s.published)
    (hlistener : l = (if s.published then some (.republish p) else none) ∨
      (l = w.listenerAt p.config.serial ∧ s.published = w.isPublished p))
    (hcount : n + (w.isPublished p).toNat = w.liveCount p + s.published.toNat)
    (hentry : t = if s.published then some p else none) : Coherent fleet w' where
  scheduled := by rw [hr.scheduled]; exact h.scheduled
  published g m q hq := by
    rw [hr.published] at hq
    split at hq
    · rw [hentry] at hq
      split at hq <;> cases hq
      exact hp
    · exact h.published g m q hq
  listening m l' hl' := by
    rw [hr.listenerAt] at hl'
    split at hl'
    · obtain hl | ⟨hl, -⟩ := hlistener
      · rw [hl] at hl'
        split at hl' <;> cases hl'
        exact ⟨p, hp, rfl⟩
      · exact h.listening _ l' (hl ▸ hl')
    · exact h.listening m l' hl'
  invoker q hq := by
    rw [isPublished_rebooked hr, hr.provider]
    split
    · exact hinvoker
    · exact h.invoker q hq
  entry q hq := by
    rw [World.entry, isPublished_rebooked hr, hr.published]
    by_cases hnumber : p.number = q.number
    · obtain rfl := fleet.eq_of_number hp hq hnumber
      simp [hentry]
    · have hold := h.entry q hq
      rw [World.entry] at hold
      simpa [hnumber] using hold
  listener q hq howns := by
    rw [isPublished_rebooked hr, hr.listenerAt]
    by_cases hserial : p.config.serial = q.config.serial
    · obtain rfl := howns p hp hserial
      have hold := h.listener p hp howns
      obtain hl | ⟨hl, hsame⟩ := hlistener
      · simp [hl]
      · simp [hl, hold, hsame]
    · have hnumber : p.number ≠ q.number := by
        intro hnumber
        exact hserial (by rw [fleet.eq_of_number hp hq hnumber])
      rw [if_neg hserial, if_neg hnumber]
      exact h.listener q hq howns
  count k := by
    have hpublications := publications_rebooked hp hr k
    have hold := h.count k
    have hkey := h.count p.config.key
    rw [hr.count, fleet.together p hp]
    rw [liveCount, fleet.together p hp] at hcount
    by_cases hk : p.config.key = k
    · subst hk
      simp only [decide_true, Bool.and_true, and_self, if_true] at hpublications ⊢
      omega
    · simpa [hk, hold] using hpublications.symm

end Rebooked

section Moves

variable {fleet : Fleet} {w w' : World σ}

/-- States that agree on providers, listeners, counts and the published are coherent alike. -/
theorem Coherent.congr (h : Coherent fleet w)
    (hscheduled : ∀ s ∈ w'.scheduled, s.provider ∈ fleet.members)
    (hprovider : ∀ q, w'.provider q = w.provider q)
    (hlistener : ∀ n, w'.listenerAt n = w.listenerAt n)
    (hcounts : ∀ g, (w'.services g).counts = (w.services g).counts)
    (hpublished : ∀ g, (w'.services g).published = (w.services g).published) :
    Coherent fleet w' := by
  have hsame (q : Provider) : w'.isPublished q = w.isPublished q := by
    rw [isPublished, hprovider, isPublished]
  have hpublications (k : ServiceKey) : fleet.publications w' k = fleet.publications w k := by
    simp only [Fleet.publications, hsame]
  exact {
    scheduled := hscheduled
    published := fun g m q hq => h.published g m q (by rwa [hpublished] at hq)
    listening := fun n l hl => h.listening n l (by rwa [hlistener] at hl)
    invoker := fun p hp => by rw [hprovider, hsame, h.invoker p hp]
    entry := fun p hp => by
      rw [World.entry, hpublished, hsame]
      exact h.entry p hp
    listener := fun p hp howns => by rw [hlistener, hsame, h.listener p hp howns]
    count := fun k => by rw [hcounts, h.count, hpublications] }

theorem Coherent.sameBooks (h : Coherent fleet w) (hbooks : SameBooks w w') : Coherent fleet w' :=
  h.congr (fun s hs => h.scheduled s (by rwa [hbooks.scheduled] at hs)) hbooks.provider
    (fun n => by rw [listenerAt, hbooks.configs, listenerAt]) hbooks.counts hbooks.published

variable {ask : Ask σ} {p : Provider}

theorem Coherent.unchanged (h : Coherent fleet w) (hp : p ∈ fleet.members) {s : ProviderState}
    (hinvoker : s.invoker.isSome = (w.provider p).invoker.isSome)
    (hpublished : s.published = (w.provider p).published)
    (hr : Rebooked w w' p s (w.listenerAt p.config.serial) (w.liveCount p) (w.entry p)) :
    Coherent fleet w' := by
  refine h.rebooked hp hr ?_ (.inr ⟨rfl, hpublished⟩) ?_ ?_
  · rw [hinvoker, hpublished]
    exact h.invoker p hp
  · rw [hpublished]
    rfl
  · rw [hpublished]
    exact h.entry p hp

theorem Coherent.publishNow (h : Coherent fleet w) (hp : p ∈ fleet.members) :
    Coherent fleet (w.publishNow ask p).world := by
  have hcourse := publishNow_course ask w p
  generalize w.publishNow ask p = outcome at hcourse
  cases hcourse with
  | already hpublished => exact h
  | unfit hpublished hcheck => exact h
  | refused hpublished hcheck hlimit => exact h.unchanged hp rfl rfl (rebooked_prepared w p)
  | failed hpublished hcheck hlimit hattempt =>
    have hunpublished : (w.provider p).published = false := hpublished
    have hentry := h.entry p hp
    refine h.rebooked hp (rebooked_failed hlimit hattempt) ?_ (.inl ?_) ?_ ?_
    all_goals simp_all
  | done hpublished hcheck hlimit hattempt =>
    refine h.rebooked hp (rebooked_done hlimit hattempt) rfl (.inl rfl) ?_ rfl
    rw [hpublished]
    rfl

theorem Coherent.liveCount_eq (h : Coherent fleet w) (hp : p ∈ fleet.members) :
    w.liveCount p = fleet.publications w p.config.key := by
  rw [liveCount, fleet.together p hp, h.count]

theorem Coherent.liveCount_pos (h : Coherent fleet w) (hp : p ∈ fleet.members)
    (hpublished : w.isPublished p = true) : 0 < w.liveCount p := by
  rw [h.liveCount_eq hp, Fleet.publications, List.countP_pos_iff]
  exact ⟨p, hp, by simp [hpublished]⟩

theorem Coherent.withdraw (h : Coherent fleet w) (hp : p ∈ fleet.members) :
    Coherent fleet (w.withdraw ask p) := by
  cases hpublished : w.isPublished p with
  | false =>
    have hraised := (Rebooked.refl w p).modifyProvider fun s => { s with epoch := s.epoch + 1 }
    rw [withdraw_unpublished ask hpublished]
    refine h.unchanged hp ?_ ?_ hraised
    · rfl
    · rfl
  | true =>
    have hcounted := h.liveCount_pos hp hpublished
    refine h.rebooked hp (rebooked_withdraw hpublished) rfl (.inl rfl) ?_ rfl
    rw [hpublished, Bool.toNat_true, Bool.toNat_false]
    omega

theorem Coherent.move (h : Coherent fleet w) (hmove : Move ask fleet w w') : Coherent fleet w' := by
  cases hmove with
  | publish hp => exact h.publishNow hp
  | withdraw hp => exact h.withdraw hp
  | @schedule p hp due =>
    refine h.congr (fun s hs => ?_) (fun _ => rfl) (fun _ => rfl) (fun _ => rfl) (fun _ => rfl)
    obtain hs | hs := List.mem_append.1 hs
    · exact h.scheduled s hs
    · rw [List.mem_singleton.1 hs]
      exact hp
  | unschedule i =>
    refine h.congr (fun s hs => ?_) (fun _ => rfl) (fun _ => rfl) (fun _ => rfl) (fun _ => rfl)
    exact h.scheduled s (List.mem_of_mem_eraseIdx hs)
  | @write c key value b r hwrite =>
    refine h.congr h.scheduled (fun _ => rfl) (fun n => ?_) (fun _ => rfl) (fun _ => rfl)
    rw [listenerAt_modifyConfig]
    split
    · next hn => rw [← hn]; exact listener_config w c
    · rfl
  | log hn => exact h.sameBooks (sameBooks_record w _)
  | build s => exact h.sameBooks (sameBooks_build ask w s)
  | lookUp g r => exact h.sameBooks (sameBooks_registryFor ask w g r)

end Moves

theorem coherent_run {fleet : Fleet} (ask : Ask σ) (outside : σ) {ops : List Operation}
    (hops : ∀ op ∈ ops, op.Within fleet) :
    Coherent fleet (run ask ops (World.start outside)) :=
  run_keeps ask (fun _ h => h.toClosed) (fun _ _ h hmove => h.move hmove) hops
    (coherent_start fleet outside)

/-- If every provider has its configuration for itself, then in every state that a run reaches a
provider is published exactly if it has an invoker, is in the runtime table, and listens to its
configuration; and every key counts its publications and has no entry without any. -/
theorem books_agree {fleet : Fleet} (howns : ∀ p ∈ fleet.members, fleet.Owns p) (ask : Ask σ)
    (outside : σ) {ops : List Operation} (hops : ∀ op ∈ ops, op.Within fleet) :
    let w := run ask ops (World.start outside)
    (∀ p ∈ fleet.members,
      (w.provider p).invoker.isSome = w.isPublished p ∧
      (w.services fleet.group).published[p.number]? =
        (if w.isPublished p then some p else none) ∧
      (w.config p.config).listener = if w.isPublished p then some (.republish p) else none) ∧
    ∀ k,
      (w.services fleet.group).counts.count k = fleet.publications w k ∧
      ((w.services fleet.group).counts.contains k = true ↔ 0 < fleet.publications w k) := by
  intro w
  have hcoherent : Coherent fleet w := coherent_run ask outside hops
  refine ⟨fun p hp => ⟨hcoherent.invoker p hp, ?_, ?_⟩, fun k => ⟨hcoherent.count k, ?_⟩⟩
  · rw [← fleet.together p hp]
    exact hcoherent.entry p hp
  · rw [listener_config]
    exact hcoherent.listener p hp (howns p hp)
  · rw [ExportCounts.contains_iff, hcoherent.count]

/-- A provider of a small interface, for runs with a few providers. -/
def smallProvider (number : Nat) (servers : List ServerConfig) (registries : List RegistryConfig)
    (limit : Int32) : Provider where
  number
  group := 0
  config := {
    serial := number
    interface := ⟨"demo.Echo", "Echo", []⟩
    implementation := some ⟨"Echo"⟩
    servers
    registries
    repeatLimit := limit }

def smallServer (serial : Nat) : ServerConfig := ⟨serial, { id := "server" }, ⟨"mock"⟩⟩

def Fleet.pair (a b : Provider) (hgroup : b.group = a.group) (hnumber : a.number ≠ b.number) :
    Fleet where
  group := a.group
  members := [a, b]
  together p hp := by
    obtain rfl | rfl := List.mem_pair.1 hp
    · rfl
    · exact hgroup
  numbered := by simpa using hnumber

theorem Fleet.owns_pair (a b : Provider) {p : Provider} (hgroup : b.group = a.group)
    (hnumber : a.number ≠ b.number) (hserial : a.config.serial ≠ b.config.serial)
    (hp : p ∈ (Fleet.pair a b hgroup hnumber).members) :
    (Fleet.pair a b hgroup hnumber).Owns p := by
  intro q hq hsame
  obtain rfl | rfl := List.mem_pair.1 hp <;> obtain rfl | rfl := List.mem_pair.1 hq
  · rfl
  · exact absurd hsame.symm hserial
  · exact absurd hsame hserial
  · rfl

/-- Two providers of one key on one server, published in turn, reconfigured and shut down. -/
theorem books_agree_pair :
    let a := smallProvider 0 [smallServer 0] [] 0
    let b := smallProvider 1 [smallServer 0] [] 0
    let fleet := Fleet.pair a b rfl (by decide)
    let ops : List Operation := [.publish a, .publish b,
      .notify a.config (.updated (∅ : Updates)), .withdraw a, .shutDown 0]
    let w :=
      run (fun _ (n : Nat) => (if n = 2 then some (.runtime "refused" none) else none, n + 1))
        ops (World.start 0)
    (∀ p ∈ fleet.members, fleet.Owns p) ∧ (∀ op ∈ ops, op.Within fleet) ∧
      (w.provider a).invoker.isSome = w.isPublished a := by
  intro a b fleet ops w
  have howns : ∀ p ∈ fleet.members, fleet.Owns p := by
    intro p hp q hq
    obtain rfl | rfl := List.mem_pair.1 hp <;> obtain rfl | rfl := List.mem_pair.1 hq <;>
      simp [a, b, smallProvider]
  have hops : ∀ op ∈ ops, op.Within fleet := by
    simp [ops, Operation.Within, fleet, Fleet.pair]
  exact ⟨howns, hops, ((books_agree howns _ 0 hops).1 a List.mem_cons_self).1⟩

end ServicePublisher
