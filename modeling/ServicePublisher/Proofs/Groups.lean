import ServicePublisher.Proofs.Fleet

/-! Runs of the providers of several groups. A fleet is about one group, but servers and
configurations may be shared by many. Every move is one of some fleet all the same, so what all
moves of all fleets of some providers keep is kept by all runs that name these providers only. -/
namespace ServicePublisher

open World

/-- The operation names only providers of a list, whatever their groups. -/
def Operation.Among (providers : List Provider) : Operation → Prop
  | .publish p | .withdraw p => p ∈ providers
  | _ => True

/-- An operation is about a provider that it names, or that it finds published, listening or
scheduled. -/
def Operation.Concerns {σ : Type} (w : World σ) (p : Provider) : Operation → Prop
  | .publish q | .withdraw q => q = p
  | .shutDown g => p ∈ w.publishedIn g
  | .notify c _ => w.listenerAt c.serial = some (.republish p)
  | .fire i => ∃ s, w.scheduled[i]? = some s ∧ s.provider = p
  | _ => False

namespace Fleet

def nobody : Fleet where
  group := 0
  members := []
  together _ hp := by cases hp
  numbered := List.nodup_nil

def solo (p : Provider) : Fleet where
  group := p.group
  members := [p]
  together q hq := by rw [List.mem_singleton.1 hq]
  numbered := List.nodup_singleton _

theorem mem_solo (p : Provider) : p ∈ (solo p).members := List.mem_cons_self

end Fleet

section Moves

variable {σ : Type} {ask : Ask σ} {providers : List Provider} {w w' : World σ} {p : Provider}

/-- A move of some fleet of the providers. -/
def MoveAmong (ask : Ask σ) (providers : List Provider) (w w' : World σ) : Prop :=
  ∃ fleet : Fleet, (∀ p ∈ fleet.members, p ∈ providers) ∧ Move ask fleet w w'

abbrev MovesAmong (ask : Ask σ) (providers : List Provider) : World σ → World σ → Prop :=
  Relation.ReflTransGen (MoveAmong ask providers)

def MoveAmongOf (ask : Ask σ) (kind : ProviderConfig → Prop) (providers : List Provider)
    (w w' : World σ) : Prop :=
  ∃ fleet : Fleet, (∀ p ∈ fleet.members, p ∈ providers) ∧ MoveOf ask kind fleet w w'

abbrev MovesAmongOf (ask : Ask σ) (kind : ProviderConfig → Prop) (providers : List Provider) :
    World σ → World σ → Prop :=
  Relation.ReflTransGen (MoveAmongOf ask kind providers)

/-- Only the providers are scheduled or entered as published, and all listeners are of a sort. -/
structure Confined (providers : List Provider) (sort : Listener → Prop) (w : World σ) : Prop where
  scheduled : ∀ s ∈ w.scheduled, s.provider ∈ providers
  published : ∀ (g m : Nat) q, (w.services g).published[m]? = some q → q ∈ providers
  listening : ∀ n l, w.listenerAt n = some l → sort l

/-- Only the providers are scheduled, entered as published, or listening. -/
structure Peopled (providers : List Provider) (w : World σ) : Prop where
  scheduled : ∀ s ∈ w.scheduled, s.provider ∈ providers
  published : ∀ (g m : Nat) q, (w.services g).published[m]? = some q → q ∈ providers
  listening : ∀ n l, w.listenerAt n = some l → ∃ p ∈ providers, l = .republish p

theorem peopled_iff :
    Peopled providers w ↔ Confined providers (fun l => ∃ p ∈ providers, l = .republish p) w :=
  ⟨fun h => ⟨h.scheduled, h.published, h.listening⟩,
    fun h => ⟨h.scheduled, h.published, h.listening⟩⟩

theorem peopled_start (providers : List Provider) (outside : σ) :
    Peopled providers (World.start outside) where
  scheduled s hs := by simp [World.start] at hs
  published g m q hq := by simp [World.start, services] at hq
  listening n l hl := by simp [World.start, listenerAt] at hl

section Steps

variable {kind : ProviderConfig → Prop} {sort : Listener → Prop}

theorem movesAmongOf_of_moves {fleet : Fleet} (hmembers : ∀ p ∈ fleet.members, p ∈ providers)
    (h : Moves ask kind fleet w w') : MovesAmongOf ask kind providers w w' :=
  Relation.ReflTransGen.mono (fun _ _ hmove => ⟨fleet, hmembers, hmove⟩) _ _ h

theorem movesAmongOf_solo (hp : p ∈ providers) (h : Moves ask kind (.solo p) w w') :
    MovesAmongOf ask kind providers w w' := by
  refine movesAmongOf_of_moves (fun q hq => ?_) h
  rwa [List.mem_singleton.1 hq]

theorem movesAmong_solo (hp : p ∈ providers)
    (h : Moves ask (fun _ => True) (.solo p) w w') : MovesAmong ask providers w w' :=
  movesAmongOf_solo hp h

theorem movesAmongOf_nobody (h : Moves ask kind .nobody w w') :
    MovesAmongOf ask kind providers w w' :=
  movesAmongOf_of_moves (fun _ hq => by cases hq) h

/-- Every operation consists of moves of the providers that it is about, each of a fleet of its own,
unless it tells a recorder. -/
theorem movesAmongOf_concerned (hkind : ∀ p ∈ providers, kind p.config) {op : Operation}
    (hwrites : op.WritesOnly kind) (hconcerned : ∀ p, op.Concerns w p → p ∈ providers)
    (htold : ∀ c change l, op = .notify c change → w.listenerAt c.serial = some l →
      ∃ p, l = .republish p) :
    MovesAmongOf ask kind providers w (step ask op w) := by
  have hsolo {p : Provider} (hp : p ∈ providers) : ∀ q ∈ (Fleet.solo p).members, kind q.config := by
    intro q hq
    rw [List.mem_singleton.1 hq]
    exact hkind p hp
  cases op with
  | publish p => exact movesAmongOf_solo (hconcerned p rfl) (moves_publish (Fleet.mem_solo p))
  | withdraw p =>
    exact movesAmongOf_solo (hconcerned p rfl) (.single (.withdraw (Fleet.mem_solo p)))
  | shutDown g =>
    have hwithdrawals : MovesAmongOf ask kind providers w
        ((w.publishedIn g).foldl (fun w p => w.withdraw ask p) w) := by
      refine reaches_withdrawals fun w' p hp => ?_
      refine ⟨.solo p, fun q hq => ?_, .withdraw (Fleet.mem_solo p)⟩
      rw [List.mem_singleton.1 hq]
      exact hconcerned p hp
    exact hwithdrawals.trans (movesAmongOf_nobody (.single (.log rfl)))
  | notify c change =>
    cases hl : w.listenerAt c.serial with
    | none =>
      exact movesAmongOf_nobody (moves_notify (fun _ hq => by cases hq) c (by simp [hl]) change)
    | some l =>
      obtain ⟨p, rfl⟩ := htold c change l rfl hl
      refine movesAmongOf_solo (hconcerned p hl)
        (moves_notify (hsolo (hconcerned p hl)) c (fun l' hl' => ?_) change)
      cases hl.symm.trans hl'
      exact ⟨p, Fleet.mem_solo p, rfl⟩
  | fire i =>
    cases hs : w.scheduled[i]? with
    | none => exact movesAmongOf_nobody (moves_fire (by simp [hs]))
    | some s =>
      refine movesAmongOf_solo (hconcerned s.provider ⟨s, hs, rfl⟩) (moves_fire fun s' hs' => ?_)
      cases hs.symm.trans hs'
      exact Fleet.mem_solo s.provider
  | update c key value b => exact movesAmongOf_nobody (moves_updateAttribute hwrites key value b)
  | build s => exact movesAmongOf_nobody (.single (.build s))
  | lookUp g r => exact movesAmongOf_nobody (.single (.lookUp g r))

/-- In a confined state an operation that names only the providers is about no others. -/
theorem Confined.concerned (h : Confined providers sort w) {op : Operation}
    (hop : op.Among providers)
    (htold : ∀ c change l, op = .notify c change → w.listenerAt c.serial = some l →
      ∃ p ∈ providers, l = .republish p) {p : Provider} (hp : op.Concerns w p) :
    p ∈ providers := by
  cases op with
  | publish q => exact (show q = p from hp) ▸ hop
  | withdraw q => exact (show q = p from hp) ▸ hop
  | shutDown g =>
    obtain ⟨m, hm⟩ := exists_entry_of_mem_publishedIn hp
    exact h.published g m p hm
  | notify c change =>
    obtain ⟨q, hq, hsame⟩ := htold c change _ rfl hp
    cases hsame
    exact hq
  | fire i =>
    obtain ⟨s, hs, rfl⟩ := hp
    exact h.scheduled s (List.mem_of_getElem? hs)
  | update c key value b => cases hp
  | build s => cases hp
  | lookUp g r => cases hp

/-- Every operation consists of moves, each of a fleet of its own, unless it tells a recorder. -/
theorem movesAmongOf_step (hkind : ∀ p ∈ providers, kind p.config) (h : Confined providers sort w)
    {op : Operation} (hop : op.Among providers) (hwrites : op.WritesOnly kind)
    (htold : ∀ c change l, op = .notify c change → w.listenerAt c.serial = some l →
      ∃ p ∈ providers, l = .republish p) :
    MovesAmongOf ask kind providers w (step ask op w) := by
  refine movesAmongOf_concerned hkind hwrites (fun p hp => h.concerned hop htold hp)
    fun c change l hnotify hl => ?_
  obtain ⟨p, -, hsame⟩ := htold c change l hnotify hl
  exact ⟨p, hsame⟩

theorem movesAmong_step (h : Peopled providers w) {op : Operation} (hop : op.Among providers) :
    MovesAmong ask providers w (step ask op w) :=
  movesAmongOf_step (fun _ _ => trivial) (peopled_iff.1 h) hop op.writesOnly_true
    fun c _ l _ hl => h.listening c.serial l hl

end Steps

/-- What holds at first, implies that only the providers are about, and is kept by every move of
them, holds in every state that a run reaches. -/
theorem run_keeps_among {I : World σ → Prop} (hpeopled : ∀ w, I w → Peopled providers w)
    (hmove : ∀ w w', I w → MoveAmong ask providers w w' → I w') {ops : List Operation}
    (hops : ∀ op ∈ ops, op.Among providers) (h : I w) : I (run ask ops w) := by
  have hmoves : ∀ w w', I w → MovesAmong ask providers w w' → I w' := by
    intro w w' hw hmoves
    induction hmoves with
    | refl => exact hw
    | tail _ hlast ih => exact hmove _ _ ih hlast
  induction ops generalizing w with
  | nil => exact h
  | cons op ops ih =>
    have hstep : MovesAmong ask providers w (step ask op w) :=
      movesAmong_step (hpeopled w h) (hops op List.mem_cons_self)
    exact ih (fun op' hop' => hops op' (List.mem_cons_of_mem op hop')) (hmoves w _ h hstep)

section Kept

variable {sort : Listener → Prop}

namespace Confined

/-- States that agree on the schedule, the published and the listeners are confined alike. -/
theorem congr (h : Confined providers sort w)
    (hscheduled : ∀ s ∈ w'.scheduled, s.provider ∈ providers)
    (hpublished : ∀ g, (w'.services g).published = (w.services g).published)
    (hlistener : ∀ n, w'.listenerAt n = w.listenerAt n) : Confined providers sort w' where
  scheduled := hscheduled
  published g m q hq := h.published g m q (by rwa [hpublished] at hq)
  listening n l hl := h.listening n l (by rwa [hlistener] at hl)

theorem sameBooks (h : Confined providers sort w) (hbooks : SameBooks w w') :
    Confined providers sort w' :=
  h.congr (fun s hs => h.scheduled s (by rwa [hbooks.scheduled] at hs)) hbooks.published
    fun n => by rw [listenerAt, hbooks.configs, listenerAt]

section Rebooking

variable (hsort : ∀ q ∈ providers, sort (.republish q)) (hp : p ∈ providers)
include hsort hp

/-- New entries for one of the providers, each an old one or its own. -/
theorem rebooked (h : Confined providers sort w) {s : ProviderState} {l : Option Listener} {n : Nat}
    {t : Option Provider} (hr : Rebooked w w' p s l n t)
    (hlistener : ∀ l', l = some l' →
      w.listenerAt p.config.serial = some l' ∨ l' = .republish p)
    (hentry : ∀ q, t = some q → w.entry p = some q ∨ q = p) : Confined providers sort w' where
  scheduled := by rw [hr.scheduled]; exact h.scheduled
  published g m q hq := by
    rw [hr.published] at hq
    split at hq
    · obtain hold | rfl := hentry q hq
      · exact h.published _ _ q hold
      · exact hp
    · exact h.published g m q hq
  listening m l' hl' := by
    rw [hr.listenerAt] at hl'
    split at hl'
    · obtain hold | rfl := hlistener l' hl'
      · exact h.listening _ l' hold
      · exact hsort p hp
    · exact h.listening m l' hl'

theorem publishNow (h : Confined providers sort w) :
    Confined providers sort (w.publishNow ask p).world := by
  have hcourse := publishNow_course ask w p
  generalize w.publishNow ask p = outcome at hcourse
  cases hcourse with
  | already hpublished => exact h
  | unfit hpublished hcheck => exact h
  | refused hpublished hcheck hlimit =>
    exact h.rebooked hsort hp (rebooked_prepared w p) (fun _ => .inl) fun _ => .inl
  | failed hpublished hcheck hlimit hattempt =>
    exact h.rebooked hsort hp (rebooked_failed hlimit hattempt) nofun fun _ => .inl
  | done hpublished hcheck hlimit hattempt =>
    exact h.rebooked hsort hp (rebooked_done hlimit hattempt)
      (fun _ hl => .inr (Option.some.inj hl).symm) fun _ hq => .inr (Option.some.inj hq).symm

theorem withdraw (h : Confined providers sort w) : Confined providers sort (w.withdraw ask p) := by
  cases hpublished : w.isPublished p with
  | false =>
    have hraised := (Rebooked.refl w p).modifyProvider fun s => { s with epoch := s.epoch + 1 }
    rw [withdraw_unpublished ask hpublished]
    exact h.rebooked hsort hp hraised (fun _ => .inl) fun _ => .inl
  | true => exact h.rebooked hsort hp (rebooked_withdraw hpublished) nofun nofun

end Rebooking

theorem move (hsort : ∀ q ∈ providers, sort (.republish q)) (h : Confined providers sort w)
    (hmove : MoveAmong ask providers w w') : Confined providers sort w' := by
  obtain ⟨fleet, hmembers, hmove⟩ := hmove
  cases hmove with
  | publish hp => exact h.publishNow hsort (hmembers _ hp)
  | withdraw hp => exact h.withdraw hsort (hmembers _ hp)
  | @schedule p hp due =>
    refine h.congr (fun s hs => ?_) (fun _ => rfl) fun _ => rfl
    obtain hs | hs := List.mem_append.1 hs
    · exact h.scheduled s hs
    · rw [List.mem_singleton.1 hs]
      exact hmembers p hp
  | unschedule i =>
    refine h.congr (fun s hs => ?_) (fun _ => rfl) fun _ => rfl
    exact h.scheduled s (List.mem_of_mem_eraseIdx hs)
  | @write c key value b r hc hwrite =>
    refine h.congr h.scheduled (fun _ => rfl) fun n => ?_
    rw [listenerAt_modifyConfig]
    split
    · next hn => rw [← hn]; exact listener_config w c
    · rfl
  | log hn => exact h.sameBooks (sameBooks_record w _)
  | build s => exact h.sameBooks (sameBooks_build ask w s)
  | lookUp g r => exact h.sameBooks (sameBooks_registryFor ask w g r)

end Confined

namespace Peopled

theorem sort_mem : ∀ p ∈ providers, ∃ q ∈ providers, Listener.republish p = .republish q :=
  fun p hp => ⟨p, hp, rfl⟩

theorem rebooked (h : Peopled providers w) (hp : p ∈ providers) {s : ProviderState}
    {l : Option Listener} {n : Nat} {t : Option Provider} (hr : Rebooked w w' p s l n t)
    (hlistener : ∀ l', l = some l' →
      w.listenerAt p.config.serial = some l' ∨ l' = .republish p)
    (hentry : ∀ q, t = some q → w.entry p = some q ∨ q = p) : Peopled providers w' :=
  peopled_iff.2 ((peopled_iff.1 h).rebooked sort_mem hp hr hlistener hentry)

theorem publishNow (h : Peopled providers w) (hp : p ∈ providers) :
    Peopled providers (w.publishNow ask p).world :=
  peopled_iff.2 ((peopled_iff.1 h).publishNow sort_mem hp)

theorem withdraw (h : Peopled providers w) (hp : p ∈ providers) :
    Peopled providers (w.withdraw ask p) :=
  peopled_iff.2 ((peopled_iff.1 h).withdraw sort_mem hp)

theorem move (h : Peopled providers w) (hmove : MoveAmong ask providers w w') :
    Peopled providers w' :=
  peopled_iff.2 ((peopled_iff.1 h).move sort_mem hmove)

end Peopled

end Kept

end Moves

end ServicePublisher
