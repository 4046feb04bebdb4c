import Mathlib.Data.List.Nodup
import Mathlib.Logic.Relation
import ServicePublisher.Proofs.Rebooked
import ServicePublisher.Reconfiguration
import ServicePublisher.Schedule
import ServicePublisher.Shutdown

/-! Runs of a group of providers. An operation is broken up into moves, each of which concerns one
provider or one table; a property that all moves keep is kept by all runs. -/
namespace ServicePublisher

open World

/-- The providers that share the services of a group. No two have the same number. -/
structure Fleet where
  group : Nat
  members : List Provider
  together : ∀ p ∈ members, p.group = group
  numbered : (members.map Provider.number).Nodup

namespace Fleet

/-- A provider has its configuration for itself. -/
def Owns (fleet : Fleet) (p : Provider) : Prop :=
  ∀ q ∈ fleet.members, q.config.serial = p.config.serial → q = p

theorem eq_of_number {fleet : Fleet} {p q : Provider} (hp : p ∈ fleet.members)
    (hq : q ∈ fleet.members) (h : p.number = q.number) : p = q :=
  List.inj_on_of_nodup_map fleet.numbered hp hq h

theorem number_ne {fleet : Fleet} {p q : Provider} (hp : p ∈ fleet.members)
    (hq : q ∈ fleet.members) (h : q ≠ p) : p.number ≠ q.number :=
  fun hnumber => h (fleet.eq_of_number hp hq hnumber).symm

end Fleet

/-- What the outside can ask of the publisher; and a scheduled publication, known by its position in
the schedule, can come due. -/
inductive Operation where
  | publish (p : Provider)
  | withdraw (p : Provider)
  | shutDown (group : Nat)
  | notify (c : ProviderConfig) (change : Change)
  | fire (position : Nat)
  | update (c : ProviderConfig) (key : String) (value : Option String) (ignoreIfSame : Bool)
  | build (s : ServerConfig)
  | lookUp (group : Nat) (r : RegistryConfig)

/-- The providers named by an operation belong to the fleet. -/
def Operation.Within (fleet : Fleet) : Operation → Prop
  | .publish p | .withdraw p => p ∈ fleet.members
  | _ => True

/-- Configurations whose attributes an operation writes from outside are of a kind. -/
def Operation.WritesOnly (kind : ProviderConfig → Prop) : Operation → Prop
  | .update c .. => kind c
  | _ => True

theorem Operation.writesOnly_true (op : Operation) : op.WritesOnly fun _ => True := by
  cases op <;> trivial

variable {σ : Type} (ask : Ask σ)

def step : Operation → World σ → World σ
  | .publish p, w => (w.publish ask p).world
  | .withdraw p, w => w.withdraw ask p
  | .shutDown group, w => (w.shutDown ask group).2
  | .notify c change, w => (w.notify ask c change).world
  | .fire i, w => w.fire ask i
  | .update c key value b, w => (w.updateAttribute c key value b).world
  | .build s, w => (w.build ask s).world
  | .lookUp group r, w => (registryFor ask group r w).world

def run : List Operation → World σ → World σ
  | [], w => w
  | op :: ops, w => run ops (step ask op w)

theorem run_append (ops ops' : List Operation) (w : World σ) :
    run ask (ops ++ ops') w = run ask ops' (run ask ops w) := by
  induction ops generalizing w with
  | nil => rfl
  | cons op ops ih => exact ih (step ask op w)

/-- Nothing has happened yet, and no server or registry exists. -/
def World.start (outside : σ) : World σ := { outside }

/-- The moves of which operations consist, when configurations that are written are of a kind. -/
inductive MoveOf (kind : ProviderConfig → Prop) (fleet : Fleet) (w : World σ) : World σ → Prop
  | publish {p : Provider} (hp : p ∈ fleet.members) :
      MoveOf kind fleet w (w.publishNow ask p).world
  | withdraw {p : Provider} (hp : p ∈ fleet.members) : MoveOf kind fleet w (w.withdraw ask p)
  | schedule {p : Provider} (hp : p ∈ fleet.members) (due : Nat) :
      MoveOf kind fleet w { w with scheduled := w.scheduled ++ [⟨p, (w.provider p).epoch, due⟩] }
  | unschedule (i : Nat) : MoveOf kind fleet w { w with scheduled := w.scheduled.eraseIdx i }
  | write {c : ProviderConfig} {key : String} {value : Option String} {b : Bool}
      {r : Bool × Attributes} {hc : kind c}
      (h : c.update (w.config c).attributes key value b = .ok r) :
      MoveOf kind fleet w (w.modifyConfig c fun s => { s with attributes := r.2 })
  | log {n : Notice} (hn : n.boundKey? = none) : MoveOf kind fleet w (w.log n)
  | build (s : ServerConfig) : MoveOf kind fleet w (w.build ask s).world
  | lookUp (g : Nat) (r : RegistryConfig) : MoveOf kind fleet w (registryFor ask g r w).world

abbrev Move : Fleet → World σ → World σ → Prop := MoveOf ask fun _ => True

abbrev Moves (kind : ProviderConfig → Prop) (fleet : Fleet) : World σ → World σ → Prop :=
  Relation.ReflTransGen (MoveOf ask kind fleet)

/-- Only members are scheduled, entered as published, or listening. -/
structure Closed (fleet : Fleet) (w : World σ) : Prop where
  scheduled : ∀ s ∈ w.scheduled, s.provider ∈ fleet.members
  published : ∀ (g m : Nat) q, (w.services g).published[m]? = some q → q ∈ fleet.members
  listening : ∀ n l, w.listenerAt n = some l → ∃ p ∈ fleet.members, l = .republish p

section Moves

variable {ask} {kind : ProviderConfig → Prop} {fleet : Fleet} {w : World σ} {p : Provider}

theorem MoveOf.move {w' : World σ} (h : MoveOf ask kind fleet w w') : Move ask fleet w w' := by
  cases h with
  | publish hp => exact .publish hp
  | withdraw hp => exact .withdraw hp
  | schedule hp due => exact .schedule hp due
  | unschedule i => exact .unschedule i
  | write hwrite => exact @MoveOf.write _ _ _ _ _ _ _ _ _ _ trivial hwrite
  | log hn => exact .log hn
  | build s => exact .build s
  | lookUp g r => exact .lookUp g r

theorem moves_report {c : ProviderConfig} {n : ProviderNotice}
    (hn : (Notice.ofProvider c.appName c.key n).boundKey? = none) :
    Moves ask kind fleet w (w.report c n) :=
  .single (.log hn)

theorem moves_publish (hp : p ∈ fleet.members) :
    Moves ask kind fleet w (w.publish ask p).world := by
  rw [publish]
  dsimp only
  split
  · exact .single (.publish hp)
  · split
    · exact .refl
    · exact .tail (.single (.schedule hp _)) (.log rfl)

section Writes

variable {c : ProviderConfig} (hc : kind c)
include hc

theorem moves_updateAttribute (key : String) (value : Option String) (b : Bool) :
    Moves ask kind fleet w (w.updateAttribute c key value b).world := by
  rw [updateAttribute]
  cases h : c.update (w.config c).attributes key value b with
  | error e => exact .refl
  | ok r => exact .single (@MoveOf.write _ _ _ _ _ _ _ _ _ _ hc h)

theorem moves_updateAll (updates : List (String × Option String)) :
    Moves ask kind fleet w (updateAll c updates w).world := by
  induction updates generalizing w with
  | nil => exact .refl
  | cons u rest ih =>
    have hfirst : Moves ask kind fleet w (w.updateAttribute c u.1 u.2 true).world :=
      moves_updateAttribute hc u.1 u.2 true
    rw [updateAll]
    generalize w.updateAttribute c u.1 u.2 true = outcome at hfirst ⊢
    obtain ⟨result, w'⟩ := outcome
    cases result with
    | error e => exact hfirst
    | ok b => exact hfirst.trans ih

theorem moves_restore (old : List (String × Option String)) :
    Moves ask kind fleet w (restore c old w) := by
  induction old generalizing w with
  | nil => exact .refl
  | cons u rest ih =>
    have hfirst : Moves ask kind fleet w (w.updateAttribute c u.1 u.2 true).world :=
      moves_updateAttribute hc u.1 u.2 true
    rw [restore]
    generalize w.updateAttribute c u.1 u.2 true = outcome at hfirst ⊢
    obtain ⟨result, w'⟩ := outcome
    cases result with
    | error e => exact (hfirst.trans (moves_report rfl)).trans ih
    | ok b => exact hfirst.trans ih

end Writes

section Changes

variable (hp : p ∈ fleet.members) (hkind : kind p.config)
include hp hkind

/-- All that follows the withdrawal. -/
theorem moves_republish_withdrawn (updates : List (String × Option String)) :
    Moves ask kind fleet (w.withdraw ask p) (w.republish ask p updates).world := by
  have hwritten : Moves ask kind fleet (w.withdraw ask p)
      (updateAll p.config updates (w.withdraw ask p)).world := moves_updateAll hkind updates
  rw [republish]
  generalize updateAll p.config updates (w.withdraw ask p) = outcome at hwritten ⊢
  obtain ⟨result, w'⟩ := outcome
  cases result with
  | error e => exact hwritten
  | ok u => exact hwritten.trans (moves_publish hp)

theorem moves_republish (updates : List (String × Option String)) :
    Moves ask kind fleet w (w.republish ask p updates).world :=
  .head (.withdraw hp) (moves_republish_withdrawn hp hkind updates)

theorem moves_rollBack (old : List (String × Option String)) :
    Moves ask kind fleet w (w.rollBack ask p old).world := by
  have hpublished : Moves ask kind fleet w ((restore p.config old w).publish ask p).world :=
    (moves_restore hkind old).trans (moves_publish hp)
  rw [rollBack]
  generalize (restore p.config old w).publish ask p = outcome at hpublished ⊢
  obtain ⟨result, w'⟩ := outcome
  cases result with
  | error e => exact hpublished.trans (moves_report rfl)
  | ok u => exact hpublished

theorem moves_reconfigure (updates : List (String × Option String)) :
    Moves ask kind fleet w (w.reconfigure ask p updates).world := by
  have hagain : Moves ask kind fleet w
      ((w.report p.config .republishing).republish ask p updates).world :=
    (moves_report rfl).trans (moves_republish hp hkind updates)
  rw [reconfigure]
  split
  · exact moves_report rfl
  · exact .refl
  · generalize (w.report p.config .republishing).republish ask p updates = outcome at hagain ⊢
    obtain ⟨result, w'⟩ := outcome
    cases result with
    | ok u => exact hagain
    | error e => exact (hagain.trans (moves_report rfl)).trans (moves_rollBack hp hkind _)

end Changes

/-- Only whoever listens to the configuration is concerned. -/
theorem moves_notify (hkind : ∀ p ∈ fleet.members, kind p.config) (c : ProviderConfig)
    (hlistening : ∀ l, w.listenerAt c.serial = some l → ∃ p ∈ fleet.members, l = .republish p)
    (change : Change) : Moves ask kind fleet w (w.notify ask c change).world := by
  unfold notify
  rw [listener_config]
  cases hl : w.listenerAt c.serial with
  | none => exact .refl
  | some l =>
    obtain ⟨p, hp, rfl⟩ := hlistening l hl
    cases change with
    | replaced values => exact .refl
    | updated values =>
      dsimp only
      split
      · exact moves_reconfigure hp (hkind p hp) values.toList
      · exact .refl

/-- Only the provider scheduled at the position is concerned. -/
theorem moves_fire {i : Nat}
    (hscheduled : ∀ s, w.scheduled[i]? = some s → s.provider ∈ fleet.members) :
    Moves ask kind fleet w (w.fire ask i) := by
  rw [fire]
  cases hs : w.scheduled[i]? with
  | none => exact .refl
  | some s =>
    have hp := hscheduled s hs
    refine .head (.unschedule i) ?_
    generalize { w with scheduled := w.scheduled.eraseIdx i } = w'
    dsimp only
    rw [carryOut]
    split
    · exact moves_report rfl
    · have hpublished : Moves ask kind fleet w' (w'.publishNow ask s.provider).world :=
        .single (.publish hp)
      generalize w'.publishNow ask s.provider = outcome at hpublished ⊢
      obtain ⟨result, w''⟩ := outcome
      cases result with
      | ok u => exact hpublished
      | error e => exact hpublished.trans (moves_report rfl)

theorem exists_entry_of_mem_publishedIn {g : Nat} (hp : p ∈ w.publishedIn g) :
    ∃ m : Nat, (w.services g).published[m]? = some p := by
  obtain ⟨⟨m, q⟩, hq, rfl⟩ := List.mem_map.1 hp
  exact ⟨m, Std.ExtTreeMap.mem_toList_iff_getElem?_eq_some.1 hq⟩

theorem reaches_withdrawals {R : World σ → World σ → Prop} {ps : List Provider}
    (hwithdraw : ∀ w : World σ, ∀ p ∈ ps, R w (w.withdraw ask p)) :
    Relation.ReflTransGen R w (ps.foldl (fun w p => w.withdraw ask p) w) := by
  induction ps generalizing w with
  | nil => exact .refl
  | cons p ps ih =>
    exact .head (hwithdraw w p List.mem_cons_self)
      (ih fun w q hq => hwithdraw w q (List.mem_cons_of_mem p hq))

theorem moves_shutDown (hclosed : Closed fleet w) (g : Nat) :
    Moves ask kind fleet w (w.shutDown ask g).2 := by
  have hmembers : ∀ p ∈ w.publishedIn g, p ∈ fleet.members := by
    intro p hp
    obtain ⟨m, hm⟩ := exists_entry_of_mem_publishedIn hp
    exact hclosed.published g m p hm
  exact (reaches_withdrawals fun _ p hp => .withdraw (hmembers p hp)).tail (.log rfl)

/-- Every operation on a closed state consists of moves. -/
theorem moves_step (hkind : ∀ p ∈ fleet.members, kind p.config) (hclosed : Closed fleet w)
    {op : Operation} (hop : op.Within fleet) (hwrites : op.WritesOnly kind) :
    Moves ask kind fleet w (step ask op w) := by
  cases op with
  | publish p => exact moves_publish hop
  | withdraw p => exact .single (.withdraw hop)
  | shutDown g => exact moves_shutDown hclosed g
  | notify c change => exact moves_notify hkind c (hclosed.listening _) change
  | fire i => exact moves_fire fun s hs => hclosed.scheduled s (List.mem_of_getElem? hs)
  | update c key value b => exact moves_updateAttribute hwrites key value b
  | build s => exact .single (.build s)
  | lookUp g r => exact .single (.lookUp g r)

end Moves

/-- A publication asked for while nothing is scheduled has happened, up to log lines, once the first
one scheduled has come due. -/
theorem run_publish_fire {ask : Ask σ} {p : Provider} {R Q : World σ → Prop}
    (hbefore : ∀ w n, R w → R (w.log n)) (hafter : ∀ w n, Q w → Q (w.log n))
    (hnow : ∀ w, R w → Q (w.publishNow ask p).world) (hidle : ∀ w, Q w → w.scheduled = [])
    {w : World σ} (hw : R w) (hscheduled : w.scheduled = [])
    (hunpublished : w.isPublished p = false) :
    Q (run ask [.publish p, .fire 0] w) := by
  change Q ((w.publish ask p).world.fire ask 0)
  rw [World.publish]
  by_cases hdelay : p.config.delayMs = 0
  · have hpublished := hnow w hw
    simp only [hdelay, if_true]
    rw [fire, hidle _ hpublished]
    exact hpublished
  · obtain ⟨outside, clock, configs, providers, servers, groups, scheduled, events⟩ := w
    obtain rfl : scheduled = [] := hscheduled
    simp only [hdelay, if_false, hunpublished, Bool.false_eq_true]
    have hpublished := hnow _ (hbefore _ (.ofProvider p.config.appName p.config.key
      (.publicationScheduled p.config.delayMs)) hw)
    -- What was scheduled is carried out in the state in which that was logged.
    generalize hlogged : World.log _ (.ofProvider p.config.appName p.config.key
      (.publicationScheduled p.config.delayMs)) = w₁ at hpublished
    have hfired : ∀ due, Q (w₁.carryOut ask ⟨p, (w₁.provider p).epoch, due⟩) := by
      intro due
      rw [carryOut, if_neg (not_not.2 rfl)]
      generalize w₁.publishNow ask p = outcome at hpublished ⊢
      obtain ⟨result, w₂⟩ := outcome
      cases result with
      | ok u => exact hpublished
      | error e => exact hafter _ _ hpublished
    subst hlogged
    exact hfired _

/-- What holds at first, implies that only members are about, and is kept by every move, holds in
every state that a run reaches; and so it does if only moves keep it that write configurations of a
kind, and the run writes no others. -/
theorem run_keeps_of_kind {kind : ProviderConfig → Prop} {fleet : Fleet} {I : World σ → Prop}
    (hkind : ∀ p ∈ fleet.members, kind p.config) (hclosed : ∀ w, I w → Closed fleet w)
    (hmove : ∀ w w', I w → MoveOf ask kind fleet w w' → I w') {ops : List Operation}
    (hops : ∀ op ∈ ops, op.Within fleet ∧ op.WritesOnly kind) {w : World σ} (h : I w) :
    I (run ask ops w) := by
  have hmoves : ∀ w w', I w → Moves ask kind fleet w w' → I w' := by
    intro w w' hw hmoves
    induction hmoves with
    | refl => exact hw
    | tail _ hlast ih => exact hmove _ _ ih hlast
  induction ops generalizing w with
  | nil => exact h
  | cons op ops ih =>
    obtain ⟨hwithin, hwrites⟩ := hops op List.mem_cons_self
    have hstep : Moves ask kind fleet w (step ask op w) :=
      moves_step hkind (hclosed w h) hwithin hwrites
    exact ih (fun op' hop' => hops op' (List.mem_cons_of_mem op hop')) (hmoves w _ h hstep)

theorem run_keeps {fleet : Fleet} {I : World σ → Prop} (hclosed : ∀ w, I w → Closed fleet w)
    (hmove : ∀ w w', I w → Move ask fleet w w' → I w') {ops : List Operation}
    (hops : ∀ op ∈ ops, op.Within fleet) {w : World σ} (h : I w) : I (run ask ops w) := by
  exact run_keeps_of_kind ask (fun _ _ => trivial) hclosed hmove
    (fun op hop => ⟨hops op hop, op.writesOnly_true⟩) h

end ServicePublisher
