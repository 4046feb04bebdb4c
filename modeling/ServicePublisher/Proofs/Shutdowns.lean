import ServicePublisher.Proofs.Traces

/-! Shutdown of a fleet. The table of the published is read once, and every withdrawal removes from
that same table; still each published provider is withdrawn once, in the order of creation, whatever
the collaborators answer, and nothing is left in the books. -/
namespace ServicePublisher

open World

variable {σ : Type} {ask : Ask σ} {fleet : Fleet} {w w' w'' : World σ} {p q : Provider}
  {ps : List Provider} {made : List Exchange}

section Entries

/-- Whoever is entered as published is entered in its group, under its number. -/
def Enlisted (w : World σ) : Prop :=
  ∀ (g m : Nat) q, (w.services g).published[m]? = some q → q.group = g ∧ q.number = m

theorem enlisted_start (outside : σ) : Enlisted (World.start outside) := by
  intro g m q hq
  simp [World.start, services] at hq

theorem Enlisted.congr (h : Enlisted w)
    (hpublished : ∀ g, (w'.services g).published = (w.services g).published) : Enlisted w' := by
  intro g m q hq
  rw [hpublished] at hq
  exact h g m q hq

theorem Enlisted.rebooked (h : Enlisted w) {s : ProviderState} {l : Option Listener} {n : Nat}
    {t : Option Provider} (hr : Rebooked w w' p s l n t)
    (hentry : ∀ q, t = some q → w.entry p = some q ∨ q = p) : Enlisted w' := by
  intro g m q hq
  rw [hr.published] at hq
  split at hq
  · next hplace =>
    obtain hold | rfl := hentry q hq
    · obtain ⟨rfl, rfl⟩ := hplace
      exact h _ _ q hold
    · exact hplace
  · exact h g m q hq

theorem Enlisted.publishNow (h : Enlisted w) : Enlisted (w.publishNow ask p).world := by
  have hcourse := publishNow_course ask w p
  generalize w.publishNow ask p = outcome at hcourse
  cases hcourse with
  | already hpublished => exact h
  | unfit hpublished hcheck => exact h
  | refused hpublished hcheck hlimit => exact h.rebooked (rebooked_prepared w p) fun _ => .inl
  | failed hpublished hcheck hlimit hattempt =>
    exact h.rebooked (rebooked_failed hlimit hattempt) fun _ => .inl
  | done hpublished hcheck hlimit hattempt =>
    exact h.rebooked (rebooked_done hlimit hattempt) fun _ hq => .inr (Option.some.inj hq).symm

theorem Enlisted.withdraw (h : Enlisted w) : Enlisted (w.withdraw ask p) := by
  cases hpublished : w.isPublished p with
  | false =>
    rw [withdraw_unpublished ask hpublished]
    exact h
  | true => exact h.rebooked (rebooked_withdraw hpublished) nofun

theorem Enlisted.move (h : Enlisted w) (hmove : Move ask fleet w w') : Enlisted w' := by
  cases hmove with
  | publish hp => exact h.publishNow
  | withdraw hp => exact h.withdraw
  | schedule hp due => exact h
  | unschedule i => exact h
  | write hwrite => exact h
  | log hn => exact h
  | build s => exact h.congr (sameBooks_build ask w s).published
  | lookUp g r => exact h.congr (sameBooks_registryFor ask w g r).published

/-- Besides what all reachable states have in common, the published are entered where they
belong. -/
structure Orderly (fleet : Fleet) (w : World σ) : Prop extends Supplied fleet w where
  enlisted : Enlisted w

theorem Orderly.afterAll (h : Orderly fleet w) (ask : Ask σ) {ops : List Operation}
    (hops : ∀ op ∈ ops, op.Within fleet) : Orderly fleet (run ask ops w) :=
  run_keeps ask (fun _ h => h.toClosed)
    (fun _ _ h hmove => ⟨h.toSupplied.move hmove, h.enlisted.move hmove⟩) hops h

theorem orderly_run (ask : Ask σ) (outside : σ) {ops : List Operation}
    (hops : ∀ op ∈ ops, op.Within fleet) :
    Orderly fleet (run ask ops (World.start outside)) :=
  Orderly.afterAll ⟨supplied_start fleet outside, enlisted_start outside⟩ ask hops

theorem Orderly.withdraw (h : Orderly fleet w) (hp : p ∈ fleet.members) :
    Orderly fleet (w.withdraw ask p) :=
  ⟨h.toSupplied.withdraw hp, h.enlisted.withdraw⟩

end Entries

section Snapshot

/-- The table lists the published members, and nobody else. -/
theorem Orderly.mem_publishedIn (h : Orderly fleet w) :
    p ∈ w.publishedIn fleet.group ↔ p ∈ fleet.members ∧ w.isPublished p = true := by
  constructor
  · intro hp
    obtain ⟨m, hm⟩ := exists_entry_of_mem_publishedIn hp
    have hmember : p ∈ fleet.members := h.published _ m p hm
    obtain ⟨-, rfl⟩ := h.enlisted _ m p hm
    have hentry := h.entry p hmember
    rw [World.entry, fleet.together p hmember, hm] at hentry
    refine ⟨hmember, ?_⟩
    by_contra hnot
    rw [if_neg hnot] at hentry
    cases hentry
  · rintro ⟨hmember, hlive⟩
    have hentry := h.entry p hmember
    rw [World.entry, fleet.together p hmember, if_pos hlive] at hentry
    exact List.mem_map.2
      ⟨(p.number, p), Std.ExtTreeMap.mem_toList_iff_getElem?_eq_some.2 hentry, rfl⟩

theorem Orderly.number_mem (h : Orderly fleet w) (hp : p ∈ fleet.members) :
    p.number ∈ (w.publishedIn fleet.group).map Provider.number ↔ w.isPublished p = true := by
  constructor
  · intro hnumber
    obtain ⟨q, hq, hsame⟩ := List.mem_map.1 hnumber
    obtain ⟨hmember, hlive⟩ := h.mem_publishedIn.1 hq
    rwa [← fleet.eq_of_number hmember hp hsame]
  · intro hlive
    exact List.mem_map_of_mem (h.mem_publishedIn.2 ⟨hp, hlive⟩)

/-- The table lists the published in the order of their creation. -/
theorem Enlisted.ascending (h : Enlisted w) (g : Nat) :
    (w.publishedIn g).Pairwise fun p q => p.number < q.number := by
  rw [publishedIn, List.pairwise_map]
  refine Std.ExtTreeMap.ordered_keys_toList.imp_of_mem fun {x y} hx hy hxy => ?_
  obtain ⟨-, hxnumber⟩ := h g x.1 x.2 (Std.ExtTreeMap.mem_toList_iff_getElem?_eq_some.1 hx)
  obtain ⟨-, hynumber⟩ := h g y.1 y.2 (Std.ExtTreeMap.mem_toList_iff_getElem?_eq_some.1 hy)
  rw [hxnumber, hynumber]
  exact Nat.compare_eq_lt.1 hxy

theorem Orderly.length_publishedIn (h : Orderly fleet w) :
    (w.publishedIn fleet.group).length = fleet.members.countP w.isPublished := by
  have hlisted : (w.publishedIn fleet.group).Nodup :=
    (h.enlisted.ascending fleet.group).imp fun hlt heq => absurd (heq ▸ hlt) (Nat.lt_irrefl _)
  have hmembers : (fleet.members.filter w.isPublished).Nodup := fleet.numbered.of_map.filter _
  have hperm : (w.publishedIn fleet.group).Perm (fleet.members.filter w.isPublished) := by
    refine (List.perm_ext_iff_of_nodup hlisted hmembers).2 fun p => ?_
    rw [h.mem_publishedIn, List.mem_filter]
  rw [hperm.length_eq, List.countP_eq_length_filter]

end Snapshot

section Withdrawals

/-- Providers are withdrawn one after another. Each is published when its turn comes and not after
it, and all registries and all existing servers of its configuration are asked to forget it. -/
inductive Withdrawals (ask : Ask σ) : List Provider → World σ → List Exchange → World σ → Prop
  | nil (w : World σ) : Withdrawals ask [] w [] w
  | cons {p : Provider} {ps : List Provider} {w w' : World σ} {t : ReleaseTrace}
      {made : List Exchange} (hlive : w.isPublished p = true)
      (ht : t.Of p p.config.announcedIn
        (p.config.servers.filter fun s => w.servers.contains s.serial))
      (hmade : Makes w (w.withdraw ask p) t.calls)
      (hgone : (w.withdraw ask p).isPublished p = false)
      (h : Withdrawals ask ps (w.withdraw ask p) made w') :
      Withdrawals ask (p :: ps) w (t.calls ++ made) w'

theorem isPublished_withdraw_self (hlive : w.isPublished p = true) (q : Provider) :
    (w.withdraw ask p).isPublished q = if p.number = q.number then false else w.isPublished q :=
  isPublished_rebooked (rebooked_withdraw hlive) q

/-- Published members with different numbers can all be withdrawn one after another. -/
theorem Orderly.withdrawals (h : Orderly fleet w) (hascending : ps.Pairwise (·.number < ·.number))
    (hlive : ∀ p ∈ ps, p ∈ fleet.members ∧ w.isPublished p = true) :
    ∃ made, Withdrawals ask ps w made (ps.foldl (fun w p => w.withdraw ask p) w) := by
  induction ps generalizing w with
  | nil => exact ⟨[], .nil w⟩
  | cons p ps ih =>
    obtain ⟨hlater, hascending⟩ := List.pairwise_cons.1 hascending
    obtain ⟨hp, hhere⟩ := hlive p List.mem_cons_self
    obtain ⟨t, ht, hmade⟩ := withdraw_trace ask hhere h.filed (h.stocked p hp hhere)
    have hrest : ∀ q ∈ ps, q ∈ fleet.members ∧ (w.withdraw ask p).isPublished q = true := by
      intro q hq
      obtain ⟨hmember, hbefore⟩ := hlive q (List.mem_cons_of_mem p hq)
      rw [isPublished_withdraw_self hhere, if_neg (Nat.ne_of_lt (hlater q hq))]
      exact ⟨hmember, hbefore⟩
    obtain ⟨made, hmore⟩ := ih (h.withdraw hp) hascending hrest
    refine ⟨t.calls ++ made, .cons hhere ht hmade ?_ hmore⟩
    rw [isPublished_withdraw_self hhere, if_pos rfl]

namespace Withdrawals

theorem makes (h : Withdrawals ask ps w made w') : Makes w w' made := by
  induction h with
  | nil w => exact .refl w
  | cons hlive ht hmade hgone h ih => exact hmade.trans ih

/-- Only who is withdrawn ceases to be published. -/
theorem isPublished (h : Withdrawals ask ps w made w') (q : Provider) :
    w'.isPublished q = if q.number ∈ ps.map Provider.number then false else w.isPublished q := by
  induction h with
  | nil w => simp
  | @cons p ps w w' t made hlive ht hmade hgone h ih =>
    rw [ih, isPublished_withdraw_self hlive]
    by_cases hq : p.number = q.number
    · simp [hq]
    · simp [hq, Ne.symm hq]

/-- Every withdrawal begins one new epoch of its provider. -/
theorem epoch (h : Withdrawals ask ps w made w') (q : Provider) :
    (w'.provider q).epoch = (w.provider q).epoch + (ps.map Provider.number).count q.number := by
  induction h with
  | nil w => simp
  | @cons p ps w w' t made hlive ht hmade hgone h ih =>
    rw [ih, epoch_withdraw, List.map_cons, List.count_cons]
    simp only [beq_iff_eq]
    omega

end Withdrawals

end Withdrawals

section Empty

/-- Where no member is published, nothing is entered and nothing is counted. -/
theorem Orderly.emptied (h : Orderly fleet w)
    (hgone : ∀ p ∈ fleet.members, w.isPublished p = false) :
    (w.services fleet.group).published = ∅ ∧ (w.services fleet.group).counts = ∅ := by
  constructor
  · refine Std.ExtTreeMap.ext_getElem? fun m => ?_
    rw [Std.ExtTreeMap.getElem?_empty, Option.eq_none_iff_forall_ne_some]
    intro q hq
    obtain ⟨hgroup, rfl⟩ := h.enlisted _ m q hq
    have hmember : q ∈ fleet.members := h.published _ _ q hq
    have hentry := h.entry q hmember
    rw [World.entry, hgroup, hq, hgone q hmember] at hentry
    cases hentry
  · refine ExportCounts.ext_count fun k => ?_
    rw [h.count, ExportCounts.count_empty, Fleet.publications, List.countP_eq_zero]
    intro p hp
    simp [hgone p hp]

theorem shutDown_of_empty (ask : Ask σ) {g : Nat} (h : (w.services g).published = ∅) :
    w.shutDown ask g = (0, w.log (.shutDown 0)) := by
  have hnobody : w.publishedIn g = [] := by simp [publishedIn, h]
  simp [shutDown, hnobody]

end Empty

/-- In every state that a run reaches, and whatever the collaborators answer then, a shutdown
withdraws each published member once, in the order of creation, and tells how many there were.
Afterwards nobody is published, both tables are empty, and a second shutdown finds nobody and calls
nobody. -/
theorem shutdown_complete (ask : Ask σ) (outside : σ) {ops : List Operation}
    (hops : ∀ op ∈ ops, op.Within fleet) (ask' : Ask σ) :
    let w := run ask ops (World.start outside)
    let n := (w.shutDown ask' fleet.group).1
    let w' := (w.shutDown ask' fleet.group).2
    n = fleet.members.countP w.isPublished ∧
    (∃ ps made after, ps.length = n ∧ ps.Pairwise (fun p q => p.number < q.number) ∧
      (∀ p, p ∈ ps ↔ p ∈ fleet.members ∧ w.isPublished p = true) ∧
      Withdrawals ask' ps w made after ∧ w' = after.log (.shutDown n) ∧
      w'.exchanges = w.exchanges ++ made) ∧
    (∀ p ∈ fleet.members, w'.isPublished p = false ∧
      (w'.provider p).epoch = (w.provider p).epoch + (w.isPublished p).toNat) ∧
    (w'.services fleet.group).published = ∅ ∧ (w'.services fleet.group).counts = ∅ ∧
    ∀ ask'' : Ask σ, (w'.shutDown ask'' fleet.group).1 = 0 ∧
      (w'.shutDown ask'' fleet.group).2.exchanges = w'.exchanges := by
  intro w n w'
  have horderly : Orderly fleet w := orderly_run ask outside hops
  have hmem (p : Provider) := horderly.mem_publishedIn (p := p)
  have hascending := horderly.enlisted.ascending fleet.group
  obtain ⟨made, hall⟩ := @Orderly.withdrawals σ ask' fleet w _ horderly hascending
    fun p hp => (hmem p).1 hp
  have hshutDown : ∀ op ∈ [Operation.shutDown fleet.group], op.Within fleet := by
    simp [Operation.Within]
  have hafter : Orderly fleet w' := horderly.afterAll ask' hshutDown
  have hgone : ∀ p ∈ fleet.members, w'.isPublished p = false := by
    intro p hp
    have hend : w'.isPublished p = _ := hall.isPublished p
    rw [hend]
    split
    · rfl
    · next hnot => exact Bool.eq_false_iff.2 fun hlive => hnot ((horderly.number_mem hp).2 hlive)
  have honce : ((w.publishedIn fleet.group).map Provider.number).Nodup :=
    List.pairwise_map.2 (hascending.imp Nat.ne_of_lt)
  have hempty := hafter.emptied hgone
  refine ⟨horderly.length_publishedIn, ⟨_, made, _, rfl, hascending, hmem, hall, rfl, ?_⟩,
    fun p hp => ⟨hgone p hp, ?_⟩, hempty.1, hempty.2, fun ask'' => ?_⟩
  · exact (exchanges_log _ _).trans hall.makes
  · have hend : (w'.provider p).epoch = _ := hall.epoch p
    rw [hend, honce.count]
    cases hlive : w.isPublished p with
    | true => rw [if_pos ((horderly.number_mem hp).2 hlive), Bool.toNat_true]
    | false => rw [if_neg (by simp [horderly.number_mem hp, hlive]), Bool.toNat_false]
  · rw [shutDown_of_empty ask'' hempty.1]
    exact ⟨rfl, exchanges_log _ _⟩

/-- Two providers of one key are shut down while every call is refused. -/
theorem shutdown_of_pair :
    let a := smallProvider 0 [smallServer 0] [] 0
    let b := smallProvider 1 [smallServer 0] [] 0
    let fleet := Fleet.pair a b rfl (by decide)
    let ops : List Operation := [.publish b, .publish a]
    let w := run (fun _ (n : Nat) => (none, n + 1)) ops (World.start 0)
    let w' := (w.shutDown (fun _ n => (some (.runtime "refused" none), n)) 0).2
    (∀ op ∈ ops, op.Within fleet) ∧
      (w.shutDown (fun _ n => (some (.runtime "refused" none), n)) 0).1 = 2 ∧
      w'.isPublished a = false ∧ w'.isPublished b = false ∧
      (w'.services 0).counts = ∅ := by
  intro a b fleet ops w w'
  have hops : ∀ op ∈ ops, op.Within fleet := by
    simp [ops, Operation.Within, fleet, Fleet.pair]
  obtain ⟨hn, -, hgone, -, hcounts, -⟩ :=
    shutdown_complete (fun _ (n : Nat) => (none, n + 1)) 0 hops
    fun _ n => (some (.runtime "refused" none), n)
  refine ⟨hops, hn.trans (by decide +kernel), (hgone a List.mem_cons_self).1,
    (hgone b (List.mem_cons_of_mem a List.mem_cons_self)).1, hcounts⟩

end ServicePublisher
