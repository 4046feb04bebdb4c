import Mathlib.Data.Finset.Card
import ServicePublisher.Proofs.Accepting
import ServicePublisher.Proofs.Coherence
import ServicePublisher.Proofs.Conduct

/-! Publications that contend for one key. Calls to publish providers of one key share its count and
nothing else, so what becomes of them does not depend on the order in which they take effect:
without a limit all succeed, and each provider is bound once; with a limit as many succeed as there
is room for. -/
namespace ServicePublisher

open World

variable {σ α β : Type} {ask : Ask σ} {w w' : World σ} {p : Provider}

section Registrations

/-- The server that is given an invoker of the provider with a number, if that is asked. -/
def Call.registration? (number : Nat) : Call → Option ServerConfig
  | .server s (.register _ v) => if v.provider = number then some s else none
  | _ => none

namespace World

/-- The servers that were given an invoker of a provider, one for each call. -/
def registrations (w : World σ) (p : Provider) : List ServerConfig :=
  w.exchanges.filterMap fun x => x.1.registration? p.number

theorem Makes.registrations {made : List Exchange} (h : Makes w w' made) (p : Provider) :
    w'.registrations p =
      w.registrations p ++ made.filterMap fun x => x.1.registration? p.number := by
  rw [World.registrations, h, List.filterMap_append]
  rfl

theorem registrations_of_exchanges (h : w'.exchanges = w.exchanges) (p : Provider) :
    w'.registrations p = w.registrations p := by
  rw [registrations, h, registrations]

end World

/-- Calls that are made in turn have all been made when none was refused. -/
theorem InTurn.complete {calls : List Call} {made : List Exchange} (h : InTurn calls made)
    (he : firstRefusal made = none) : made = calls.map fun c => (c, none) := by
  induction h with
  | done => rfl
  | refused c calls e => cases he
  | accepted c h ih => rw [List.map_cons, ih he]

/-- What is collected on a walk that no stop ends. -/
theorem visitAll_collects {visit : α → World σ → Stop σ}
    {report : World σ → α → ProviderError → World σ} {f : World σ → List β} {g : α → List β}
    (hvisit : ∀ x w, (visit x w).outcome.result = .ok () ∧
      f (visit x w).outcome.world = f w ++ g x) (xs : List α) (w : World σ) :
    f (visitAll visit report xs w).outcome.world = f w ++ xs.flatMap g := by
  induction xs generalizing w with
  | nil => exact (List.append_nil _).symm
  | cons x xs ih =>
    obtain ⟨hok, hhere⟩ := hvisit x w
    rw [visitAll]
    generalize visit x w = stop at hok hhere
    obtain ⟨accepted, result, w₁⟩ := stop
    cases hok
    dsimp only at hhere
    rw [List.flatMap_cons, ← List.append_assoc, ← hhere]
    exact ih w₁

namespace World

theorem registrations_perform_registry (ask : Ask σ) (w : World σ) (g : Nat) (r : RegistryConfig)
    (request : RegistryRequest) (q : Provider) :
    (w.perform ask (.registry g r request)).world.registrations q = w.registrations q := by
  obtain ⟨made, hturn, hmade, -, -⟩ := conducts_perform ask w (.registry g r request)
  have hnone : made.filterMap (fun x => x.1.registration? q.number) = [] := by
    refine List.filterMap_eq_nil_iff.2 fun x hx => ?_
    rw [List.mem_singleton.1 (hturn.mem hx)]
    rfl
  rw [hmade.registrations, hnone, List.append_nil]

theorem registrations_prime (ask : Ask σ) (w : World σ) (g : Nat)
    (registries : List RegistryConfig) (q : Provider) :
    (prime ask g registries w).world.registrations q = w.registrations q :=
  prime_keeps (P := fun w' => w'.registrations q = w.registrations q)
    (fun w' r _ h => (registrations_perform_registry ask w' g r _ q).trans h)
    (fun w' _ _ h => (registrations_of_exchanges (exchanges_log w' _) q).trans h) rfl

theorem registrations_announce (ask : Ask σ) (w : World σ) (p q : Provider) :
    (w.announce ask p).outcome.world.registrations q = w.registrations q :=
  announce_keeps (P := fun w' => w'.registrations q = w.registrations q)
    (fun w' r request _ h => (registrations_perform_registry ask w' p.group r request q).trans h)
    (fun w' _ _ h => (registrations_of_exchanges (exchanges_log w' _) q).trans h) rfl

theorem registrations_bindServer (haccepts : ask.Accepts) (c : ProviderConfig) (v : Invoker)
    (s : ServerConfig) (w : World σ) (q : Provider) :
    (bindServer ask c v s w).outcome.world.registrations q =
      w.registrations q ++ if v.provider = q.number then [s] else [] := by
  obtain ⟨made, hturn, hmade, -, he⟩ := conducts_bindServer ask w c v s
  have hok := (bindServer_of_accepts haccepts c v s w).2
  rw [Outcome.error?_eq_none_iff.2 hok] at he
  rw [hmade.registrations, hturn.complete he.symm, creating, ServerConfig.bindingCalls]
  split <;> split <;> split <;> simp_all [Call.registration?]

theorem registrations_bindServers (haccepts : ask.Accepts) (c : ProviderConfig) (v : Invoker)
    (w : World σ) (q : Provider) :
    (w.bindServers ask c v).outcome.world.registrations q =
      w.registrations q ++ if v.provider = q.number then c.servers else [] := by
  rw [bindServers, visitAll_collects (f := fun w => w.registrations q)
    (g := fun s => if v.provider = q.number then [s] else []) fun s w =>
      ⟨(bindServer_of_accepts haccepts c v s w).2, registrations_bindServer haccepts c v s w q⟩]
  split
  · rw [List.flatMap_singleton']
  · simp

theorem registrations_attempt (haccepts : ask.Accepts) (w : World σ) (p q : Provider) :
    (w.attempt ask p).outcome.world.registrations q =
      w.registrations q ++ if p.number = q.number then p.config.servers else [] := by
  have hprimed := registrations_prime ask (w.openInvoker p) p.group p.config.announcedIn q
  have hcourse := attempt_course ask w p
  generalize w.attempt ask p = a at hcourse
  cases hcourse with
  | unprimed hprime =>
    have hok := prime_of_accepts haccepts p.group p.config.announcedIn (w.openInvoker p)
    rw [hprime] at hok
    cases hok
  | @unbound w₁ e hprime hbound =>
    have hok := (bindServers_of_accepts haccepts p.config (w.nextInvoker p) w₁).2
    rw [boundAfter, hok] at hbound
    cases hbound
  | @announced w₁ hprime hbound =>
    rw [hprime] at hprimed
    have hlistening : (listening p (w.boundAfter ask p w₁)).exchanges =
        (w.boundAfter ask p w₁).outcome.world.exchanges := exchanges_log _ _
    rw [registrations_announce, registrations_of_exchanges hlistening, boundAfter,
      registrations_bindServers haccepts, hprimed]
    rfl

end World

end Registrations

section Steps

/-- The provider is published from now on: it is counted, and all its servers were given an invoker;
nothing like this happens to others. -/
structure World.Joins (w w' : World σ) (p : Provider) : Prop where
  isPublished : ∀ q, w'.isPublished q = (decide (p.number = q.number) || w.isPublished q)
  count : (w'.services p.group).counts.count p.config.key =
    (w.services p.group).counts.count p.config.key + 1
  registrations : ∀ q, w'.registrations q =
    w.registrations q ++ if p.number = q.number then p.config.servers else []

/-- As far as publications go nothing has happened. -/
structure World.Stays (w w' : World σ) : Prop where
  isPublished : ∀ q, w'.isPublished q = w.isPublished q
  count : ∀ g k, (w'.services g).counts.count k = (w.services g).counts.count k
  registrations : ∀ q, w'.registrations q = w.registrations q

theorem publishNow_joins (haccepts : ask.Accepts) (hpublished : w.isPublished p = false)
    (hcheck : p.config.check = .ok ()) (hroom : w.HasRoom p) :
    (w.publishNow ask p).result = .ok () ∧ w.Joins (w.publishNow ask p).world p := by
  obtain ⟨hok, hbooked, -⟩ := publishNow_of_room haccepts hpublished hcheck hroom
  refine ⟨hok, fun q => ?_, hbooked.liveCount_self, fun q => ?_⟩
  · rw [isPublished_rebooked hbooked]
    by_cases hq : p.number = q.number <;> simp [hq]
  · have hcourse := publishNow_course ask w p
    generalize w.publishNow ask p = outcome at hcourse hok
    cases hcourse with
    | already hlive => simp [hpublished] at hlive
    | unfit _ hunfit => cases hok
    | refused _ _ hlimit => cases hok
    | failed _ _ hlimit hattempt => cases hok
    | @done _ _ n counts hlimit hattempt =>
      have hattempted := registrations_attempt haccepts (w.admitted p n counts) p q
      rw [registrations_of_exchanges (exchanges_admitted w p n counts)] at hattempted
      exact hattempted

theorem stays_prepared (w : World σ) (p : Provider) : w.Stays (w.prepared p) where
  isPublished q := by rw [isPublished, provider_prepared, isPublished]
  count g k := by rw [counts_prepared]
  registrations q := registrations_of_exchanges (exchanges_prepared w p) q

end Steps

section Contests

/-- Providers of one group and one key that are fit to be published at once. -/
structure Contenders (g : Nat) (k : ServiceKey) (calls : List Provider) : Prop where
  group : ∀ p ∈ calls, p.group = g
  key : ∀ p ∈ calls, p.config.key = k
  atOnce : ∀ p ∈ calls, p.config.delayMs = 0
  fit : ∀ p ∈ calls, p.config.check = .ok ()
  numbered : ∀ p ∈ calls, ∀ q ∈ calls, p.number = q.number → p = q

namespace World

/-- Publishes providers one after another, and tells how each publication ended. -/
def publishEach (ask : Ask σ) : List Provider → World σ → List (Except ProviderError Unit) × World σ
  | [], w => ([], w)
  | p :: ps, w =>
    let outcome := w.publish ask p
    let (results, w) := publishEach ask ps outcome.world
    (outcome.result :: results, w)

theorem publishEach_append (ask : Ask σ) (ps qs : List Provider) (w : World σ) :
    publishEach ask (ps ++ qs) w =
      let (results, w') := publishEach ask ps w
      let (more, w'') := publishEach ask qs w'
      (results ++ more, w'') := by
  induction ps generalizing w with
  | nil => rfl
  | cons p ps ih =>
    rw [List.cons_append, publishEach, ih]
    rfl

theorem run_publish (ask : Ask σ) (ps : List Provider) (w : World σ) :
    run ask (ps.map .publish) w = (publishEach ask ps w).2 := by
  induction ps generalizing w with
  | nil => rfl
  | cons p ps ih => exact ih (w.publish ask p).world

def newcomers (w : World σ) (calls : List Provider) : Finset Nat :=
  ((calls.filter fun p => !w.isPublished p).map Provider.number).toFinset

theorem mem_newcomers {calls : List Provider} {n : Nat} :
    n ∈ w.newcomers calls ↔ ∃ p ∈ calls, w.isPublished p = false ∧ p.number = n := by
  simp [newcomers, and_assoc]

theorem isPublished_congr (w : World σ) {q : Provider} (h : p.number = q.number) :
    w.isPublished p = w.isPublished q := by
  rw [isPublished, isPublished, provider, provider, h]

theorem newcomers_published (h : w.isPublished p = true) (ps : List Provider) :
    w.newcomers (p :: ps) = w.newcomers ps := by
  rw [newcomers, List.filter_cons_of_neg (by simp [h]), newcomers]

/-- Whoever joins was a newcomer, and the others still are. -/
theorem Joins.newcomers (h : w.Joins w' p) (hp : w.isPublished p = false) (ps : List Provider) :
    p.number ∉ w'.newcomers ps ∧ w.newcomers (p :: ps) = insert p.number (w'.newcomers ps) := by
  constructor
  · intro hmem
    obtain ⟨q, -, hq, hnumber⟩ := mem_newcomers.1 hmem
    simp [h.isPublished, hnumber] at hq
  · ext n
    simp only [mem_newcomers, Finset.mem_insert, List.mem_cons, h.isPublished]
    constructor
    · rintro ⟨q, rfl | hq, hnew, rfl⟩
      · exact .inl rfl
      · by_cases hnumber : p.number = q.number
        · exact .inl hnumber.symm
        · exact .inr ⟨q, hq, by simp [hnumber, hnew], rfl⟩
    · rintro (rfl | ⟨q, hq, hnew, rfl⟩)
      · exact ⟨p, .inl rfl, hp, rfl⟩
      · exact ⟨q, .inr hq, (Bool.or_eq_false_iff.1 hnew).2, rfl⟩

end World

variable {g : Nat} {k : ServiceKey} {calls : List Provider}

theorem Contenders.subset (h : Contenders g k calls) {ps : List Provider}
    (hps : ∀ p ∈ ps, p ∈ calls) : Contenders g k ps where
  group p hp := h.group p (hps p hp)
  key p hp := h.key p (hps p hp)
  atOnce p hp := h.atOnce p (hps p hp)
  fit p hp := h.fit p (hps p hp)
  numbered p hp q hq := h.numbered p (hps p hp) q (hps q hq)

theorem Contenders.publish_of_room (haccepts : ask.Accepts) (h : Contenders g k calls)
    (hp : p ∈ calls) (hpublished : w.isPublished p = false)
    (hroom : p.config.repeatLimit.toInt ≤ 0 ∨
      ((w.services g).counts.count k : Int) < p.config.repeatLimit.toInt) :
    (w.publish ask p).result = .ok () ∧ w.Joins (w.publish ask p).world p ∧
      ((w.publish ask p).world.services g).counts.count k =
        (w.services g).counts.count k + 1 := by
  rw [publish_at_once ask w (h.atOnce p hp)]
  have hroom' : w.HasRoom p := by
    rwa [HasRoom, liveCount, h.group p hp, h.key p hp]
  obtain ⟨hok, hjoins⟩ := publishNow_joins haccepts hpublished (h.fit p hp) hroom'
  have hcounted := hjoins.count
  rw [h.group p hp, h.key p hp] at hcounted
  exact ⟨hok, hjoins, hcounted⟩

theorem Contenders.publish_of_full (ask : Ask σ) (h : Contenders g k calls) (hp : p ∈ calls)
    (hpublished : w.isPublished p = false) {limit : Nat} (hpositive : 0 < limit)
    (hlimit : p.config.repeatLimit.toInt = limit) (hfull : limit ≤ (w.services g).counts.count k) :
    w.publish ask p = ⟨.error (.duplicate k.text limit), w.prepared p⟩ := by
  have hfull' : ¬w.HasRoom p := by
    rw [HasRoom, liveCount, h.group p hp, h.key p hp, hlimit]
    omega
  rw [publish_at_once ask w (h.atOnce p hp), publishNow_of_full ask hpublished (h.fit p hp) hfull',
    h.key p hp, hlimit, Int.toNat_natCast]

/-- Without limits all publications succeed, and every newcomer is counted and bound once. -/
theorem publishEach_unlimited (haccepts : ask.Accepts) (h : Contenders g k calls)
    (hlimit : ∀ p ∈ calls, p.config.repeatLimit.toInt ≤ 0) {ps : List Provider}
    (hps : ∀ p ∈ ps, p ∈ calls) (w : World σ) :
    (publishEach ask ps w).1 = List.replicate ps.length (.ok ()) ∧
      ((publishEach ask ps w).2.services g).counts.count k =
        (w.services g).counts.count k + (w.newcomers ps).card ∧
      ∀ q ∈ calls, (publishEach ask ps w).2.registrations q =
        w.registrations q ++ if q.number ∈ w.newcomers ps then q.config.servers else [] := by
  induction ps generalizing w with
  | nil => simp [publishEach, World.newcomers]
  | cons p ps ih =>
    have hp := hps p List.mem_cons_self
    have hrest := ih fun q hq => hps q (List.mem_cons_of_mem p hq)
    cases hpublished : w.isPublished p with
    | true =>
      obtain ⟨hresults, hcount, hregistrations⟩ := hrest w
      rw [publishEach, publish_at_once ask w (h.atOnce p hp), publishNow_published ask hpublished,
        newcomers_published hpublished]
      exact ⟨congrArg _ hresults, hcount, hregistrations⟩
    | false =>
      obtain ⟨hok, hjoins, hcounted⟩ := h.publish_of_room haccepts hp hpublished
        (.inl (hlimit p hp))
      obtain ⟨hresults, hcount, hregistrations⟩ := hrest (w.publish ask p).world
      obtain ⟨hfresh, hnewcomers⟩ := hjoins.newcomers hpublished ps
      rw [publishEach]
      refine ⟨?_, ?_, fun q hq => ?_⟩
      · dsimp only
        rw [hok, hresults]
        rfl
      · dsimp only
        rw [hcount, hcounted, hnewcomers, Finset.card_insert_of_notMem hfresh]
        omega
      · dsimp only
        rw [hregistrations q hq, hjoins.registrations, hnewcomers]
        by_cases hnumber : p.number = q.number
        · obtain rfl := h.numbered p hp q hq hnumber
          simp [hfresh]
        · simp [hnumber, Ne.symm hnumber]

section Limits

variable {limit : Nat} {ps : List Provider}

/-- As long as there is room for all of them, newcomers are published. -/
theorem publishEach_of_room (haccepts : ask.Accepts) (h : Contenders g k ps)
    (hlimit : ∀ p ∈ ps, p.config.repeatLimit.toInt = limit)
    (hdistinct : (ps.map Provider.number).Nodup) (w : World σ)
    (hnew : ∀ p ∈ ps, w.isPublished p = false)
    (hroom : ps.length ≤ limit - (w.services g).counts.count k) :
    (publishEach ask ps w).1 = List.replicate ps.length (.ok ()) ∧
      ((publishEach ask ps w).2.services g).counts.count k =
        (w.services g).counts.count k + ps.length ∧
      ∀ q, q.number ∉ ps.map Provider.number →
        (publishEach ask ps w).2.isPublished q = w.isPublished q := by
  induction ps generalizing w with
  | nil => exact ⟨rfl, rfl, fun _ _ => rfl⟩
  | cons p ps ih =>
    have hp : p ∈ p :: ps := List.mem_cons_self
    have htail : ∀ q ∈ ps, q ∈ p :: ps := fun q hq => List.mem_cons_of_mem p hq
    obtain ⟨hother, hdistinct⟩ := List.nodup_cons.1 hdistinct
    rw [List.length_cons] at hroom
    obtain ⟨hok, hjoins, hcounted⟩ := h.publish_of_room haccepts hp (hnew p hp)
      (.inr (by rw [hlimit p hp]; omega))
    have hstill : ∀ q ∈ ps, (w.publish ask p).world.isPublished q = false := by
      intro q hq
      have hnumber : p.number ≠ q.number :=
        fun hsame => hother (List.mem_map.2 ⟨q, hq, hsame.symm⟩)
      simp [hjoins.isPublished, hnumber, hnew q (htail q hq)]
    obtain ⟨hresults, hcount, hothers⟩ := ih (h.subset htail) (fun q hq => hlimit q (htail q hq))
      hdistinct _ hstill (by omega)
    rw [publishEach]
    refine ⟨?_, ?_, fun q hq => ?_⟩
    · dsimp only
      rw [hok, hresults]
      rfl
    · dsimp only
      rw [hcount, hcounted, List.length_cons]
      omega
    · rw [List.map_cons, List.mem_cons, not_or] at hq
      dsimp only
      rw [hothers q hq.2, hjoins.isPublished]
      simp [Ne.symm hq.1]

/-- Once the limit is reached, newcomers are refused. -/
theorem publishEach_of_full (ask : Ask σ) (hpositive : 0 < limit) (h : Contenders g k ps)
    (hlimit : ∀ p ∈ ps, p.config.repeatLimit.toInt = limit) (w : World σ)
    (hnew : ∀ p ∈ ps, w.isPublished p = false)
    (hfull : limit ≤ (w.services g).counts.count k) :
    (publishEach ask ps w).1 = List.replicate ps.length (.error (.duplicate k.text limit)) ∧
      ((publishEach ask ps w).2.services g).counts.count k = (w.services g).counts.count k := by
  induction ps generalizing w with
  | nil => exact ⟨rfl, rfl⟩
  | cons p ps ih =>
    have hp : p ∈ p :: ps := List.mem_cons_self
    have htail : ∀ q ∈ ps, q ∈ p :: ps := fun q hq => List.mem_cons_of_mem p hq
    have hstays := stays_prepared w p
    have hstill : ∀ q ∈ ps, (w.prepared p).isPublished q = false := fun q hq => by
      rw [hstays.isPublished, hnew q (htail q hq)]
    obtain ⟨hresults, hcount⟩ := ih (h.subset htail) (fun q hq => hlimit q (htail q hq)) _ hstill
      (by rwa [hstays.count])
    rw [publishEach, h.publish_of_full ask hp (hnew p hp) hpositive (hlimit p hp) hfull]
    exact ⟨congrArg _ hresults, hcount.trans (hstays.count g k)⟩

/-- With one limit for all, newcomers are published until the limit is reached. -/
theorem publishEach_limited (haccepts : ask.Accepts) (hpositive : 0 < limit)
    (h : Contenders g k ps) (hlimit : ∀ p ∈ ps, p.config.repeatLimit.toInt = limit)
    (hdistinct : (ps.map Provider.number).Nodup) (w : World σ)
    (hnew : ∀ p ∈ ps, w.isPublished p = false) :
    let before := (w.services g).counts.count k
    let room := min ps.length (limit - before)
    (publishEach ask ps w).1 = List.replicate room (.ok ()) ++
        List.replicate (ps.length - room) (.error (.duplicate k.text limit)) ∧
      ((publishEach ask ps w).2.services g).counts.count k =
        max before (min limit (before + ps.length)) := by
  intro before room
  have htake : ∀ p ∈ ps.take room, p ∈ ps := fun _ => List.mem_of_mem_take
  have hdrop : ∀ p ∈ ps.drop room, p ∈ ps := fun _ => List.mem_of_mem_drop
  have hlength : (ps.take room).length = room := List.length_take_of_le (Nat.min_le_left _ _)
  rw [← List.take_append_drop room ps, List.map_append, List.nodup_append] at hdistinct
  obtain ⟨hfirst, -, hapart⟩ := hdistinct
  obtain ⟨hresults, hcount, hothers⟩ := publishEach_of_room haccepts (h.subset htake)
    (fun p hp => hlimit p (htake p hp)) hfirst w (fun p hp => hnew p (htake p hp))
    (by rw [hlength]; exact Nat.min_le_right _ _)
  have happend := publishEach_append ask (ps.take room) (ps.drop room) w
  rw [List.take_append_drop] at happend
  rw [happend]
  generalize publishEach ask (ps.take room) w = first at hresults hcount hothers ⊢
  obtain ⟨results, w₁⟩ := first
  dsimp only at hresults hcount hothers ⊢
  rw [hlength] at hresults hcount
  have hstill : ∀ p ∈ ps.drop room, w₁.isPublished p = false := by
    intro p hp
    rw [hothers p, hnew p (hdrop p hp)]
    exact fun hmem => hapart _ hmem _ (List.mem_map_of_mem hp) rfl
  by_cases hall : ps.length ≤ limit - before
  · have hroom : room = ps.length := Nat.min_eq_left hall
    rw [hroom, List.drop_length, publishEach, hresults, hcount, hroom]
    refine ⟨by simp, ?_⟩
    omega
  · have hroom : room = limit - before := Nat.min_eq_right (by omega)
    obtain ⟨hrefused, hkept⟩ := publishEach_of_full ask hpositive (h.subset hdrop)
      (fun p hp => hlimit p (hdrop p hp)) w₁ hstill (by omega)
    rw [hresults, hrefused, hkept, hcount, List.length_drop]
    refine ⟨rfl, ?_⟩
    omega

end Limits

/-- Whatever the order in which calls to publish providers of one key take effect: without limits
all succeed, each provider that was not published yet is bound once to each of its servers, and the
count grows by the number of these providers. With one positive limit for all, as many of the new
providers are published as there is room for, the first in that order, the others are refused as
duplicates, and the count grows up to the limit. -/
theorem publications_in_any_order (haccepts : ask.Accepts) (h : Contenders g k calls)
    {order : List Provider} (horder : order.Perm calls) (w : World σ) :
    let before := (w.services g).counts.count k
    let results := (publishEach ask order w).1
    let w' := (publishEach ask order w).2
    let after := (w'.services g).counts.count k
    ((∀ p ∈ calls, p.config.repeatLimit.toInt ≤ 0) →
      results = List.replicate calls.length (.ok ()) ∧
      (∀ p ∈ calls, w'.registrations p =
        w.registrations p ++ if w.isPublished p then [] else p.config.servers) ∧
      after = before + (w.newcomers calls).card) ∧
    ∀ limit : Nat, 0 < limit → (∀ p ∈ calls, p.config.repeatLimit.toInt = limit) →
      (calls.map Provider.number).Nodup → (∀ p ∈ calls, w.isPublished p = false) →
      let room := min calls.length (limit - before)
      results = List.replicate room (.ok ()) ++
          List.replicate (calls.length - room) (.error (.duplicate k.text limit)) ∧
        after = max before (min limit (before + calls.length)) := by
  intro before results w' after
  have hmem : ∀ p ∈ order, p ∈ calls := fun p hp => horder.mem_iff.1 hp
  refine ⟨fun hlimit => ?_, fun limit hpositive hlimit hdistinct hnew => ?_⟩
  · obtain ⟨hresults, hcount, hregistrations⟩ :=
      publishEach_unlimited haccepts h hlimit hmem w
    have hnewcomers : w.newcomers order = w.newcomers calls := by
      ext n
      simp only [mem_newcomers, horder.mem_iff]
    refine ⟨by rw [← horder.length_eq]; exact hresults, fun p hp => ?_, hnewcomers ▸ hcount⟩
    have hnewcomer : p.number ∈ w.newcomers calls ↔ w.isPublished p = false := by
      rw [mem_newcomers]
      constructor
      · rintro ⟨q, -, hq, hnumber⟩
        rw [← hq, isPublished_congr w hnumber]
      · exact fun hunpublished => ⟨p, hp, hunpublished, rfl⟩
    refine (hregistrations p hp).trans ?_
    cases hpublished : w.isPublished p <;> simp [hnewcomers, hnewcomer, hpublished]
  · have hall := publishEach_limited haccepts hpositive (h.subset hmem)
      (fun p hp => hlimit p (hmem p hp)) ((horder.map Provider.number).nodup_iff.2 hdistinct) w
      fun p hp => hnew p (hmem p hp)
    rwa [horder.length_eq] at hall

theorem Contenders.pair {a b : Provider} (hgroup : b.group = a.group)
    (hkey : b.config.key = a.config.key) (hnumber : a.number ≠ b.number)
    (hdelay : a.config.delayMs = 0 ∧ b.config.delayMs = 0)
    (hfit : a.config.check = .ok () ∧ b.config.check = .ok ()) :
    Contenders a.group a.config.key [a, b] where
  group p hp := by obtain rfl | rfl := List.mem_pair.1 hp <;> simp [hgroup]
  key p hp := by obtain rfl | rfl := List.mem_pair.1 hp <;> simp [hkey]
  atOnce p hp := by obtain rfl | rfl := List.mem_pair.1 hp <;> simp [hdelay]
  fit p hp := by obtain rfl | rfl := List.mem_pair.1 hp <;> simp [hfit]
  numbered p hp q hq hsame := by
    obtain rfl | rfl := List.mem_pair.1 hp <;> obtain rfl | rfl := List.mem_pair.1 hq
    · rfl
    · exact absurd hsame hnumber
    · exact absurd hsame.symm hnumber
    · rfl

/-- Two providers, one of them asked for twice, and the same two with room for one of them only. -/
theorem publications_in_any_order_few :
    let ask : Ask Unit := fun _ _ => (none, ())
    let a (limit : Int32) := smallProvider 0 [smallServer 0, smallServer 1] [] limit
    let b (limit : Int32) := smallProvider 1 [smallServer 0] [] limit
    let k := (a 0).config.key
    let w := World.start ()
    ((publishEach ask [b 0, a 0, a 0] w).1 = List.replicate 3 (.ok ()) ∧
      (publishEach ask [b 0, a 0, a 0] w).2.registrations (a 0) = [smallServer 0, smallServer 1] ∧
      ((publishEach ask [b 0, a 0, a 0] w).2.services 0).counts.count k = 2) ∧
    (publishEach ask [b 1, a 1] w).1 = [.ok (), .error (.duplicate k.text 1)] ∧
      ((publishEach ask [b 1, a 1] w).2.services 0).counts.count k = 1 := by
  intro ask a b k w
  have haccepts : ask.Accepts := fun _ _ => rfl
  have hcontend (limit : Int32) : Contenders 0 k [a limit, b limit] :=
    Contenders.pair (a := a limit) (b := b limit) rfl rfl Nat.zero_ne_one ⟨rfl, rfl⟩ ⟨rfl, rfl⟩
  have hbefore : (w.services 0).counts.count k = 0 := by simp [w, World.start, services]
  have htwice : Contenders 0 k [a 0, a 0, b 0] := (hcontend 0).subset (by simp)
  have horder : ([b 0] ++ [a 0, a 0]).Perm ([a 0, a 0] ++ [b 0]) := List.perm_append_comm
  have hnew : (w.newcomers [a 0, a 0, b 0]).card = 2 := by decide
  refine ⟨?_, ?_⟩
  · obtain ⟨hresults, hregistrations, hcount⟩ :=
      (publications_in_any_order haccepts htwice horder w).1 (by decide)
    refine ⟨hresults, hregistrations (a 0) List.mem_cons_self, ?_⟩
    rw [hnew, hbefore] at hcount
    exact hcount
  · have hall := (publications_in_any_order haccepts (hcontend 1) (List.Perm.swap _ _ _) w).2 1
      Nat.one_pos (by decide) (by decide) (by decide)
    rw [hbefore] at hall
    exact hall

end Contests

end ServicePublisher
