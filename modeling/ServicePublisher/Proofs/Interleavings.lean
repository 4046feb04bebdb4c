import Mathlib.Algebra.BigOperators.Group.Finset.Piecewise
import Mathlib.Algebra.Order.BigOperators.Group.Finset
import Mathlib.Algebra.Order.Group.Nat
import ServicePublisher.Proofs.Counts

/-! Clients that share the table of counts. Each asks for its own sequence of acquisitions and
releases, and the table serves all of them one at a time in some order. What has been granted and
given back so far decides the counts, and no order loses an update. -/
namespace ServicePublisher

/-- What a client asks of the table of counts. -/
inductive CountRequest where
  | acquire (key : ServiceKey) (limit : Int)
  | release (key : ServiceKey)
deriving DecidableEq

namespace CountRequest

def key : CountRequest → ServiceKey
  | acquire k _ | release k => k

/-- The request asks for one more publication under a key. -/
def Acquires (k : ServiceKey) : CountRequest → Prop
  | acquire k' _ => k' = k
  | release _ => False

/-- The request gives one publication under a key back. -/
def Releases (k : ServiceKey) : CountRequest → Prop
  | acquire _ _ => False
  | release k' => k' = k

/-- A positive limit can refuse the request. -/
def Limited : CountRequest → Prop
  | acquire _ limit => 0 < limit
  | release _ => False

instance (k : ServiceKey) : DecidablePred (Acquires k) := fun r => by
  cases r <;> unfold Acquires <;> infer_instance

instance (k : ServiceKey) : DecidablePred (Releases k) := fun r => by
  cases r <;> unfold Releases <;> infer_instance

@[simp] theorem acquires_acquire (k k' : ServiceKey) (limit : Int) :
    (acquire k' limit).Acquires k ↔ k' = k := .rfl

@[simp] theorem not_acquires_release (k k' : ServiceKey) : ¬(release k').Acquires k := id

@[simp] theorem releases_release (k k' : ServiceKey) : (release k').Releases k ↔ k' = k := .rfl

@[simp] theorem not_releases_acquire (k k' : ServiceKey) (limit : Int) :
    ¬(acquire k' limit).Releases k := id

end CountRequest

namespace ExportCounts

def serve (t : ExportCounts) : CountRequest → Except ProviderError Nat × ExportCounts
  | .acquire k limit =>
    match t.acquire k limit with
    | .ok (n, t') => (.ok n, t')
    | .error e => (.error e, t)
  | .release k => (.ok (t.release k).1, (t.release k).2)

end ExportCounts

/-- A table whose entries are updated in place, so that one of zero could stay behind. -/
abbrev Counters := Std.ExtTreeMap ServiceKey Nat

namespace Counters

/-- An acquisition makes an entry before it looks at the limit. A release lowers an entry down to
zero at most, and removes it there. -/
def serve (t : Counters) : CountRequest → Except ProviderError Nat × Counters
  | .acquire k limit =>
    let t := t.insertIfNew k 0
    let next := t[k]?.getD 0 + 1
    if 0 < limit.toNat ∧ limit.toNat < next then (.error (.duplicate k.text limit.toNat), t)
    else (.ok next, t.insert k next)
  | .release k =>
    match t[k]? with
    | none => (.ok 0, t)
    | some n => (.ok (n - 1), if n - 1 = 0 then t.erase k else t.insert k (n - 1))

end Counters

namespace ExportCounts

variable {t : ExportCounts} {k : ServiceKey}

/-- What becomes of a request: a positive limit that is reached refuses an acquisition and nothing
changes, everything else succeeds and changes one count by one. -/
inductive Course (t : ExportCounts) : CountRequest → Except ProviderError Nat → ExportCounts → Prop
  | granted {k : ServiceKey} {limit : Int} {t' : ExportCounts}
      (hlimit : limit ≤ 0 ∨ (t.count k : Int) < limit)
      (hcount : ∀ k', t'.count k' = t.count k' + if k = k' then 1 else 0) :
      Course t (.acquire k limit) (.ok (t.count k + 1)) t'
  | refused {k : ServiceKey} {limit : Int} (hlimit : 0 < limit ∧ limit ≤ t.count k) :
      Course t (.acquire k limit) (.error (.duplicate k.text limit.toNat)) t
  | released {k : ServiceKey} {t' : ExportCounts}
      (hcount : ∀ k', t'.count k' = t.count k' - if k = k' then 1 else 0) :
      Course t (.release k) (.ok (t.count k - 1)) t'

theorem serve_course (t : ExportCounts) (r : CountRequest) :
    Course t r (t.serve r).1 (t.serve r).2 := by
  cases r with
  | acquire k limit =>
    rw [serve]
    cases h : t.acquire k limit with
    | ok granted =>
      obtain ⟨n, t'⟩ := granted
      obtain ⟨hlimit, rfl, rfl⟩ := acquire_eq_ok_iff.1 h
      refine .granted hlimit fun k' => ?_
      rw [count_put]
      split <;> simp_all
    | error e =>
      obtain rfl := eq_of_acquire_eq_error h
      refine .refused ?_
      by_contra hroom
      have hok :
          t.acquire k limit = .ok (t.count k + 1, t.put k (t.count k + 1) (Nat.succ_pos _)) :=
        acquire_eq_ok_iff.2 ⟨by omega, rfl, rfl⟩
      rw [hok] at h
      cases h
  | release k =>
    rw [serve, fst_release]
    refine .released fun k' => ?_
    rw [count_release]
    split <;> simp_all

/-- The entry that an acquisition makes for itself counts nothing. -/
theorem getD_insertIfNew (t : ExportCounts) (k : ServiceKey) :
    (t.entries.insertIfNew k 0)[k]?.getD 0 = t.count k := by
  rw [count, Std.ExtTreeMap.getElem?_insertIfNew]
  split
  · next h => rw [Std.ExtTreeMap.getElem?_eq_none h.2]; rfl
  · rfl

/-- Where something is counted there is an entry already. -/
theorem insertIfNew_of_count_pos {t : ExportCounts} {k : ServiceKey} (h : 0 < t.count k) :
    t.entries.insertIfNew k 0 = t.entries := by
  have hmem : k ∈ t.entries := Std.ExtTreeMap.contains_iff_mem.1 (contains_iff.2 h)
  refine Std.ExtTreeMap.ext_getElem? fun k' => ?_
  rw [Std.ExtTreeMap.getElem?_insertIfNew, if_neg]
  rintro ⟨hk, hnew⟩
  exact hnew (Std.compare_eq_iff_eq.1 hk ▸ hmem)

theorem insert_insertIfNew (t : ExportCounts) (k : ServiceKey) (n : Nat) :
    (t.entries.insertIfNew k 0).insert k n = t.entries.insert k n := by
  refine Std.ExtTreeMap.ext_getElem? fun k' => ?_
  rw [Std.ExtTreeMap.getElem?_insert, Std.ExtTreeMap.getElem?_insert]
  split
  · rfl
  · next hk => rw [Std.ExtTreeMap.getElem?_insertIfNew, if_neg fun h => hk h.1]

/-- Entries updated in place never differ from the table. Whoever is refused found an entry already,
and no release meets one of zero. -/
theorem serve_entries (t : ExportCounts) (r : CountRequest) :
    Counters.serve t.entries r = ((t.serve r).1, (t.serve r).2.entries) := by
  cases r with
  | acquire k limit =>
    rw [Counters.serve, serve, acquire]
    simp only [getD_insertIfNew, insert_insertIfNew]
    by_cases hlimit : 0 < limit ∧ limit < (t.count k + 1 : Nat)
    · have hcount : 0 < t.count k := by omega
      rw [if_pos (by omega), if_pos hlimit, insertIfNew_of_count_pos hcount]
    · rw [if_neg (by omega), if_neg hlimit]
      rfl
  | release k =>
    rw [Counters.serve, serve, release, count]
    cases h : t.entries[k]? with
    | none =>
      have habsent : t.entries.erase k = t.entries := by
        refine Std.ExtTreeMap.ext_getElem? fun k' => ?_
        rw [Std.ExtTreeMap.getElem?_erase]
        split
        · next hk => rw [← Std.compare_eq_iff_eq.1 hk, h]
        · rfl
      simp [remove, habsent]
    | some n =>
      dsimp only [Option.getD_some]
      split
      · next hzero => rw [dif_neg (by omega), hzero]; rfl
      · next hmore => rw [dif_pos (by omega)]; rfl

/-- As many keys have an entry as are counted. -/
theorem size_eq_card (t : ExportCounts) :
    ∃ keys : Finset ServiceKey, (∀ k, k ∈ keys ↔ 0 < t.count k) ∧ t.size = keys.card := by
  refine ⟨t.entries.keys.toFinset, fun k => ?_, ?_⟩
  · rw [List.mem_toFinset, Std.ExtTreeMap.mem_keys, ← contains_iff, contains,
      Std.ExtTreeMap.contains_iff_mem]
  · rw [List.toFinset_card_of_nodup Std.ExtTreeMap.nodup_keys, Std.ExtTreeMap.length_keys, size]

end ExportCounts

section Ledger

variable {ι : Type}

/-- A request that was served: whose it was, what its key counted then, and the answer. -/
structure LedgerEntry (ι : Type) where
  client : ι
  request : CountRequest
  found : Nat
  answer : Except ProviderError Nat

namespace ExportCounts

def serveAll (t : ExportCounts) (requests : List (ι × CountRequest)) : ExportCounts :=
  requests.foldl (fun t x => (t.serve x.2).2) t

def ledger (t : ExportCounts) : List (ι × CountRequest) → List (LedgerEntry ι)
  | [] => []
  | (i, r) :: rest => ⟨i, r, t.count r.key, (t.serve r).1⟩ :: (t.serve r).2.ledger rest

end ExportCounts

def Counters.serveAll (t : Counters) (requests : List (ι × CountRequest)) : Counters :=
  requests.foldl (fun t x => (t.serve x.2).2) t

namespace LedgerEntry

def granted (k : ServiceKey) (entries : List (LedgerEntry ι)) : Nat :=
  entries.countP fun x => x.request.Acquires k ∧ x.answer.isOk

def released (k : ServiceKey) (entries : List (LedgerEntry ι)) : Nat :=
  entries.countP fun x => x.request.Releases k

/-- How many releases of a key found a positive count. -/
def givenBack (k : ServiceKey) (entries : List (LedgerEntry ι)) : Nat :=
  entries.countP fun x => x.request.Releases k ∧ 0 < x.found

def of [DecidableEq ι] (i : ι) (entries : List (LedgerEntry ι)) : List (LedgerEntry ι) :=
  entries.filter fun x => x.client = i

section Append

variable (k : ServiceKey) (xs ys : List (LedgerEntry ι))

@[simp] theorem granted_append : granted k (xs ++ ys) = granted k xs + granted k ys :=
  List.countP_append

@[simp] theorem released_append : released k (xs ++ ys) = released k xs + released k ys :=
  List.countP_append

@[simp] theorem givenBack_append : givenBack k (xs ++ ys) = givenBack k xs + givenBack k ys :=
  List.countP_append

@[simp] theorem of_append [DecidableEq ι] (i : ι) : of i (xs ++ ys) = of i xs ++ of i ys :=
  List.filter_append ..

end Append

section Singleton

variable (k : ServiceKey) (x : LedgerEntry ι)

@[simp] theorem granted_singleton :
    granted k [x] = if x.request.Acquires k ∧ x.answer.isOk then 1 else 0 := by
  simp [granted, List.countP_singleton]

@[simp] theorem released_singleton :
    released k [x] = if x.request.Releases k then 1 else 0 := by
  simp [released, List.countP_singleton]

@[simp] theorem givenBack_singleton :
    givenBack k [x] = if x.request.Releases k ∧ 0 < x.found then 1 else 0 := by
  simp [givenBack, List.countP_singleton]

end Singleton

end LedgerEntry

namespace ExportCounts

@[simp] theorem serveAll_append (t : ExportCounts) (xs ys : List (ι × CountRequest)) :
    t.serveAll (xs ++ ys) = (t.serveAll xs).serveAll ys :=
  List.foldl_append

theorem serveAll_singleton (t : ExportCounts) (x : ι × CountRequest) :
    t.serveAll [x] = (t.serve x.2).2 := rfl

@[simp] theorem ledger_append (t : ExportCounts) (xs ys : List (ι × CountRequest)) :
    t.ledger (xs ++ ys) = t.ledger xs ++ (t.serveAll xs).ledger ys := by
  induction xs generalizing t with
  | nil => rfl
  | cons x xs ih => exact congrArg _ (ih (t.serve x.2).2)

theorem ledger_singleton (t : ExportCounts) (x : ι × CountRequest) :
    t.ledger [x] = [⟨x.1, x.2, t.count x.2.key, (t.serve x.2).1⟩] := rfl

theorem serveAll_entries (t : ExportCounts) (requests : List (ι × CountRequest)) :
    Counters.serveAll t.entries requests = (t.serveAll requests).entries := by
  induction requests generalizing t with
  | nil => rfl
  | cons x rest ih =>
    rw [Counters.serveAll, List.foldl_cons, serve_entries]
    exact ih (t.serve x.2).2

open LedgerEntry

/-- A table agrees with a ledger: each key counts what was granted and not given back, and exactly
the keys that count something have an entry. -/
structure Balances (t : ExportCounts) (entries : List (LedgerEntry ι)) : Prop where
  count : ∀ k, t.count k + givenBack k entries = granted k entries
  contains : ∀ k, t.contains k = true ↔ 0 < t.count k
  size : ∃ keys : Finset ServiceKey, (∀ k, k ∈ keys ↔ 0 < t.count k) ∧ t.size = keys.card

/-- One request is entered in the ledger as it changes the table. -/
theorem Balances.serve {t : ExportCounts} {entries : List (LedgerEntry ι)} (h : t.Balances entries)
    (x : ι × CountRequest) : (t.serve x.2).2.Balances (entries ++ t.ledger [x]) where
  count k := by
    obtain ⟨i, r⟩ := x
    have hbefore := h.count k
    have hcourse := t.serve_course r
    rw [ledger_singleton, granted_append, givenBack_append, granted_singleton, givenBack_singleton]
    generalize (t.serve r).1 = a, (t.serve r).2 = t' at hcourse
    cases hcourse with
    | granted hlimit hafter =>
      rw [hafter k]
      simp [Except.isOk, Except.toBool]
      omega
    | refused hlimit => simpa [Except.isOk, Except.toBool] using hbefore
    | @released k' _ hafter =>
      rw [hafter k]
      by_cases hk : k' = k
      · subst hk
        simp [CountRequest.key]
        split <;> omega
      · simpa [hk] using hbefore
  contains k := contains_iff
  size := size_eq_card _

theorem balances (point : List (ι × CountRequest)) :
    (serveAll ∅ point).Balances (ledger ∅ point) := by
  induction point using List.reverseRecOn with
  | nil => exact ⟨fun k => by simp [serveAll, ledger, granted, givenBack], fun k => contains_iff,
      size_eq_card _⟩
  | append_singleton point x ih =>
    rw [serveAll_append, ledger_append, serveAll_singleton]
    exact ih.serve x

end ExportCounts

end Ledger

section Interleavings

open ExportCounts LedgerEntry CountRequest

variable {ι : Type} [DecidableEq ι] {clients : ι → List CountRequest}
  {merged : List (ι × CountRequest)}

def requestsOf (i : ι) (requests : List (ι × CountRequest)) : List CountRequest :=
  requests.filterMap fun x => if x.1 = i then some x.2 else none

/-- The sequences of all clients are merged into one, each in its own order. -/
def Interleaves (clients : ι → List CountRequest) (merged : List (ι × CountRequest)) : Prop :=
  ∀ i, requestsOf i merged = clients i

/-- At every point each client has released each key no more often than it was granted to it. -/
def Frugal (merged : List (ι × CountRequest)) : Prop :=
  ∀ point, point <+: merged → ∀ i k,
    released k (of i (ledger ∅ point)) ≤ granted k (of i (ledger ∅ point))

theorem map_request_of_ledger (t : ExportCounts) (i : ι) (requests : List (ι × CountRequest)) :
    (of i (t.ledger requests)).map LedgerEntry.request = requestsOf i requests := by
  induction requests generalizing t with
  | nil => rfl
  | cons x rest ih =>
    have ih := ih (t.serve x.2).2
    simp only [of, requestsOf] at ih ⊢
    by_cases hi : x.1 = i
    · simpa [ledger, hi] using ih
    · simpa [ledger, hi] using ih

theorem released_of_ledger (t : ExportCounts) (i : ι) (k : ServiceKey)
    (requests : List (ι × CountRequest)) :
    released k (of i (t.ledger requests)) = (requestsOf i requests).countP (Releases k ·) := by
  rw [← map_request_of_ledger t, List.countP_map]
  rfl

omit [DecidableEq ι] in
/-- Nobody is refused who sets no limit. -/
theorem isOk_of_mem_ledger {t : ExportCounts} {requests : List (ι × CountRequest)}
    {x : LedgerEntry ι} (hx : x ∈ t.ledger requests) (hlimit : ¬x.request.Limited) :
    x.answer.isOk := by
  induction requests generalizing t with
  | nil => cases hx
  | cons y rest ih =>
    obtain rfl | hx := List.mem_cons.1 hx
    · have hcourse := t.serve_course y.2
      generalize y.2 = r, (t.serve y.2).1 = a, (t.serve y.2).2 = t' at hcourse hlimit
      cases hcourse with
      | refused h => exact absurd h.1 hlimit
      | granted | released => rfl
    · exact ih hx

theorem granted_of_ledger {t : ExportCounts} {requests : List (ι × CountRequest)} (i : ι)
    (k : ServiceKey) (hlimit : ∀ r ∈ requestsOf i requests, ¬r.Limited) :
    granted k (of i (t.ledger requests)) = (requestsOf i requests).countP (Acquires k ·) := by
  rw [← map_request_of_ledger t] at hlimit ⊢
  rw [List.countP_map]
  refine List.countP_congr fun x hx => ?_
  have hok : x.answer.isOk :=
    isOk_of_mem_ledger (List.mem_of_mem_filter hx) (hlimit _ (List.mem_map_of_mem hx))
  simp [hok]

/-- Without limits, clients that keep to their own are frugal however they are merged. -/
theorem frugal_of_unlimited (h : Interleaves clients merged)
    (hlimit : ∀ i, ∀ r ∈ clients i, ¬r.Limited)
    (hown : ∀ i k point, point <+: clients i →
      point.countP (Releases k ·) ≤ point.countP (Acquires k ·)) : Frugal merged := by
  intro point hpoint i k
  have hahead : requestsOf i point <+: clients i := h i ▸ hpoint.filterMap _
  rw [released_of_ledger, granted_of_ledger i k fun r hr => hlimit i r (hahead.subset hr)]
  exact hown i k _ hahead

variable [Fintype ι]

theorem sum_countP_of (entries : List (LedgerEntry ι)) (f : LedgerEntry ι → Bool) :
    ∑ i, (of i entries).countP f = entries.countP f := by
  induction entries with
  | nil => simp [of]
  | cons x rest ih =>
    have hcons : ∀ i, (of i (x :: rest)).countP f =
        (of i rest).countP f + if x.client = i then (if f x then 1 else 0) else 0 := by
      intro i
      by_cases hi : x.client = i
      · simp [of, hi, List.countP_cons]
      · simp [of, hi]
    rw [Finset.sum_congr rfl fun i _ => hcons i, Finset.sum_add_distrib, ih, Finset.sum_ite_eq,
      List.countP_cons]
    simp

/-- Whoever releases only what was granted to it always finds a positive count. -/
theorem Frugal.givenBack_eq (h : Frugal merged) (k : ServiceKey) :
    givenBack k (ledger ∅ merged) = released k (ledger ∅ merged) := by
  induction merged using List.reverseRecOn with
  | nil => rfl
  | append_singleton point x ih =>
    obtain ⟨i, r⟩ := x
    have hpoint : Frugal point := fun early hearly => h early (hearly.trans (List.prefix_append ..))
    rw [ledger_append, givenBack_append, released_append, ih hpoint, ledger_singleton,
      givenBack_singleton, released_singleton]
    congr 1
    refine if_congr (and_iff_left_of_imp ?_) rfl rfl
    intro hreleases
    obtain ⟨k', limit⟩ | k' := r
    · cases hreleases
    obtain rfl : k' = k := hreleases
    -- This client still has one more than it has released, and no client has fewer.
    have hmore : released k' (of i (ledger ∅ point)) < granted k' (of i (ledger ∅ point)) := by
      have hnow := h _ List.prefix_rfl i k'
      rw [ledger_append, of_append, released_append, granted_append, ledger_singleton] at hnow
      simpa [of, Nat.succ_le_iff] using hnow
    have hsum : released k' (ledger ∅ point) < granted k' (ledger ∅ point) := by
      rw [released, granted, ← sum_countP_of, ← sum_countP_of]
      exact Finset.sum_lt_sum (fun j _ => hpoint _ List.prefix_rfl j k')
        ⟨i, Finset.mem_univ i, hmore⟩
    have hbalance := (balances point).count k'
    rw [ih hpoint] at hbalance
    show 0 < (serveAll ∅ point).count k'
    omega

theorem Frugal.count_eq_sum (h : Frugal merged) (k : ServiceKey) :
    (serveAll ∅ merged).count k =
      ∑ i, (granted k (of i (ledger ∅ merged)) - released k (of i (ledger ∅ merged))) := by
  have hbalance := (balances merged).count k
  rw [h.givenBack_eq] at hbalance
  rw [Finset.sum_tsub_distrib _ fun i _ => h _ List.prefix_rfl i k]
  have hgranted : ∑ i, granted k (of i (ledger ∅ merged)) = granted k (ledger ∅ merged) :=
    sum_countP_of _ _
  have hreleased : ∑ i, released k (of i (ledger ∅ merged)) = released k (ledger ∅ merged) :=
    sum_countP_of _ _
  omega

/-- Counts of publications under any interleaving. At every point the table agrees with the ledger,
and with entries updated in place; every request is decided by the count of its key, and changes no
other; and when no client releases more than it was granted, the final counts are the sums of what
each client was granted and has not released, whatever the order. -/
theorem counts_of_interleaving (h : Interleaves clients merged) :
    (∀ point, point <+: merged →
      (serveAll ∅ point).Balances (ledger ∅ point) ∧
      Counters.serveAll ∅ point = (serveAll ∅ point).entries) ∧
    (∀ point i r, point ++ [(i, r)] <+: merged →
      Course (serveAll ∅ point) r ((serveAll ∅ point).serve r).1
        (serveAll ∅ (point ++ [(i, r)])) ∧
      Counters.serve (serveAll ∅ point).entries r =
        (((serveAll ∅ point).serve r).1, (serveAll ∅ (point ++ [(i, r)])).entries)) ∧
    (Frugal merged → ∀ k, (serveAll ∅ merged).count k =
      ∑ i, (granted k (of i (ledger ∅ merged)) - (clients i).countP (Releases k ·))) ∧
    ((∀ i, ∀ r ∈ clients i, ¬r.Limited) →
      (∀ i k point, point <+: clients i →
        point.countP (Releases k ·) ≤ point.countP (Acquires k ·)) →
      ∀ k, (serveAll ∅ merged).count k =
        ∑ i, ((clients i).countP (Acquires k ·) - (clients i).countP (Releases k ·))) := by
  refine ⟨fun point _ => ⟨balances point, serveAll_entries ∅ point⟩, fun point i r _ => ?_,
    fun hfrugal k => ?_, fun hlimit hown k => ?_⟩
  · rw [serveAll_append, serveAll_singleton]
    exact ⟨serve_course _ r, serve_entries _ r⟩
  · rw [hfrugal.count_eq_sum]
    simp only [released_of_ledger, h _]
  · rw [(frugal_of_unlimited h hlimit hown).count_eq_sum]
    refine Finset.sum_congr rfl fun i _ => ?_
    rw [released_of_ledger, granted_of_ledger i k fun r hr => hlimit i r (h i ▸ hr), h i]

/-- Two clients of one key: one acquires it twice and releases it once, the other acquires it in
between. -/
theorem count_of_two_clients :
    (serveAll ∅ [(true, .acquire ⟨"a"⟩ 0), (false, .acquire ⟨"a"⟩ (-1)), (true, .release ⟨"a"⟩),
      (true, .acquire ⟨"a"⟩ 0)]).count ⟨"a"⟩ = 2 := by
  let clients : Bool → List CountRequest
    | true => [.acquire ⟨"a"⟩ 0, .release ⟨"a"⟩, .acquire ⟨"a"⟩ 0]
    | false => [.acquire ⟨"a"⟩ (-1)]
  have h : Interleaves clients [(true, .acquire ⟨"a"⟩ 0), (false, .acquire ⟨"a"⟩ (-1)),
      (true, .release ⟨"a"⟩), (true, .acquire ⟨"a"⟩ 0)] := by
    rintro (_ | _) <;> rfl
  have hlimit : ∀ i, ∀ r ∈ clients i, ¬r.Limited := by
    rintro (_ | _) <;> simp [clients, Limited]
  have hown : ∀ i k point, point <+: clients i →
      point.countP (Releases k ·) ≤ point.countP (Acquires k ·) := by
    rintro (_ | _) k point hpoint <;> rw [← List.mem_inits] at hpoint <;>
      simp only [clients, List.inits, List.map_cons, List.map_nil, List.mem_cons,
        List.not_mem_nil, or_false] at hpoint
    · obtain rfl | rfl := hpoint <;> simp
    · obtain rfl | rfl | rfl | rfl := hpoint <;> simp [List.countP_cons]
  rw [(counts_of_interleaving h).2.2.2 hlimit hown ⟨"a"⟩]
  decide

end Interleavings

end ServicePublisher
