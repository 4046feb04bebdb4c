import ServicePublisher.Proofs.Coherence
import ServicePublisher.Proofs.Rebound

/-! Entries that nobody takes back. A publication that fails while others of its key live leaves its
entries to them, and they take back only those at servers and registries of their own. So an entry
can outlive all publications of its key, unless a provider exposes only what all others of its key
use as well; in that case there is never an entry without a publication. -/
namespace ServicePublisher

open World

/-- A server or a registry of a group: where there can be entries. -/
inductive Place where
  | server (serial : Nat)
  | registry (group : Nat) (identity : String)

def World.Holds {σ : Type} (w : World σ) : Place → ServiceKey → Prop
  | .server n, k => w.processor? n k ≠ none
  | .registry g identity, k => w.listed g identity k = true

def Place.Among (p : Provider) (servers : List ServerConfig) (registries : List RegistryConfig) :
    Place → Prop
  | .server n => ∃ s ∈ servers, s.serial = n
  | .registry g identity => p.group = g ∧ ∃ r ∈ registries, r.identity = identity

def Place.UsedBy (place : Place) (p : Provider) : Prop :=
  place.Among p p.config.servers p.config.announcedIn

/-- The servers that may have accepted a provider when its publication fails: after the last one
come only its start and the announcement. -/
def ProviderConfig.Exposes (c : ProviderConfig) (s : ServerConfig) : Prop :=
  s ∈ c.servers ∧ (s.settings.autoStart = true ∨ s ∈ c.servers.dropLast ∨ c.announcedIn ≠ [])

/-- Whether a place may have accepted a provider when its publication fails. With the last registry
the publication succeeds. -/
def Place.ExposedBy : Place → Provider → Prop
  | .server n, p => ∃ s, p.config.Exposes s ∧ s.serial = n
  | .registry g identity, p =>
    p.group = g ∧ ∃ r ∈ p.config.announcedIn.dropLast, r.identity = identity

/-- A provider can come to fail while another one is published under its key. -/
structure Provider.MayFailBeside (p live : Provider) : Prop where
  key : live.config.key = p.config.key
  fit : live.config.check = .ok () ∧ p.config.check = .ok ()
  limit : p.config.repeatLimit.toInt ≤ 0 ∨ 2 ≤ p.config.repeatLimit.toInt

/-- All places where a failing publication can leave an entry are used by every provider that may be
published meanwhile. -/
def Fleet.Sheltered (fleet : Fleet) : Prop :=
  ∀ p ∈ fleet.members, ∀ q ∈ fleet.members, q ≠ p → p.MayFailBeside q →
    ∀ place : Place, place.ExposedBy p → place.UsedBy q

/-- With a limit of one, no publication of a key fails beside another. -/
theorem Fleet.sheltered_of_limit_one {fleet : Fleet}
    (hlimit : ∀ p ∈ fleet.members, p.config.repeatLimit.toInt = 1) : fleet.Sheltered := by
  intro p hp q hq _ hbeside
  have hone := hlimit p hp
  have hroom := hbeside.limit
  omega

section Attempts

variable {σ : Type} {ask : Ask σ} {w : World σ} {p : Provider}

theorem mem_servers_of_mem_attempt {s : ServerConfig} (hs : s ∈ (w.attempt ask p).servers) :
    s ∈ p.config.servers := by
  have hcourse := attempt_course ask w p
  generalize w.attempt ask p = a at hcourse hs
  cases hcourse with
  | unprimed hprime => cases hs
  | unbound hprime hbound => exact mem_of_mem_accepted hs
  | announced hprime hbound => exact mem_of_mem_accepted hs

theorem mem_announcedIn_of_mem_attempt {r : RegistryConfig}
    (hr : r ∈ (w.attempt ask p).registries) : r ∈ p.config.announcedIn := by
  have hcourse := attempt_course ask w p
  generalize w.attempt ask p = a at hcourse hr
  cases hcourse with
  | unprimed hprime => cases hr
  | unbound hprime hbound => cases hr
  | announced hprime hbound => exact mem_of_mem_accepted hr

/-- A server that accepts a provider and yet ends the walk does so when it is started. -/
theorem autoStart_of_accepted {c : ProviderConfig} {v : Invoker} {s : ServerConfig}
    {e : ProviderError} (haccepted : (bindServer ask c v s w).accepted = true)
    (he : (bindServer ask c v s w).outcome.result = .error e) : s.settings.autoStart = true := by
  have hcourse := bindServer_course ask c v s w
  generalize bindServer ask c v s w = stop at haccepted he hcourse
  cases hcourse with
  | unbuilt hidle => cases haccepted
  | refused hidle hserver hregister => cases haccepted
  | accepted hidle hserver hregister hafter hstart => exact hstart e he

/-- A failed attempt has been accepted by exposed servers only. -/
theorem exposes_of_mem_attempt {e : ProviderError}
    (he : (w.attempt ask p).outcome.result = .error e) {s : ServerConfig}
    (hs : s ∈ (w.attempt ask p).servers) : p.config.Exposes s := by
  refine ⟨mem_servers_of_mem_attempt hs, ?_⟩
  have hcourse := attempt_course ask w p
  generalize w.attempt ask p = a at hcourse he hs
  cases hcourse with
  | unprimed hprime => cases hs
  | unbound hprime hbound =>
    have hends (s : ServerConfig) (w₂ : World σ) (e : ProviderError) :=
      @autoStart_of_accepted σ ask w₂ p.config (w.nextInvoker p) s e
    obtain hs | hs := mem_dropLast_of_mem_accepted hends hbound hs
    · exact .inr (.inl hs)
    · exact .inl hs
  | announced hprime hbound =>
    refine .inr (.inr fun hnone => ?_)
    rw [announce, hnone] at he
    cases he

/-- And by registries other than the last one only. -/
theorem mem_dropLast_of_mem_attempt {e : ProviderError}
    (he : (w.attempt ask p).outcome.result = .error e) {r : RegistryConfig}
    (hr : r ∈ (w.attempt ask p).registries) : r ∈ p.config.announcedIn.dropLast := by
  have hcourse := attempt_course ask w p
  generalize w.attempt ask p = a at hcourse he hr
  cases hcourse with
  | unprimed hprime => cases hr
  | unbound hprime hbound => cases hr
  | announced hprime hbound =>
    have hends (r : RegistryConfig) (w : World σ) (e : ProviderError)
        (haccepted : (announceStop ask p r w).accepted = true)
        (he : (announceStop ask p r w).outcome.result = .error e) : False := by
      have hok : (announceStop ask p r w).outcome.result.isOk = true := haccepted
      rw [he] at hok
      cases hok
    obtain hr | hr := mem_dropLast_of_mem_accepted hends he hr
    · exact hr
    · exact hr.elim

theorem exposedBy_of_among_attempt {e : ProviderError}
    (he : (w.attempt ask p).outcome.result = .error e) {place : Place}
    (hplace : place.Among p (w.attempt ask p).servers (w.attempt ask p).registries) :
    place.ExposedBy p := by
  cases place with
  | server n =>
    obtain ⟨s, hs, hserial⟩ := hplace
    exact ⟨s, exposes_of_mem_attempt he hs, hserial⟩
  | registry g identity =>
    obtain ⟨hgroup, r, hr, hidentity⟩ := hplace
    exact ⟨hgroup, r, mem_dropLast_of_mem_attempt he hr, hidentity⟩

theorem usedBy_of_among_attempt {place : Place}
    (hplace : place.Among p (w.attempt ask p).servers (w.attempt ask p).registries) :
    place.UsedBy p := by
  cases place with
  | server n =>
    obtain ⟨s, hs, hserial⟩ := hplace
    exact ⟨s, mem_servers_of_mem_attempt hs, hserial⟩
  | registry g identity =>
    obtain ⟨hgroup, r, hr, hidentity⟩ := hplace
    exact ⟨hgroup, r, mem_announcedIn_of_mem_attempt hr, hidentity⟩

end Attempts

section Covered

variable {σ : Type} {fleet : Fleet} {w w' : World σ} {p : Provider}

theorem World.SameBindings.holds (h : SameBindings w w') (place : Place) (k : ServiceKey) :
    w'.Holds place k ↔ w.Holds place k := by
  cases place with
  | server n => rw [Holds, Holds, h.processor]
  | registry g identity => rw [Holds, Holds, h.listed]

theorem World.Rebound.holds {servers : List ServerConfig} {registries : List RegistryConfig}
    {v : Option Invoker} (h : Rebound w w' p servers registries v) {place : Place}
    (hplace : place.Among p servers registries) : w'.Holds place p.config.key ↔ v ≠ none := by
  cases place with
  | server n =>
    obtain ⟨s, hs, hserial⟩ := hplace
    rw [Holds, h.processor, if_pos ⟨s, hs, hserial, rfl⟩]
  | registry g identity =>
    obtain ⟨hgroup, r, hr, hidentity⟩ := hplace
    rw [Holds, h.listed, if_pos ⟨r, hr, hgroup, hidentity, rfl⟩, Option.isSome_iff_ne_none]

theorem World.Rebound.holds_other {servers : List ServerConfig} {registries : List RegistryConfig}
    {v : Option Invoker} (h : Rebound w w' p servers registries v) {place : Place} {k : ServiceKey}
    (hother : ¬(place.Among p servers registries ∧ p.config.key = k)) :
    w'.Holds place k ↔ w.Holds place k := by
  cases place with
  | server n =>
    rw [Holds, Holds, h.processor, if_neg]
    intro hgiven
    obtain ⟨s, hs, hserial, hkey⟩ := hgiven
    exact hother ⟨⟨s, hs, hserial⟩, hkey⟩
  | registry g identity =>
    rw [Holds, Holds, h.listed, if_neg]
    intro hgiven
    obtain ⟨r, hr, hgroup, hidentity, hkey⟩ := hgiven
    exact hother ⟨⟨hgroup, r, hr, hidentity⟩, hkey⟩

/-- Where there is an entry for a key, the place is used by a provider published under that key. -/
structure Covered (fleet : Fleet) (w : World σ) : Prop extends Coherent fleet w where
  fit : ∀ p ∈ fleet.members, w.isPublished p = true → p.config.check = .ok ()
  filed : Filed w
  used : ∀ place k, w.Holds place k →
    ∃ p ∈ fleet.members, w.isPublished p = true ∧ p.config.key = k ∧ place.UsedBy p

theorem covered_start (fleet : Fleet) (outside : σ) : Covered fleet (World.start outside) where
  toCoherent := coherent_start fleet outside
  fit p hp hpublished := by simp [World.start, isPublished, provider] at hpublished
  filed g identity x hx := by simp [World.start, services] at hx
  used place k hk := by
    cases place with
    | server n => simp [Holds, World.start, processor?] at hk
    | registry g identity => simp [Holds, World.start, World.listed, services] at hk

theorem Covered.same (h : Covered fleet w) (hcoherent : Coherent fleet w')
    (hpublished : ∀ q, w'.isPublished q = w.isPublished q) (hsame : SameBindings w w') :
    Covered fleet w' where
  toCoherent := hcoherent
  fit q hq := by rw [hpublished]; exact h.fit q hq
  filed := hsame.filed h.filed
  used place k hk := by
    rw [hsame.holds] at hk
    simpa only [hpublished] using h.used place k hk

/-- New entries are covered if some publication uses all of their places, and so are the others if
no publication has come to an end. -/
theorem Covered.rebound (h : Covered fleet w) (hcoherent : Coherent fleet w')
    {servers : List ServerConfig} {registries : List RegistryConfig} {v : Option Invoker}
    (hpublished : ∀ q ∈ fleet.members, w.isPublished q = true → w'.isPublished q = true)
    (hfit : ∀ q ∈ fleet.members, w'.isPublished q = true → q.config.check = .ok ())
    (hbound : Rebound w w' p servers registries v)
    (hcover : v ≠ none → ∃ q ∈ fleet.members, w'.isPublished q = true ∧
      q.config.key = p.config.key ∧ ∀ place : Place, place.Among p servers registries →
        place.UsedBy q) :
    Covered fleet w' where
  toCoherent := hcoherent
  fit := hfit
  filed := hbound.filed
  used place k hk := by
    by_cases hnew : place.Among p servers registries ∧ p.config.key = k
    · obtain ⟨hplace, rfl⟩ := hnew
      obtain ⟨q, hq, hlive, hkey, hused⟩ := hcover ((hbound.holds hplace).1 hk)
      exact ⟨q, hq, hlive, hkey, hused place hplace⟩
    · obtain ⟨q, hq, hlive, hkey, hused⟩ := h.used place k ((hbound.holds_other hnew).1 hk)
      exact ⟨q, hq, hpublished q hq hlive, hkey, hused⟩

variable {ask : Ask σ}

theorem Coherent.exists_published (h : Coherent fleet w) (hp : p ∈ fleet.members)
    (hcount : w.liveCount p ≠ 0) :
    ∃ q ∈ fleet.members, w.isPublished q = true ∧ q.config.key = p.config.key := by
  rw [h.liveCount_eq hp] at hcount
  obtain ⟨q, hq, hlive⟩ := List.countP_pos_iff.1 (Nat.pos_of_ne_zero hcount)
  rw [Bool.and_eq_true, decide_eq_true_eq] at hlive
  exact ⟨q, hq, hlive⟩

theorem isPublished_failed {n : Nat} {counts : ExportCounts} {e : ProviderError}
    (hlimit : (w.services p.group).counts.acquire p.config.key p.config.repeatLimit.toInt =
      .ok (n, counts))
    (hattempt : ((w.admitted p n counts).attempt ask p).outcome.result = .error e) (q : Provider) :
    (((w.admitted p n counts).attempt ask p).outcome.world.discard ask p
      ((w.admitted p n counts).attempt ask p)).isPublished q = w.isPublished q := by
  rw [isPublished_rebooked (rebooked_failed hlimit hattempt)]
  split
  · next hq => rw [isPublished, provider, provider, hq]
  · rfl

theorem Covered.publishNow (hsheltered : fleet.Sheltered) (hreleases : ask.Releases)
    (h : Covered fleet w) (hp : p ∈ fleet.members) :
    Covered fleet (w.publishNow ask p).world := by
  have hcoherent := @Coherent.publishNow σ fleet w ask p h.toCoherent hp
  have hcourse := publishNow_course ask w p
  generalize w.publishNow ask p = outcome at hcourse hcoherent
  cases hcourse with
  | already hpublished => exact h
  | unfit hpublished hcheck => exact h
  | refused hpublished hcheck hlimit =>
    refine h.same hcoherent (fun q => ?_) (sameBindings_prepared w p)
    rw [isPublished, provider_prepared, isPublished]
  | @failed hpublished hcheck n counts e hlimit hattempt =>
    have hstill := @isPublished_failed σ w p ask n counts e hlimit hattempt
    have hbound := rebound_failed hreleases h.filed hlimit
    refine h.rebound hcoherent ?_ ?_ hbound ?_
    · intro q hq hlive
      rw [hstill, hlive]
    · intro q hq hlive
      exact h.fit q hq (by rw [← hstill, hlive])
    · intro hkept
      -- Entries are kept only for another live publication, which shelters them.
      have hcount : w.liveCount p ≠ 0 := by
        intro hzero
        rw [if_pos hzero] at hkept
        exact hkept rfl
      obtain ⟨q, hq, hlive, hkey⟩ := h.exists_published hp hcount
      have hne : q ≠ p := by
        intro hsame
        subst hsame
        rw [hpublished] at hlive
        cases hlive
      have hbeside : p.MayFailBeside q := by
        refine ⟨hkey, ⟨h.fit q hq hlive, hcheck⟩, ?_⟩
        obtain ⟨hroom, -, -⟩ := ExportCounts.acquire_eq_ok_iff.1 hlimit
        rw [liveCount] at hcount
        omega
      refine ⟨q, hq, by rw [hstill, hlive], hkey, fun place hplace => ?_⟩
      exact hsheltered p hp q hq hne hbeside place (exposedBy_of_among_attempt hattempt hplace)
  | @done hpublished hcheck n counts hlimit hattempt =>
    have hbooked := @rebooked_done σ ask w p n counts hlimit hattempt
    have hself := isPublished_rebooked hbooked p
    rw [if_pos rfl] at hself
    refine h.rebound hcoherent ?_ ?_ (rebound_done ask h.filed p n counts) ?_
    · intro q hq hlive
      rw [isPublished_rebooked hbooked]
      split
      · rfl
      · exact hlive
    · intro q hq hlive
      rw [isPublished_rebooked hbooked] at hlive
      split at hlive
      · next hnumber => rw [← fleet.eq_of_number hp hq hnumber, hcheck]
      · exact h.fit q hq hlive
    · intro _
      exact ⟨p, hp, hself, rfl, fun place hplace => usedBy_of_among_attempt hplace⟩

theorem Covered.withdraw (hreleases : ask.Releases) (h : Covered fleet w) (hp : p ∈ fleet.members) :
    Covered fleet (w.withdraw ask p) := by
  have hcoherent := @Coherent.withdraw σ fleet w ask p h.toCoherent hp
  cases hpublished : w.isPublished p with
  | false =>
    refine h.same hcoherent (isPublished_withdraw hpublished) ?_
    rw [withdraw_unpublished ask hpublished]
    exact .of_eq rfl fun _ => rfl
  | true =>
    have hbooked := @rebooked_withdraw σ ask w p hpublished
    have hbound := rebound_withdraw hreleases h.filed hpublished
    have hothers (q : Provider) (hq : q ∈ fleet.members) (hne : q ≠ p) :
        (w.withdraw ask p).isPublished q = w.isPublished q := by
      rw [isPublished_rebooked hbooked, if_neg (fleet.number_ne hp hq hne)]
    refine ⟨hcoherent, ?_, hbound.filed, ?_⟩
    · intro q hq hlive
      rw [isPublished_rebooked hbooked] at hlive
      split at hlive
      · cases hlive
      · exact h.fit q hq hlive
    · intro place k hk
      by_cases hgone : place.UsedBy p ∧ p.config.key = k
      · obtain ⟨hplace, rfl⟩ := hgone
        exact absurd rfl ((hbound.holds hplace).1 hk)
      · obtain ⟨q, hq, hlive, hkey, hused⟩ := h.used place k ((hbound.holds_other hgone).1 hk)
        have hne : q ≠ p := by
          intro hsame
          subst hsame
          exact hgone ⟨hused, hkey⟩
        exact ⟨q, hq, by rw [hothers q hq hne, hlive], hkey, hused⟩

theorem Covered.move (hsheltered : fleet.Sheltered) (hreleases : ask.Releases)
    (h : Covered fleet w) (hmove : Move ask fleet w w') : Covered fleet w' := by
  have hcoherent := h.toCoherent.move hmove
  cases hmove with
  | publish hp => exact h.publishNow hsheltered hreleases hp
  | withdraw hp => exact h.withdraw hreleases hp
  | schedule hp due => exact h.same hcoherent (fun _ => rfl) (.of_eq rfl fun _ => rfl)
  | unschedule i => exact h.same hcoherent (fun _ => rfl) (.of_eq rfl fun _ => rfl)
  | write hwrite => exact h.same hcoherent (fun _ => rfl) (.of_eq rfl fun _ => rfl)
  | log hn => exact h.same hcoherent (fun _ => rfl) (.of_eq rfl fun _ => rfl)
  | build s =>
    exact h.same hcoherent (sameBooks_build ask w s).isPublished (sameBindings_build ask w s)
  | lookUp g r =>
    exact h.same hcoherent (sameBooks_registryFor ask w g r).isPublished
      (sameBindings_registryFor w g r)

theorem covered_run (hsheltered : fleet.Sheltered) (hreleases : ask.Releases) (outside : σ)
    {ops : List Operation} (hops : ∀ op ∈ ops, op.Within fleet) :
    Covered fleet (run ask ops (World.start outside)) :=
  run_keeps ask (fun _ h => h.toClosed) (fun _ _ h hmove => h.move hsheltered hreleases hmove) hops
    (covered_start fleet outside)

/-- A key under which nobody is published has no entry. -/
theorem Covered.not_holds (h : Covered fleet w) {k : ServiceKey}
    (hnone : ∀ p ∈ fleet.members, p.config.key = k → w.isPublished p = false) (place : Place) :
    ¬w.Holds place k := by
  intro hk
  obtain ⟨p, hp, hlive, hkey, -⟩ := h.used place k hk
  rw [hnone p hp hkey] at hlive
  cases hlive

end Covered

end ServicePublisher
