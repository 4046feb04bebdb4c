import ServicePublisher.Proofs.Rebound

/-! Collaborators that accept every call. Every stop of a walk over them accepts the provider, so a
publication binds and announces it everywhere, unless its key has no room. -/
namespace ServicePublisher

open World

variable {σ α : Type}

def Ask.Accepts (ask : Ask σ) : Prop := ∀ c outside, (ask c outside).1 = none

theorem Ask.Accepts.releases {ask : Ask σ} (h : ask.Accepts) : ask.Releases :=
  fun c outside _ => h c outside

theorem visitAll_of_accepts {visit : α → World σ → Stop σ}
    {report : World σ → α → ProviderError → World σ}
    (hvisit : ∀ x w, (visit x w).accepted = true ∧ (visit x w).outcome.result = .ok ())
    (xs : List α) (w : World σ) :
    (visitAll visit report xs w).accepted = xs ∧
      (visitAll visit report xs w).outcome.result = .ok () := by
  induction xs generalizing w with
  | nil => exact ⟨rfl, rfl⟩
  | cons x xs ih =>
    have hx := hvisit x w
    rw [visitAll]
    generalize visit x w = stop at hx
    obtain ⟨accepted, result, w'⟩ := stop
    obtain ⟨rfl, rfl⟩ := hx
    have hrest := ih w'
    simpa [Walk.after] using hrest

namespace World

variable {ask : Ask σ}

theorem perform_of_accepts (h : ask.Accepts) (w : World σ) (c : Call) :
    (w.perform ask c).result = .ok () := by
  have hcourse := perform_course ask w c
  generalize w.perform ask c = outcome at hcourse
  cases hcourse with
  | accepted hanswer => rfl
  | refused hanswer => simp [h c w.outside] at hanswer

theorem bindServer_of_accepts (h : ask.Accepts) (c : ProviderConfig) (v : Invoker)
    (s : ServerConfig) (w : World σ) :
    (bindServer ask c v s w).accepted = true ∧
      (bindServer ask c v s w).outcome.result = .ok () := by
  have hbuilt : (w.build ask s).result = .ok () := by
    rw [build]
    split
    · rfl
    · exact perform_of_accepts h w _
  rw [bindServer]
  generalize w.build ask s = built at hbuilt
  obtain ⟨result, w₁⟩ := built
  cases hbuilt
  have hregistered := perform_of_accepts h w₁ (.server s (.register (w₁.view c) v))
  dsimp only
  generalize w₁.perform ask (.server s (.register (w₁.view c) v)) = registered at hregistered
  obtain ⟨result, w₂⟩ := registered
  cases hregistered
  refine ⟨rfl, ?_⟩
  dsimp only
  split
  · exact perform_of_accepts h w₂ _
  · rfl

theorem registryFor_of_accepts (h : ask.Accepts) (g : Nat) (r : RegistryConfig) (w : World σ) :
    ∃ x, (registryFor ask g r w).result = .ok x := by
  rw [registryFor]
  split
  · exact ⟨_, rfl⟩
  · have hcreated := perform_of_accepts h w (.registry g r .create)
    generalize w.perform ask (.registry g r .create) = created at hcreated
    obtain ⟨result, w₁⟩ := created
    cases hcreated
    exact ⟨r, rfl⟩

theorem prime_of_accepts (h : ask.Accepts) (g : Nat) (registries : List RegistryConfig)
    (w : World σ) : (prime ask g registries w).result = .ok () := by
  induction registries generalizing w with
  | nil => rfl
  | cons r rs ih =>
    obtain ⟨x, hfound⟩ := registryFor_of_accepts h g r w
    rw [prime]
    generalize registryFor ask g r w = found at hfound
    obtain ⟨result, w₁⟩ := found
    cases hfound
    exact ih w₁

theorem announceStop_of_accepts (h : ask.Accepts) (p : Provider) (r : RegistryConfig)
    (w : World σ) :
    (announceStop ask p r w).accepted = true ∧
      (announceStop ask p r w).outcome.result = .ok () := by
  have hannounced : (announceIn ask p r w).result = .ok () := by
    obtain ⟨x, hfound⟩ := registryFor_of_accepts h p.group r w
    rw [announceIn]
    generalize registryFor ask p.group r w = found at hfound
    obtain ⟨result, w₁⟩ := found
    cases hfound
    have hinit := perform_of_accepts h w₁ (.registry p.group x .init)
    dsimp only
    generalize w₁.perform ask (.registry p.group x .init) = init at hinit
    obtain ⟨result, w₂⟩ := init
    cases hinit
    have hstart := perform_of_accepts h w₂ (.registry p.group x .start)
    dsimp only
    generalize w₂.perform ask (.registry p.group x .start) = start at hstart
    obtain ⟨result, w₃⟩ := start
    cases hstart
    exact perform_of_accepts h w₃ _
  rw [announceStop]
  exact ⟨by rw [hannounced]; rfl, hannounced⟩

theorem bindServers_of_accepts (h : ask.Accepts) (c : ProviderConfig) (v : Invoker) (w : World σ) :
    (w.bindServers ask c v).accepted = c.servers ∧
      (w.bindServers ask c v).outcome.result = .ok () := by
  rw [bindServers]
  exact visitAll_of_accepts (bindServer_of_accepts h c v) c.servers w

theorem announce_of_accepts (h : ask.Accepts) (p : Provider) (w : World σ) :
    (w.announce ask p).accepted = p.config.announcedIn ∧
      (w.announce ask p).outcome.result = .ok () := by
  rw [announce]
  exact visitAll_of_accepts (announceStop_of_accepts h p) p.config.announcedIn w

theorem attempt_of_accepts (h : ask.Accepts) (w : World σ) (p : Provider) :
    (w.attempt ask p).servers = p.config.servers ∧
      (w.attempt ask p).registries = p.config.announcedIn ∧
      (w.attempt ask p).outcome.result = .ok () := by
  have hcourse := attempt_course ask w p
  generalize w.attempt ask p = a at hcourse
  cases hcourse with
  | unprimed hprime =>
    have hok := prime_of_accepts h p.group p.config.announcedIn (w.openInvoker p)
    rw [hprime] at hok
    cases hok
  | @unbound w₁ e hprime hbound =>
    have hok := (bindServers_of_accepts h p.config (w.nextInvoker p) w₁).2
    rw [boundAfter, hok] at hbound
    cases hbound
  | @announced w₁ hprime hbound =>
    have hservers := bindServers_of_accepts h p.config (w.nextInvoker p) w₁
    have hregistries := announce_of_accepts h p (listening p (w.boundAfter ask p w₁))
    exact ⟨hservers.1, hregistries.1, hregistries.2⟩

variable {w : World σ} {p : Provider}

/-- A key has room for a provider, given its limit and the number of those published already. -/
def HasRoom (w : World σ) (p : Provider) : Prop :=
  p.config.repeatLimit.toInt ≤ 0 ∨ (w.liveCount p : Int) < p.config.repeatLimit.toInt

/-- Where there is room, a provider is published, bound to all its servers and announced in all its
registries. -/
theorem publishNow_of_room (h : ask.Accepts) (hpublished : w.isPublished p = false)
    (hcheck : p.config.check = .ok ()) (hroom : w.HasRoom p) :
    (w.publishNow ask p).result = .ok () ∧
      Rebooked w (w.publishNow ask p).world p
        { w.provider p with
          published := true, invoker := some (w.nextInvoker p),
          attempts := (w.provider p).attempts + 1 }
        (some (.republish p)) (w.liveCount p + 1) (some p) ∧
      (Filed w → Rebound w (w.publishNow ask p).world p p.config.servers p.config.announcedIn
        (some (w.nextInvoker p))) := by
  have hcourse := publishNow_course ask w p
  generalize w.publishNow ask p = outcome at hcourse
  cases hcourse with
  | already hlive => simp [hpublished] at hlive
  | unfit _ hunfit => simp [hcheck] at hunfit
  | refused _ _ hlimit =>
    have hok := ExportCounts.acquire_eq_ok_iff.2 ⟨hroom, rfl, rfl⟩
    simp [hok] at hlimit
  | @failed _ _ n counts e hlimit hattempt =>
    have hok := (attempt_of_accepts h (w.admitted p n counts) p).2.2
    simp [hok] at hattempt
  | @done _ _ n counts hlimit hattempt =>
    obtain ⟨hservers, hregistries, -⟩ := attempt_of_accepts h (w.admitted p n counts) p
    refine ⟨rfl, rebooked_done hlimit hattempt, fun hfiled => ?_⟩
    rw [← hservers, ← hregistries]
    exact rebound_done ask hfiled p n counts

/-- Where there is none, it is refused as a duplicate before any call. -/
theorem publishNow_of_full (ask : Ask σ) (hpublished : w.isPublished p = false)
    (hcheck : p.config.check = .ok ()) (hfull : ¬w.HasRoom p) :
    w.publishNow ask p =
      ⟨.error (.duplicate p.config.key.text p.config.repeatLimit.toInt.toNat), w.prepared p⟩ := by
  have hcourse := publishNow_course ask w p
  generalize w.publishNow ask p = outcome at hcourse
  cases hcourse with
  | already hlive => simp [hpublished] at hlive
  | unfit _ hunfit => simp [hcheck] at hunfit
  | refused _ _ hlimit =>
    rw [← ExportCounts.eq_of_acquire_eq_error hlimit]
  | failed _ _ hlimit => exact absurd (ExportCounts.acquire_eq_ok_iff.1 hlimit).1 hfull
  | done _ _ hlimit => exact absurd (ExportCounts.acquire_eq_ok_iff.1 hlimit).1 hfull

end World

end ServicePublisher
