import ServicePublisher.Proofs.Coverage

/-! Entries that outlive all publications of their key. Where a provider exposes a place that
another one of its key does not use, there are collaborators with which this happens: they break
when the place accepts the provider. So it never happens exactly to fleets that are sheltered. -/
namespace ServicePublisher

open World

def Place.isServer : Place → ServerConfig → Bool
  | .server n, s => s.serial == n
  | .registry .., _ => false

def Place.isRegistry : Place → Nat → RegistryConfig → Bool
  | .server _, _, _ => false
  | .registry g identity, g', r => g' == g && r.identity == identity

def Place.isHit (place : Place) : Call → Bool
  | .server s (.register ..) => place.isServer s
  | .registry g r (.register _) => place.isRegistry g r
  | _ => false

/-- What collaborators answer when they are broken. -/
def outage : ProviderError := .runtime "outage" none

/-- Collaborators that break at a place: they accept all calls up to the first that writes an entry
there, and later ones only when they take an entry back. -/
def breakingAt (place : Place) : Ask Bool := fun c broken =>
  if c.releases then (none, broken)
  else if broken then (some outage, true)
  else (none, place.isHit c)

theorem breakingAt_releases (place : Place) : (breakingAt place).Releases := by
  intro c outside hc
  rw [breakingAt, if_pos hc]

section Calls

variable {σ : Type} {place : Place} {w : World Bool} {c : Call}

theorem perform_intact (hc : c.releases = false) (hw : w.outside = false) :
    (w.perform (breakingAt place) c).result = .ok () ∧
      (w.perform (breakingAt place) c).world.outside = place.isHit c := by
  have hanswer : breakingAt place c w.outside = (none, place.isHit c) := by
    rw [breakingAt, hc, hw]
    rfl
  have hasked : (w.asked (breakingAt place) c).outside = place.isHit c := by
    rw [asked, hanswer]
    rfl
  have hcourse := perform_course (breakingAt place) w c
  generalize w.perform (breakingAt place) c = outcome at hcourse
  cases hcourse with
  | accepted _ => exact ⟨rfl, by rw [outside_accept, hasked]⟩
  | refused hrefused =>
    rw [hanswer] at hrefused
    cases hrefused

theorem perform_broken (hc : c.releases = false) (hw : w.outside = true) :
    (w.perform (breakingAt place) c).result = .error outage ∧
      (w.perform (breakingAt place) c).world.outside = true := by
  have hanswer : breakingAt place c w.outside = (some outage, true) := by
    rw [breakingAt, hc, hw]
    rfl
  have hasked : (w.asked (breakingAt place) c).outside = true := by
    rw [asked, hanswer]
    rfl
  have hcourse := perform_course (breakingAt place) w c
  generalize w.perform (breakingAt place) c = outcome at hcourse
  cases hcourse with
  | accepted haccepted =>
    rw [hanswer] at haccepted
    cases haccepted
  | refused hrefused =>
    rw [hanswer] at hrefused
    cases hrefused
    exact ⟨rfl, hasked⟩

end Calls

section Walks

variable {α : Type} {visit : α → World Bool → Stop Bool}
  {report : World Bool → α → ProviderError → World Bool} {P : World Bool → Prop}
  {hit ends : α → Bool} {xs : List α} {w : World Bool}

/-- Stops of a walk that breaks at those that are hit, and ends at once at some of them. -/
structure Breaks (visit : α → World Bool → Stop Bool) (P : World Bool → Prop)
    (hit ends : α → Bool) : Prop where
  keeps : ∀ x w, P w → P (visit x w).outcome.world
  intact : ∀ x w, P w → w.outside = false → (visit x w).accepted = true ∧
    (visit x w).outcome.world.outside = hit x ∧
    (visit x w).outcome.result = if hit x && ends x then .error outage else .ok ()
  broken : ∀ x w, P w → w.outside = true → (visit x w).outcome.result = .error outage

theorem Breaks.walk_intact (h : Breaks visit P hit ends) (hp : P w) (hw : w.outside = false)
    (hmiss : ∀ x ∈ xs, hit x = false) :
    (visitAll visit report xs w).outcome.result = .ok () ∧
      (visitAll visit report xs w).outcome.world.outside = false := by
  induction xs generalizing w with
  | nil => exact ⟨rfl, hw⟩
  | cons x xs ih =>
    obtain ⟨-, houtside, hresult⟩ := h.intact x w hp hw
    have hp' := h.keeps x w hp
    rw [hmiss x List.mem_cons_self] at houtside hresult
    rw [visitAll]
    generalize visit x w = stop at houtside hresult hp'
    obtain ⟨accepted, result, w'⟩ := stop
    cases hresult
    exact ih hp' houtside fun y hy => hmiss y (List.mem_cons_of_mem x hy)

theorem Breaks.walk_broken (h : Breaks visit P hit ends) (hp : P w) (hw : w.outside = true)
    (hxs : xs ≠ []) : (visitAll visit report xs w).outcome.result = .error outage := by
  cases xs with
  | nil => exact absurd rfl hxs
  | cons x xs =>
    have hresult := h.broken x w hp hw
    rw [visitAll]
    generalize visit x w = stop at hresult
    obtain ⟨accepted, result, w'⟩ := stop
    cases hresult
    rfl

/-- A walk with a stop that is hit is accepted there, and ends there or at the next stop. -/
theorem Breaks.walk_hit (h : Breaks visit P hit ends) (hp : P w) (hw : w.outside = false)
    (hhit : ∃ x ∈ xs, hit x = true) :
    (∃ x ∈ (visitAll visit report xs w).accepted, hit x = true) ∧
      ((visitAll visit report xs w).outcome.result = .ok () →
        (visitAll visit report xs w).outcome.world.outside = true) ∧
      ((∃ x ∈ xs, hit x = true ∧ (ends x = true ∨ x ∈ xs.dropLast)) →
        (visitAll visit report xs w).outcome.result = .error outage) := by
  induction xs generalizing w with
  | nil =>
    obtain ⟨x, hx, -⟩ := hhit
    cases hx
  | cons x xs ih =>
    obtain ⟨haccepted, houtside, hresult⟩ := h.intact x w hp hw
    have hp' := h.keeps x w hp
    rw [visitAll]
    generalize visit x w = stop at haccepted houtside hresult hp'
    obtain ⟨accepted, result, w'⟩ := stop
    dsimp only at haccepted houtside hresult hp'
    subst haccepted
    cases hx : hit x with
    | true =>
      rw [hx] at houtside hresult
      -- A stop that is hit ends the walk, or else the next stop does if there is one.
      cases hends : ends x with
      | true =>
        obtain rfl : result = .error outage := by rw [hresult, hends]; rfl
        refine ⟨⟨x, List.mem_singleton_self x, hx⟩, fun hok => ?_, fun _ => rfl⟩
        cases hok
      | false =>
        obtain rfl : result = .ok () := by rw [hresult, hends]; rfl
        refine ⟨⟨x, List.mem_append_left _ (List.mem_singleton_self x), hx⟩, fun hok => ?_, ?_⟩
        · by_cases hxs : xs = []
          · subst hxs
            exact houtside
          · have hbroken : (visitAll visit report xs w').outcome.result = .error outage :=
              h.walk_broken hp' houtside hxs
            cases hok.symm.trans hbroken
        · intro hgiven
          obtain ⟨y, hy, -, hlate⟩ := hgiven
          refine h.walk_broken hp' houtside ?_
          intro hsame
          subst hsame
          obtain rfl := List.mem_singleton.1 hy
          obtain hlate | hlate := hlate
          · rw [hends] at hlate
            cases hlate
          · cases hlate
    | false =>
      rw [hx] at houtside hresult
      obtain rfl : result = .ok () := hresult
      have hrest : ∃ y ∈ xs, hit y = true := by
        obtain ⟨y, hy, hyhit⟩ := hhit
        obtain rfl | hy := List.mem_cons.1 hy
        · rw [hx] at hyhit
          cases hyhit
        · exact ⟨y, hy, hyhit⟩
      obtain ⟨⟨z, hz, hzhit⟩, hok, herror⟩ := @ih w' hp' houtside hrest
      refine ⟨⟨z, List.mem_append_right _ hz, hzhit⟩, hok, ?_⟩
      intro hgiven
      obtain ⟨y, hy, hyhit, hlate⟩ := hgiven
      have hxs : xs ≠ [] := by
        intro hsame
        subst hsame
        obtain ⟨z, hz, -⟩ := hrest
        cases hz
      have hne : y ≠ x := by
        intro hsame
        subst hsame
        rw [hx] at hyhit
        cases hyhit
      refine herror ⟨y, List.mem_of_ne_of_mem hne hy, hyhit, hlate.imp_right fun hlate => ?_⟩
      rw [List.dropLast_cons_of_ne_nil hxs] at hlate
      exact List.mem_of_ne_of_mem hne hlate

end Walks

section Attempts

variable {place : Place} {w : World Bool} {p : Provider}

theorem build_intact (s : ServerConfig) (hw : w.outside = false) :
    (w.build (breakingAt place) s).result = .ok () ∧
      (w.build (breakingAt place) s).world.outside = false := by
  rw [build]
  split
  · exact ⟨rfl, hw⟩
  · exact perform_intact rfl hw

theorem build_broken (s : ServerConfig) (hw : w.outside = true) :
    (w.build (breakingAt place) s).result = .ok () ∧
        (w.build (breakingAt place) s).world.outside = true ∨
      (w.build (breakingAt place) s).result = .error outage := by
  rw [build]
  split
  · exact .inl ⟨rfl, hw⟩
  · exact .inr (perform_broken rfl hw).1

theorem breaks_bindServer (place : Place) (c : ProviderConfig) (v : Invoker) :
    Breaks (bindServer (breakingAt place) c v) (fun _ => True) place.isServer
      (fun s => s.settings.autoStart) where
  keeps _ _ _ := trivial
  intact s w _ hw := by
    obtain ⟨hbuilt, houtside⟩ := @build_intact place w s hw
    rw [bindServer]
    generalize w.build (breakingAt place) s = built at hbuilt houtside
    obtain ⟨result, w₁⟩ := built
    cases hbuilt
    obtain ⟨hregistered, houtside⟩ := @perform_intact place w₁
      (.server s (.register (w₁.view c) v)) rfl houtside
    dsimp only
    generalize w₁.perform (breakingAt place) (.server s (.register (w₁.view c) v)) = registered
      at hregistered houtside
    obtain ⟨result, w₂⟩ := registered
    cases hregistered
    dsimp only at houtside ⊢
    refine ⟨rfl, ?_⟩
    cases hstart : s.settings.autoStart with
    | false => exact ⟨houtside, by rw [Bool.and_false]; rfl⟩
    | true =>
      cases hhit : place.isServer s with
      | false =>
        obtain ⟨hstarted, hafter⟩ := @perform_intact place w₂ (.server s .start) rfl
          (houtside.trans hhit)
        exact ⟨hafter, hstarted⟩
      | true =>
        obtain ⟨hstarted, hafter⟩ := @perform_broken place w₂ (.server s .start) rfl
          (houtside.trans hhit)
        exact ⟨hafter, hstarted⟩
  broken s w _ hw := by
    have hbuilt := @build_broken place w s hw
    rw [bindServer]
    generalize w.build (breakingAt place) s = built at hbuilt
    obtain ⟨result, w₁⟩ := built
    obtain ⟨hbuilt, houtside⟩ | hbuilt := hbuilt
    · cases hbuilt
      obtain ⟨hregistered, -⟩ := @perform_broken place w₁
        (.server s (.register (w₁.view c) v)) rfl houtside
      dsimp only
      generalize w₁.perform (breakingAt place) (.server s (.register (w₁.view c) v)) = registered
        at hregistered
      obtain ⟨result, w₂⟩ := registered
      cases hregistered
      rfl
    · cases hbuilt
      rfl

theorem registryFor_intact (g : Nat) (r : RegistryConfig) (hw : w.outside = false) :
    (∃ x, (registryFor (breakingAt place) g r w).result = .ok x) ∧
      (registryFor (breakingAt place) g r w).world.outside = false := by
  rw [registryFor]
  split
  · exact ⟨⟨_, rfl⟩, hw⟩
  · obtain ⟨hcreated, houtside⟩ := @perform_intact place w (.registry g r .create) rfl hw
    generalize w.perform (breakingAt place) (.registry g r .create) = created at hcreated houtside
    obtain ⟨result, w₁⟩ := created
    cases hcreated
    exact ⟨⟨r, rfl⟩, houtside⟩

theorem registryFor_broken (g : Nat) (r : RegistryConfig) (hw : w.outside = true) :
    (∃ x, (registryFor (breakingAt place) g r w).result = .ok x ∧
        (registryFor (breakingAt place) g r w).world.outside = true) ∨
      (registryFor (breakingAt place) g r w).result = .error outage := by
  rw [registryFor]
  split
  · exact .inl ⟨_, rfl, hw⟩
  · obtain ⟨hcreated, -⟩ := @perform_broken place w (.registry g r .create) rfl hw
    generalize w.perform (breakingAt place) (.registry g r .create) = created at hcreated
    obtain ⟨result, w₁⟩ := created
    cases hcreated
    exact .inr rfl

theorem prime_intact (g : Nat) (registries : List RegistryConfig) (hw : w.outside = false) :
    (prime (breakingAt place) g registries w).result = .ok () ∧
      (prime (breakingAt place) g registries w).world.outside = false := by
  induction registries generalizing w with
  | nil => exact ⟨rfl, hw⟩
  | cons r rs ih =>
    obtain ⟨⟨x, hfound⟩, houtside⟩ := @registryFor_intact place w g r hw
    rw [prime]
    generalize registryFor (breakingAt place) g r w = found at hfound houtside
    obtain ⟨result, w₁⟩ := found
    cases hfound
    exact ih houtside

theorem breaks_announceStop (place : Place) (p : Provider) :
    Breaks (announceStop (breakingAt place) p) Filed (place.isRegistry p.group)
      (fun _ => false) where
  keeps r w hw :=
    announceStop_keeps (fun _ _ _ _ hw => filed_perform hw _) (fun _ _ _ hw => hw) hw
  intact r w hfiled hw := by
    obtain ⟨⟨x, hfound⟩, houtside⟩ := @registryFor_intact place w p.group r hw
    obtain ⟨hx, -⟩ := registryFor_found hfiled hfound
    rw [announceStop, announceIn]
    generalize registryFor (breakingAt place) p.group r w = found at hfound houtside
    obtain ⟨result, w₁⟩ := found
    cases hfound
    obtain ⟨hinit, houtside⟩ := @perform_intact place w₁ (.registry p.group x .init) rfl houtside
    dsimp only
    generalize w₁.perform (breakingAt place) (.registry p.group x .init) = init at hinit houtside
    obtain ⟨result, w₂⟩ := init
    cases hinit
    obtain ⟨hstart, houtside⟩ := @perform_intact place w₂ (.registry p.group x .start) rfl houtside
    dsimp only
    generalize w₂.perform (breakingAt place) (.registry p.group x .start) = start
      at hstart houtside
    obtain ⟨result, w₃⟩ := start
    cases hstart
    obtain ⟨hregistered, houtside⟩ := @perform_intact place w₃
      (.registry p.group x (.register (w₃.view p.config))) rfl houtside
    dsimp only
    have hhit : place.isRegistry p.group x = place.isRegistry p.group r := by
      cases place with
      | server n => rfl
      | registry g identity => rw [Place.isRegistry, Place.isRegistry, hx]
    refine ⟨by rw [hregistered]; rfl, houtside.trans hhit, ?_⟩
    rw [hregistered, Bool.and_false]
    rfl
  broken r w _ hw := by
    have hfound := @registryFor_broken place w p.group r hw
    rw [announceStop, announceIn]
    generalize registryFor (breakingAt place) p.group r w = found at hfound
    obtain ⟨result, w₁⟩ := found
    obtain ⟨x, hfound, houtside⟩ | hfound := hfound
    · cases hfound
      obtain ⟨hinit, -⟩ := @perform_broken place w₁ (.registry p.group x .init) rfl houtside
      dsimp only
      generalize w₁.perform (breakingAt place) (.registry p.group x .init) = init at hinit
      obtain ⟨result, w₂⟩ := init
      cases hinit
      rfl
    · cases hfound
      rfl

theorem Place.isServer_eq_false (hunused : ¬place.UsedBy p) {s : ServerConfig}
    (hs : s ∈ p.config.servers) : place.isServer s = false := by
  cases place with
  | registry g identity => rfl
  | server n =>
    rw [isServer, beq_eq_false_iff_ne]
    exact fun hserial => hunused ⟨s, hs, hserial⟩

theorem Place.isRegistry_eq_false (hunused : ¬place.UsedBy p) {r : RegistryConfig}
    (hr : r ∈ p.config.announcedIn) : place.isRegistry p.group r = false := by
  cases place with
  | server n => rfl
  | registry g identity =>
    rw [isRegistry, Bool.and_eq_false_iff, beq_eq_false_iff_ne, beq_eq_false_iff_ne]
    by_contra hboth
    rw [not_or, not_not, not_not] at hboth
    exact hunused ⟨hboth.1, r, hr, hboth.2⟩

/-- Once primed, an attempt goes on to its servers as if nothing had happened. -/
theorem primed_intact (hfiled : Filed w) (hw : w.outside = false) {primed : Outcome Bool Unit}
    (hprime : prime (breakingAt place) p.group p.config.announcedIn (w.openInvoker p) = primed) :
    primed.result = .ok () ∧ primed.world.outside = false ∧ Filed primed.world := by
  subst hprime
  obtain ⟨hresult, houtside⟩ :=
    @prime_intact place (w.openInvoker p) p.group p.config.announcedIn hw
  exact ⟨hresult, houtside, (sameBindings_prime _ (w.openInvoker p) _ _).filed hfiled⟩

theorem boundAfter_intact {w₁ : World Bool} (hw : w₁.outside = false)
    (hmiss : ∀ s ∈ p.config.servers, place.isServer s = false) :
    (w.boundAfter (breakingAt place) p w₁).outcome.result = .ok () ∧
      (w.boundAfter (breakingAt place) p w₁).outcome.world.outside = false :=
  (breaks_bindServer place p.config (w.nextInvoker p)).walk_intact trivial hw hmiss

theorem filed_listening {w₁ : World Bool} (h : Filed w₁) :
    Filed (listening p (w.boundAfter (breakingAt place) p w₁)) :=
  (rebound_bindServers (breakingAt place) h p (w.nextInvoker p)).filed

/-- An attempt that does not reach the place succeeds. -/
theorem attempt_intact (hfiled : Filed w) (hw : w.outside = false) (hunused : ¬place.UsedBy p) :
    (w.attempt (breakingAt place) p).outcome.result = .ok () ∧
      (w.attempt (breakingAt place) p).outcome.world.outside = false := by
  have hmiss (s : ServerConfig) (hs : s ∈ p.config.servers) := Place.isServer_eq_false hunused hs
  have hcourse := attempt_course (breakingAt place) w p
  generalize w.attempt (breakingAt place) p = a at hcourse
  cases hcourse with
  | unprimed hprime =>
    obtain ⟨hresult, -, -⟩ := primed_intact hfiled hw hprime
    cases hresult
  | @unbound w₁ e hprime hbound =>
    obtain ⟨-, houtside, -⟩ := primed_intact hfiled hw hprime
    obtain ⟨hresult, -⟩ := @boundAfter_intact place w p w₁ houtside hmiss
    rw [hresult] at hbound
    cases hbound
  | @announced w₁ hprime hbound =>
    obtain ⟨-, houtside, hfiled⟩ := primed_intact hfiled hw hprime
    obtain ⟨-, houtside⟩ := @boundAfter_intact place w p w₁ houtside hmiss
    exact (breaks_announceStop place p).walk_intact (filed_listening hfiled) houtside
      fun r hr => Place.isRegistry_eq_false hunused hr

/-- An attempt that reaches an exposed place leaves an entry there, and fails. -/
theorem attempt_broken (hfiled : Filed w) (hw : w.outside = false) (hexposed : place.ExposedBy p) :
    (∃ e, (w.attempt (breakingAt place) p).outcome.result = .error e) ∧
      place.Among p (w.attempt (breakingAt place) p).servers
        (w.attempt (breakingAt place) p).registries := by
  have hcourse := attempt_course (breakingAt place) w p
  generalize w.attempt (breakingAt place) p = a at hcourse
  cases hcourse with
  | unprimed hprime =>
    obtain ⟨hresult, -, -⟩ := primed_intact hfiled hw hprime
    cases hresult
  | @unbound w₁ e hprime hbound =>
    obtain ⟨-, houtside, -⟩ := primed_intact hfiled hw hprime
    refine ⟨⟨e, hbound⟩, ?_⟩
    cases place with
    | registry g identity =>
      obtain ⟨hresult, -⟩ := @boundAfter_intact (.registry g identity) w p w₁ houtside
        fun _ _ => rfl
      rw [hresult] at hbound
      cases hbound
    | server n =>
      obtain ⟨s, ⟨hs, -⟩, hserial⟩ := hexposed
      obtain ⟨⟨s', hs', hhit⟩, -, -⟩ := (breaks_bindServer (.server n) p.config
        (w.nextInvoker p)).walk_hit trivial houtside ⟨s, hs, beq_iff_eq.2 hserial⟩
      exact ⟨s', hs', beq_iff_eq.1 hhit⟩
  | @announced w₁ hprime hbound =>
    obtain ⟨-, houtside, hfiled⟩ := primed_intact hfiled hw hprime
    have hfiled' := @filed_listening place w p w₁ hfiled
    cases place with
    | server n =>
      obtain ⟨s, ⟨hs, hreason⟩, hserial⟩ := hexposed
      have hhit : (Place.server n).isServer s = true := beq_iff_eq.2 hserial
      obtain ⟨⟨s', hs', hhit'⟩, hafter, herror⟩ := (breaks_bindServer (.server n) p.config
        (w.nextInvoker p)).walk_hit trivial houtside ⟨s, hs, hhit⟩
      refine ⟨?_, s', hs', beq_iff_eq.1 hhit'⟩
      -- The servers are all bound, so what has broken shows in the first registry.
      obtain hstart | hearly | hannounced := hreason
      · cases hbound.symm.trans (herror ⟨s, hs, hhit, .inl hstart⟩)
      · cases hbound.symm.trans (herror ⟨s, hs, hhit, .inr hearly⟩)
      · exact ⟨outage, (breaks_announceStop (.server n) p).walk_broken hfiled' (hafter hbound)
          hannounced⟩
    | registry g identity =>
      obtain ⟨rfl, r, hr, hidentity⟩ := hexposed
      obtain ⟨-, houtside⟩ := @boundAfter_intact (.registry p.group identity) w p w₁ houtside
        fun _ _ => rfl
      have hhit : (Place.registry p.group identity).isRegistry p.group r = true := by
        rw [Place.isRegistry, hidentity, beq_self_eq_true, beq_self_eq_true, Bool.and_self]
      have hr' : r ∈ p.config.announcedIn := List.dropLast_subset _ hr
      obtain ⟨⟨r', hr'', hhit'⟩, -, herror⟩ := (breaks_announceStop (.registry p.group identity)
        p).walk_hit hfiled' houtside ⟨r, hr', hhit⟩
      rw [Place.isRegistry, Bool.and_eq_true, beq_iff_eq, beq_iff_eq] at hhit'
      exact ⟨⟨outage, herror ⟨r, hr', hhit, .inr hr⟩⟩, rfl, r', hr'', hhit'.2⟩

end Attempts

section Stages

variable {place : Place} {p q : Provider} {w : World Bool}

/-- Nobody is published yet under a key, and nothing is broken. -/
structure Untouched (p q : Provider) (w : World Bool) : Prop where
  intact : w.outside = false
  idle : w.scheduled = []
  filed : Filed w
  unpublished : w.isPublished p = false ∧ w.isPublished q = false
  count : w.liveCount q = 0

/-- One provider is published alone under a key, and nothing is broken. -/
structure Alone (p q : Provider) (w : World Bool) : Prop where
  intact : w.outside = false
  idle : w.scheduled = []
  filed : Filed w
  unpublished : w.isPublished p = false
  published : w.isPublished q = true
  count : w.liveCount p = 1

/-- One provider is published alone under a key, but another one has left an entry. -/
structure Invaded (place : Place) (p q : Provider) (w : World Bool) : Prop where
  idle : w.scheduled = []
  filed : Filed w
  published : w.isPublished q = true
  count : w.liveCount p = 1
  holds : w.Holds place p.config.key

theorem liveCount_congr (hgroup : q.group = p.group) (hkey : q.config.key = p.config.key)
    (w : World Bool) : w.liveCount q = w.liveCount p := by
  rw [liveCount, liveCount, hgroup, hkey]

theorem acquire_ne_error {t : ExportCounts} {k : ServiceKey} {limit : Int} {e : ProviderError}
    (hroom : limit ≤ 0 ∨ (t.count k : Int) < limit) : t.acquire k limit ≠ .error e := by
  rw [(ExportCounts.acquire_eq_ok_iff (n := t.count k + 1)).2 ⟨hroom, rfl, rfl⟩]
  nofun

theorem Untouched.publishNow (hgroup : q.group = p.group) (hbeside : p.MayFailBeside q)
    (hnumber : q.number ≠ p.number) (hunused : ¬place.UsedBy q) (h : Untouched p q w) :
    Alone p q (w.publishNow (breakingAt place) q).world := by
  have hcourse := publishNow_course (breakingAt place) w q
  generalize w.publishNow (breakingAt place) q = outcome at hcourse
  cases hcourse with
  | already hpublished =>
    rw [h.unpublished.2] at hpublished
    cases hpublished
  | unfit hpublished hcheck =>
    rw [hbeside.fit.1] at hcheck
    cases hcheck
  | refused hpublished hcheck hlimit =>
    have hzero : (w.services q.group).counts.count q.config.key = 0 := h.count
    exact absurd hlimit (acquire_ne_error (by omega))
  | @failed _ _ n counts e hlimit hattempt =>
    have hadmitted := sameBindings_admitted w q n counts
    obtain ⟨hok, -⟩ := @attempt_intact place (w.admitted q n counts) q (hadmitted.filed h.filed)
      (by rw [outside_admitted, h.intact]) hunused
    rw [hok] at hattempt
    cases hattempt
  | @done _ _ n counts hlimit hattempt =>
    have hadmitted := sameBindings_admitted w q n counts
    obtain ⟨-, houtside⟩ := @attempt_intact place (w.admitted q n counts) q
      (hadmitted.filed h.filed) (by rw [outside_admitted, h.intact]) hunused
    have hbooked := @rebooked_done _ (breakingAt place) w q n counts hlimit hattempt
    exact {
      intact := houtside
      idle := hbooked.scheduled.trans h.idle
      filed := (rebound_done (breakingAt place) h.filed q n counts).filed
      unpublished := by
        rw [isPublished_rebooked hbooked, if_neg hnumber]
        exact h.unpublished.1
      published := by rw [isPublished_rebooked hbooked, if_pos rfl]
      count := by
        rw [← liveCount_congr hgroup hbeside.key, hbooked.liveCount_self, h.count] }

/-- Beside a provider that is published alone, one that exposes the place fails there. -/
theorem Alone.fails (hbeside : p.MayFailBeside q) (hexposed : place.ExposedBy p)
    (h : Alone p q w) :
    ∃ (n : Nat) (counts : ExportCounts) (e : ProviderError),
      (w.services p.group).counts.acquire p.config.key p.config.repeatLimit.toInt =
          .ok (n, counts) ∧
        ((w.admitted p n counts).attempt (breakingAt place) p).outcome.result = .error e ∧
        place.Among p ((w.admitted p n counts).attempt (breakingAt place) p).servers
          ((w.admitted p n counts).attempt (breakingAt place) p).registries ∧
        w.publishNow (breakingAt place) p = ⟨.error e.intoFramework,
          ((w.admitted p n counts).attempt (breakingAt place) p).outcome.world.discard
            (breakingAt place) p ((w.admitted p n counts).attempt (breakingAt place) p)⟩ := by
  have hone : (w.services p.group).counts.count p.config.key = 1 := h.count
  have hbroken (n : Nat) (counts : ExportCounts) :=
    @attempt_broken place (w.admitted p n counts) p
      ((sameBindings_admitted w p n counts).filed h.filed) (by rw [outside_admitted, h.intact])
      hexposed
  have hcourse := publishNow_course (breakingAt place) w p
  generalize w.publishNow (breakingAt place) p = outcome at hcourse ⊢
  cases hcourse with
  | already hpublished =>
    rw [h.unpublished] at hpublished
    cases hpublished
  | unfit hpublished hcheck =>
    rw [hbeside.fit.2] at hcheck
    cases hcheck
  | refused hpublished hcheck hlimit =>
    have hroom := hbeside.limit
    exact absurd hlimit (acquire_ne_error (by omega))
  | @done _ _ n counts hlimit hattempt =>
    obtain ⟨⟨e, he⟩, -⟩ := hbroken n counts
    rw [hattempt] at he
    cases he
  | @failed _ _ n counts e hlimit hattempt =>
    exact ⟨n, counts, e, hlimit, hattempt, (hbroken n counts).2, rfl⟩

theorem Alone.publishNow (hbeside : p.MayFailBeside q) (hexposed : place.ExposedBy p)
    (h : Alone p q w) : Invaded place p q (w.publishNow (breakingAt place) p).world := by
  obtain ⟨n, counts, e, hlimit, hattempt, hplace, hend⟩ := h.fails hbeside hexposed
  have hbooked := @rebooked_failed _ (breakingAt place) w p n counts e hlimit hattempt
  have hothers : 0 < w.liveCount p := by rw [h.count]; exact Nat.one_pos
  have hbound := rebound_failed_beside (breakingAt place) h.filed hlimit hothers
  rw [hend]
  exact {
    idle := hbooked.scheduled.trans h.idle
    filed := hbound.filed
    published := by rw [isPublished_failed hlimit hattempt, h.published]
    count := hbooked.liveCount_self.trans h.count
    holds := (hbound.holds hplace).2 (Option.some_ne_none _) }

theorem Invaded.withdraw (hgroup : q.group = p.group) (hkey : q.config.key = p.config.key)
    (hunused : ¬place.UsedBy q) (h : Invaded place p q w) :
    (w.withdraw (breakingAt place) q).Holds place p.config.key ∧
      (w.withdraw (breakingAt place) q).liveCount p = 0 := by
  have hbooked := @rebooked_withdraw _ (breakingAt place) w q h.published
  have hbound := rebound_withdraw (breakingAt_releases place) h.filed h.published
  refine ⟨(hbound.holds_other fun hused => hunused hused.1).2 h.holds, ?_⟩
  rw [← liveCount_congr hgroup hkey, hbooked.liveCount_self, liveCount_congr hgroup hkey, h.count]

theorem untouched_start (p q : Provider) : Untouched p q (World.start false) where
  intact := rfl
  idle := rfl
  filed g identity x hx := by simp [World.start, services] at hx
  unpublished := by simp [World.start, isPublished, provider]
  count := by simp [World.start, liveCount, services]

end Stages

/-- One provider is published, another one fails, and the first is withdrawn. -/
def invasion (p q : Provider) : List Operation :=
  [.publish q, .fire 0, .publish p, .fire 0, .withdraw q]

/-- What the second provider has left stays when nobody is published any more. -/
theorem holds_invasion {fleet : Fleet} {place : Place} {p q : Provider} (hp : p ∈ fleet.members)
    (hq : q ∈ fleet.members) (hne : q ≠ p) (hbeside : p.MayFailBeside q)
    (hexposed : place.ExposedBy p) (hunused : ¬place.UsedBy q) :
    (run (breakingAt place) (invasion p q) (World.start false)).Holds place p.config.key ∧
      ∀ r ∈ fleet.members, r.config.key = p.config.key →
        (run (breakingAt place) (invasion p q) (World.start false)).isPublished r = false := by
  have hgroup : q.group = p.group := by rw [fleet.together q hq, fleet.together p hp]
  have hnumber : q.number ≠ p.number := fleet.number_ne hq hp hne.symm
  have halone : Alone p q (run (breakingAt place) [.publish q, .fire 0] (World.start false)) :=
    run_publish_fire (R := Untouched p q) (Q := Alone p q)
      (fun _ _ h => ⟨h.intact, h.idle, h.filed, h.unpublished, h.count⟩)
      (fun _ _ h => ⟨h.intact, h.idle, h.filed, h.unpublished, h.published, h.count⟩)
      (fun _ h => h.publishNow hgroup hbeside hnumber hunused) (fun _ h => h.idle)
      (untouched_start p q) rfl (untouched_start p q).unpublished.2
  generalize hfirst : run (breakingAt place) [.publish q, .fire 0] (World.start false) = w₁
    at halone
  have hinvaded : Invaded place p q (run (breakingAt place) [.publish p, .fire 0] w₁) :=
    run_publish_fire (R := Alone p q) (Q := Invaded place p q)
      (fun _ _ h => ⟨h.intact, h.idle, h.filed, h.unpublished, h.published, h.count⟩)
      (fun _ _ h => ⟨h.idle, h.filed, h.published, h.count, h.holds⟩)
      (fun _ h => h.publishNow hbeside hexposed) (fun _ h => h.idle)
      halone halone.idle halone.unpublished
  have hrun : run (breakingAt place) (invasion p q) (World.start false) =
      (run (breakingAt place) [.publish p, .fire 0] w₁).withdraw (breakingAt place) q := by
    rw [← hfirst]
    rfl
  obtain ⟨hholds, hcount⟩ := hinvaded.withdraw hgroup hbeside.key hunused
  rw [← hrun] at hholds hcount
  refine ⟨hholds, fun r hr hkey => ?_⟩
  -- The count of the key is right, so nobody is left under it.
  have hcoherent : Coherent fleet (run (breakingAt place) (invasion p q) (World.start false)) := by
    refine coherent_run (breakingAt place) false fun op hop => ?_
    simp only [invasion, List.mem_cons, List.not_mem_nil, or_false] at hop
    obtain rfl | rfl | rfl | rfl | rfl := hop
    · exact hq
    · trivial
    · exact hp
    · trivial
    · exact hq
  rw [hcoherent.liveCount_eq hp, Fleet.publications, List.countP_eq_zero] at hcount
  simpa [hkey] using hcount r hr

def Operation.Plain : Operation → Prop
  | .publish _ | .withdraw _ | .fire _ => True
  | _ => False

/-- A fleet is sheltered exactly if, whatever its collaborators answer as long as they take entries
back, no run of publications and withdrawals leaves an entry of a key under which nobody is
published. -/
theorem sheltered_iff_no_orphans (fleet : Fleet) :
    fleet.Sheltered ↔ ∀ (σ : Type) (ask : Ask σ), ask.Releases →
      ∀ (outside : σ) (ops : List Operation), (∀ op ∈ ops, op.Plain ∧ op.Within fleet) →
      ∀ k, (∀ p ∈ fleet.members, p.config.key = k →
        (run ask ops (World.start outside)).isPublished p = false) →
      ∀ place, ¬(run ask ops (World.start outside)).Holds place k := by
  constructor
  · intro hsheltered σ ask hreleases outside ops hops k hnone
    have hcovered := covered_run hsheltered hreleases outside fun op hop => (hops op hop).2
    exact hcovered.not_holds hnone
  · intro hclean p hp q hq hne hbeside place hexposed
    by_contra hunused
    obtain ⟨hholds, hnone⟩ := holds_invasion hp hq hne hbeside hexposed hunused
    refine hclean Bool (breakingAt place) (breakingAt_releases place) false (invasion p q) ?_
      p.config.key hnone place hholds
    intro op hop
    simp only [invasion, List.mem_cons, List.not_mem_nil, or_false] at hop
    obtain rfl | rfl | rfl | rfl | rfl := hop
    · exact ⟨trivial, hq⟩
    · exact ⟨trivial, trivial⟩
    · exact ⟨trivial, hp⟩
    · exact ⟨trivial, trivial⟩
    · exact ⟨trivial, hq⟩

/-- Two providers of one key on a server each: the second is refused by its server only when that is
started, and after the withdrawal of the first the key is still bound there. -/
theorem orphan_on_second_server :
    let q := smallProvider 0 [smallServer 0] [] 0
    let p := smallProvider 1 [smallServer 1] [] 0
    let w := run (breakingAt (.server 1)) [.publish q, .publish p, .withdraw q] (World.start false)
    (breakingAt (.server 1)).Releases ∧ p.config.key = q.config.key ∧
      w.isPublished q = false ∧ w.isPublished p = false ∧ w.Holds (.server 1) p.config.key := by
  intro q p w
  have hbound : (w.processor? 1 p.config.key).isSome = true := by decide +kernel
  refine ⟨breakingAt_releases _, by decide +kernel, by decide +kernel, by decide +kernel, ?_⟩
  exact Option.isSome_iff_ne_none.1 hbound

end ServicePublisher
