import ServicePublisher.Proofs.Rebound

/-! What the log tells of acceptance: which invokers a server has accepted, and in which registries
a provider has been announced. An attempt adds those that accepted it, and everything else adds
nothing. -/
namespace ServicePublisher

open World

def Event.binds (k : ServiceKey) : Event → Bool
  | .notice n => n.boundKey? == some k
  | _ => false

/-- The latest announcement under a key: what was observed since its processors were last bound. -/
def announcement (k : ServiceKey) (events : List Event) : List Event :=
  events.foldl (fun recent e => if e.binds k then [] else recent ++ [e]) []

theorem announcement_append {k : ServiceKey} {es es' : List Event}
    (h : ∀ e ∈ es', e.binds k = false) : announcement k (es ++ es') = announcement k es ++ es' := by
  have hgeneral (recent : List Event) :
      es'.foldl (fun recent e => if e.binds k then [] else recent ++ [e]) recent =
        recent ++ es' := by
    induction es' generalizing recent with
    | nil => exact (List.append_nil recent).symm
    | cons e es' ih =>
      have he := h e List.mem_cons_self
      simp only [List.foldl_cons, he, Bool.false_eq_true, if_false]
      rw [ih (fun e' he' => h e' (List.mem_cons_of_mem e he')), List.append_assoc,
        List.singleton_append]
  rw [announcement, List.foldl_append, hgeneral, announcement]

theorem announcement_bound {k : ServiceKey} {e : Event} (h : e.binds k = true) (es : List Event) :
    announcement k (es ++ [e]) = [] := by
  rw [announcement, List.foldl_append, List.foldl_cons, List.foldl_nil, if_pos h]

namespace World

variable {σ : Type} {ask : Ask σ} {w w' : World σ} {p q : Provider} {v : Invoker}

/-- Whether a server has ever accepted an invoker. Each attempt to publish has its own invoker. -/
def AcceptedAt (w : World σ) (serial : Nat) (v : Invoker) : Prop :=
  ∃ s view, s.serial = serial ∧ Event.call (.server s (.register view v)) none ∈ w.events

/-- Whether a registry has accepted a provider in the latest announcement under its key. -/
def AnnouncedAt (w : World σ) (p : Provider) (identity : String) : Prop :=
  ∃ r view, r.identity = identity ∧ view.config = p.config ∧
    Event.call (.registry p.group r (.register view)) none ∈ announcement p.config.key w.events

section Growth

variable {fits : Event → Prop}

theorem acceptedAt_grows (h : Grows fits w w')
    (hother : ∀ s view answer, ¬fits (.call (.server s (.register view v)) answer)) (n : Nat) :
    w'.AcceptedAt n v ↔ w.AcceptedAt n v := by
  obtain ⟨es, hevents, hfits⟩ := h
  constructor
  · intro hgiven
    obtain ⟨s, view, hserial, hmem⟩ := hgiven
    rw [hevents, List.mem_append] at hmem
    obtain hmem | hmem := hmem
    · exact ⟨s, view, hserial, hmem⟩
    · exact absurd (hfits _ hmem) (hother s view none)
  · intro hgiven
    obtain ⟨s, view, hserial, hmem⟩ := hgiven
    exact ⟨s, view, hserial, by rw [hevents]; exact List.mem_append_left es hmem⟩

theorem announcedAt_grows (h : Grows fits w w')
    (hline : ∀ e, fits e → e.binds p.config.key = false)
    (hother : ∀ g r view answer, fits (.call (.registry g r (.register view)) answer) →
      view.config ≠ p.config) (identity : String) :
    w'.AnnouncedAt p identity ↔ w.AnnouncedAt p identity := by
  obtain ⟨es, hevents, hfits⟩ := h
  have hannouncement : announcement p.config.key w'.events =
      announcement p.config.key w.events ++ es := by
    rw [hevents, announcement_append fun e he => hline e (hfits e he)]
  constructor
  · intro hgiven
    obtain ⟨r, view, hidentity, hconfig, hmem⟩ := hgiven
    rw [hannouncement, List.mem_append] at hmem
    obtain hmem | hmem := hmem
    · exact ⟨r, view, hidentity, hconfig, hmem⟩
    · exact absurd hconfig (hother _ r view none (hfits _ hmem))
  · intro hgiven
    obtain ⟨r, view, hidentity, hconfig, hmem⟩ := hgiven
    exact ⟨r, view, hidentity, hconfig, by rw [hannouncement]; exact List.mem_append_left es hmem⟩

theorem binds_quiet {e : Event} (h : e.Quiet) (k : ServiceKey) : e.binds k = false := by
  cases e with
  | notice n =>
    have hnone : n.boundKey? = none := h
    rw [Event.binds, hnone]
    rfl
  | call c answer => rfl
  | heard change => rfl

theorem acceptedAt_quiet (h : Grows Event.Quiet w w') (n : Nat) (v : Invoker) :
    w'.AcceptedAt n v ↔ w.AcceptedAt n v :=
  acceptedAt_grows h (fun _ _ _ => id) n

theorem announcedAt_quiet (h : Grows Event.Quiet w w') (p : Provider) (identity : String) :
    w'.AnnouncedAt p identity ↔ w.AnnouncedAt p identity :=
  announcedAt_grows h (fun _ he => binds_quiet he _) (fun _ _ _ _ h => h.elim) identity

theorem acceptedAt_attempt_other (h : Grows (Event.OfAttempt p v) w w') {v' : Invoker}
    (hv : v' ≠ v) (n : Nat) : w'.AcceptedAt n v' ↔ w.AcceptedAt n v' :=
  acceptedAt_grows h (fun _ _ _ he => hv he.2) n

theorem announcedAt_attempt_other (h : Grows (Event.OfAttempt p v) w w')
    (hkey : q.config.key ≠ p.config.key) (identity : String) :
    w'.AnnouncedAt q identity ↔ w.AnnouncedAt q identity := by
  refine announcedAt_grows h (fun e he => ?_) (fun g r view answer he hconfig => ?_) identity
  · cases e with
    | notice n =>
      rw [Event.binds]
      obtain he | he := he
      · rw [he]
        rfl
      · rw [he, beq_eq_false_iff_ne]
        exact fun heq => hkey (Option.some.inj heq).symm
    | call c answer => rfl
    | heard change => rfl
  · have hview : view.config = p.config := he
    exact hkey (by rw [← hconfig, hview])

end Growth

section Acceptance

theorem acceptedAt_snoc {e : Event} (h : w'.events = w.events ++ [e]) (n : Nat) (v : Invoker) :
    w'.AcceptedAt n v ↔ w.AcceptedAt n v ∨
      ∃ s view, s.serial = n ∧ e = .call (.server s (.register view v)) none := by
  simp only [AcceptedAt, h, List.mem_append, List.mem_singleton]
  constructor
  · intro hcases
    obtain ⟨s, view, hserial, hmem | rfl⟩ := hcases
    · exact .inl ⟨s, view, hserial, hmem⟩
    · exact .inr ⟨s, view, hserial, rfl⟩
  · intro hcases
    obtain ⟨s, view, hserial, hmem⟩ | ⟨s, view, hserial, rfl⟩ := hcases
    · exact ⟨s, view, hserial, .inl hmem⟩
    · exact ⟨s, view, hserial, .inr rfl⟩

theorem announcedAt_snoc {e : Event} (h : w'.events = w.events ++ [e])
    (he : e.binds p.config.key = false) (identity : String) :
    w'.AnnouncedAt p identity ↔ w.AnnouncedAt p identity ∨
      ∃ r view, r.identity = identity ∧ view.config = p.config ∧
        e = .call (.registry p.group r (.register view)) none := by
  have hannouncement : announcement p.config.key w'.events =
      announcement p.config.key w.events ++ [e] := by
    rw [h, announcement_append fun e' he' => by rw [List.mem_singleton.1 he', he]]
  simp only [AnnouncedAt, hannouncement, List.mem_append, List.mem_singleton]
  constructor
  · intro hcases
    obtain ⟨r, view, hidentity, hconfig, hmem | rfl⟩ := hcases
    · exact .inl ⟨r, view, hidentity, hconfig, hmem⟩
    · exact .inr ⟨r, view, hidentity, hconfig, rfl⟩
  · intro hcases
    obtain ⟨r, view, hidentity, hconfig, hmem⟩ | ⟨r, view, hidentity, hconfig, rfl⟩ := hcases
    · exact ⟨r, view, hidentity, hconfig, .inl hmem⟩
    · exact ⟨r, view, hidentity, hconfig, .inr rfl⟩

theorem bindServer_accepts (c : ProviderConfig) (v : Invoker) (s : ServerConfig) (w : World σ)
    (n : Nat) :
    (bindServer ask c v s w).Writes (fun w => w.AcceptedAt n v) (s.serial = n) True
      (w.AcceptedAt n v) := by
  have hcourse := bindServer_course ask c v s w
  generalize bindServer ask c v s w = stop at hcourse
  cases hcourse with
  | unbuilt hidle =>
    exact ⟨fun h => Bool.noConfusion h, fun _ => propext (acceptedAt_quiet hidle.quiet n v)⟩
  | @refused w₁ w₂ e hidle hserver hregister =>
    obtain ⟨-, -, hevents⟩ := events_perform ask w₁ (.server s (.register (w₁.view c) v))
    rw [hregister] at hevents
    have hend : w₂.AcceptedAt n v ↔ w.AcceptedAt n v := by
      rw [acceptedAt_snoc (hevents e rfl), acceptedAt_quiet hidle.quiet]
      simp
    exact ⟨fun h => Bool.noConfusion h, fun _ => propext hend⟩
  | @accepted w₁ w₂ outcome hidle hserver hregister hafter hstart =>
    obtain ⟨-, hevents, -⟩ := events_perform ask w₁ (.server s (.register (w₁.view c) v))
    rw [hregister] at hevents
    have hend : outcome.world.AcceptedAt n v ↔ w.AcceptedAt n v ∨ s.serial = n := by
      rw [acceptedAt_quiet hafter.quiet, acceptedAt_snoc (hevents rfl),
        acceptedAt_quiet hidle.quiet]
      simp
    refine ⟨fun _ hn => eq_true (hend.2 (.inr hn)), fun hnot => propext ?_⟩
    have hn : s.serial ≠ n := fun hn => hnot ⟨rfl, hn⟩
    simpa only [hn, or_false] using hend

theorem acceptedAt_bindServers (w : World σ) (c : ProviderConfig) (v : Invoker) (n : Nat) :
    (w.bindServers ask c v).outcome.world.AcceptedAt n v ↔
      (∃ s ∈ (w.bindServers ask c v).accepted, s.serial = n) ∨ w.AcceptedAt n v := by
  have hwrites : (w.bindServers ask c v).Writes (fun w => w.AcceptedAt n v)
      (fun s => s.serial = n) True (w.AcceptedAt n v) := by
    refine visitAll_writes (f := fun w => w.AcceptedAt n v) (P := fun _ => True) ?_ ?_ c.servers
      trivial
    · exact fun s w' _ => ⟨trivial, bindServer_accepts c v s w' n⟩
    · exact fun w' s e _ => ⟨trivial, propext (acceptedAt_quiet (quiet_report w' c rfl) n v)⟩
  rw [hwrites.eq_ite]
  split
  · next hsome => simp [hsome]
  · next hnone => simp only [hnone, false_or]

theorem announceStop_announces (p : Provider) (r : RegistryConfig) {w : World σ} (h : Filed w)
    (identity : String) :
    (announceStop ask p r w).Writes (fun w => w.AnnouncedAt p identity) (r.identity = identity)
      True (w.AnnouncedAt p identity) := by
  have hcourse := announceStop_course ask p r h
  generalize announceStop ask p r w = stop at hcourse
  cases hcourse with
  | halted hidle =>
    exact ⟨fun h => Bool.noConfusion h,
      fun _ => propext (announcedAt_quiet hidle.quiet p identity)⟩
  | @asked w₁ x hidle hx hknown =>
    obtain ⟨-, hok, herror⟩ := events_perform ask w₁
      (.registry p.group x (.register (w₁.view p.config)))
    generalize w₁.perform ask (.registry p.group x (.register (w₁.view p.config))) = outcome
      at hok herror
    obtain ⟨result, w₂⟩ := outcome
    cases result with
    | error e =>
      have hend : w₂.AnnouncedAt p identity ↔ w.AnnouncedAt p identity := by
        rw [announcedAt_snoc (herror e rfl) rfl, announcedAt_quiet hidle.quiet]
        simp
      exact ⟨fun h => Bool.noConfusion h, fun _ => propext hend⟩
    | ok u =>
      have hend : w₂.AnnouncedAt p identity ↔
          w.AnnouncedAt p identity ∨ r.identity = identity := by
        rw [announcedAt_snoc (hok rfl) rfl, announcedAt_quiet hidle.quiet, ← hx]
        simp [view]
      refine ⟨fun _ hi => eq_true (hend.2 (.inr hi)), fun hnot => propext ?_⟩
      have hi : r.identity ≠ identity := fun hi => hnot ⟨rfl, hi⟩
      simpa only [hi, or_false] using hend

theorem announcedAt_announce (p : Provider) {w : World σ} (h : Filed w) (identity : String) :
    (w.announce ask p).outcome.world.AnnouncedAt p identity ↔
      (∃ r ∈ (w.announce ask p).accepted, r.identity = identity) ∨ w.AnnouncedAt p identity := by
  have hwrites : (w.announce ask p).Writes (fun w => w.AnnouncedAt p identity)
      (fun r => r.identity = identity) True (w.AnnouncedAt p identity) := by
    refine visitAll_writes (f := fun w => w.AnnouncedAt p identity) (P := Filed) ?_ ?_
      p.config.announcedIn h
    · intro r w' hw'
      refine ⟨?_, announceStop_announces p r hw' identity⟩
      exact announceStop_keeps (fun _ _ _ _ hw => filed_perform hw _) (fun _ _ _ hw => hw) hw'
    · exact fun w' r e hw' => ⟨hw', propext (announcedAt_quiet (quiet_report w' p.config rfl) p _)⟩
  rw [hwrites.eq_ite]
  split
  · next hsome => simp [hsome]
  · next hnone => simp only [hnone, false_or]

theorem acceptedAt_announce (w : World σ) (p : Provider) (n : Nat) (v : Invoker) :
    (w.announce ask p).outcome.world.AcceptedAt n v ↔ w.AcceptedAt n v := by
  have hgrows : Grows (fun e => ∀ s view answer, e ≠ .call (.server s (.register view v)) answer) w
      (w.announce ask p).outcome.world := by
    refine announce_keeps (fun w' r request _ h => ?_) (fun w' n _ h => ?_) (.refl w)
    · exact h.trans (grows_perform ask w' fun _ _ _ _ => nofun)
    · exact h.record fun _ _ _ => nofun
  exact acceptedAt_grows hgrows (fun s view answer h => h s view answer rfl) n

/-- An attempt with an invoker that was never accepted is accepted by its servers only. -/
theorem acceptedAt_attempt {n : Nat} (hfresh : ¬w.AcceptedAt n (w.nextInvoker p)) :
    (w.attempt ask p).outcome.world.AcceptedAt n (w.nextInvoker p) ↔
      ∃ s ∈ (w.attempt ask p).servers, s.serial = n := by
  have hopened : Grows Event.Quiet w (w.openInvoker p) := .of_eq rfl
  have hprimed := hopened.trans (quiet_prime ask (w.openInvoker p) p.group p.config.announcedIn)
  have hcourse := attempt_course ask w p
  generalize w.attempt ask p = a at hcourse
  cases hcourse with
  | unprimed hprime =>
    rw [hprime] at hprimed
    rw [acceptedAt_quiet hprimed]
    simp [hfresh]
  | unbound hprime hbound =>
    rw [hprime] at hprimed
    rw [boundAfter, acceptedAt_bindServers, acceptedAt_quiet hprimed]
    simp only [hfresh, or_false]
  | @announced w₁ hprime hbound =>
    rw [hprime] at hprimed
    have hlistening : Grows (fun e => ∃ n, e = .notice n) (w.boundAfter ask p w₁).outcome.world
        (listening p (w.boundAfter ask p w₁)) :=
      ((Grows.refl _).record ⟨_, rfl⟩).trans (.of_eq rfl)
    have hother (s : ServerConfig) (view : ConfigView) (answer : Option ProviderError) :
        ¬∃ n, Event.call (.server s (.register view (w.nextInvoker p))) answer = .notice n := by
      intro hgiven
      obtain ⟨n, hn⟩ := hgiven
      cases hn
    rw [acceptedAt_announce, acceptedAt_grows hlistening hother, boundAfter,
      acceptedAt_bindServers, acceptedAt_quiet hprimed]
    simp only [hfresh, or_false]

/-- A provider that is published was announced where its announcement was accepted. -/
theorem announcedAt_attempt (h : Filed w) (hok : (w.attempt ask p).outcome.result = .ok ())
    (identity : String) :
    (w.attempt ask p).outcome.world.AnnouncedAt p identity ↔
      ∃ r ∈ (w.attempt ask p).registries, r.identity = identity := by
  have hopened : SameBindings w (w.openInvoker p) := .of_eq rfl fun _ => rfl
  have hprimed := hopened.trans (sameBindings_prime ask (w.openInvoker p) p.group
    p.config.announcedIn)
  have hcourse := attempt_course ask w p
  generalize w.attempt ask p = a at hcourse hok
  cases hcourse with
  | unprimed hprime => cases hok
  | unbound hprime hbound =>
    rw [hbound] at hok
    cases hok
  | @announced w₁ hprime hbound =>
    rw [hprime] at hprimed
    have hfiled : Filed (listening p (w.boundAfter ask p w₁)) :=
      (rebound_bindServers ask (hprimed.filed h) p (w.nextInvoker p)).filed
    have hempty : ¬(listening p (w.boundAfter ask p w₁)).AnnouncedAt p identity := by
      intro hgiven
      obtain ⟨r, view, -, -, hmem⟩ := hgiven
      have hline : Event.binds p.config.key (.notice (.ofProvider p.config.appName p.config.key
          (.processorBound (w.boundAfter ask p w₁).served))) = true := beq_self_eq_true _
      have hbegin : announcement p.config.key (listening p (w.boundAfter ask p w₁)).events = [] :=
        announcement_bound hline _
      rw [hbegin] at hmem
      cases hmem
    rw [announcedAt_announce p hfiled]
    simp only [hempty, or_false]

theorem grows_admitted (ask : Ask σ) (w : World σ) (p : Provider) (n : Nat)
    (counts : ExportCounts) :
    Grows (Event.OfAttempt p (w.nextInvoker p)) w
      ((w.admitted p n counts).attempt ask p).outcome.world := by
  have hadmitted := (quiet_admitted w p n counts).mono fun e he => he.ofAttempt p (w.nextInvoker p)
  have hattempt := grows_attempt ask (w.admitted p n counts) p
  rw [nextInvoker_admitted] at hattempt
  exact hadmitted.trans hattempt

end Acceptance

end World

end ServicePublisher
