import ServicePublisher.Proofs.Books
import ServicePublisher.Proofs.Counts

/-! What a publication or a withdrawal leaves in the books. It writes anew what belongs to its one
provider: the state of the provider, the listener of its configuration, the count of its key and its
place among the published. All else stays, the attributes of every configuration included. -/
namespace ServicePublisher

namespace World

variable {σ : Type}

def listenerAt (w : World σ) (serial : Nat) : Option Listener :=
  (w.configs[serial]?).bind ConfigState.listener

theorem listener_config (w : World σ) (c : ProviderConfig) :
    (w.config c).listener = w.listenerAt c.serial := by
  rw [config, listenerAt]
  cases w.configs[c.serial]? <;> rfl

theorem listenerAt_modifyConfig (w : World σ) (c : ProviderConfig) (f : ConfigState → ConfigState)
    (serial : Nat) :
    (w.modifyConfig c f).listenerAt serial =
      if c.serial = serial then (f (w.config c)).listener else w.listenerAt serial := by
  simp only [listenerAt, modifyConfig, Std.ExtTreeMap.getElem?_insert, Nat.compare_eq_eq]
  split <;> rfl

def entry (w : World σ) (p : Provider) : Option Provider :=
  (w.services p.group).published[p.number]?

theorem isAlive_of_entry {w : World σ} {p : Provider} (h : w.entry p = some p) :
    w.isAlive p = true := by
  rw [entry] at h
  rw [isAlive, Std.ExtTreeMap.contains_eq_isSome_getElem?, h, Option.isSome_some, Bool.or_true,
    Bool.true_or]

def liveCount (w : World σ) (p : Provider) : Nat := (w.services p.group).counts.count p.config.key

/-- The books of the second state are those of the first with new entries for one provider. -/
structure Rebooked (w w' : World σ) (p : Provider) (state : ProviderState)
    (listener : Option Listener) (live : Nat) (entry : Option Provider) : Prop where
  provider : ∀ q, w'.provider q = if p.number = q.number then state else w.provider q
  listenerAt : ∀ n, w'.listenerAt n = if p.config.serial = n then listener else w.listenerAt n
  attributes : (w'.config p.config).attributes = (w.config p.config).attributes
  config : ∀ c, p.config.serial ≠ c.serial → w'.config c = w.config c
  count : ∀ g k, (w'.services g).counts.count k =
    if p.group = g ∧ p.config.key = k then live else (w.services g).counts.count k
  published : ∀ g m, (w'.services g).published[m]? =
    if p.group = g ∧ p.number = m then entry else (w.services g).published[m]?
  scheduled : w'.scheduled = w.scheduled

namespace Rebooked

variable {w w' w'' : World σ} {p : Provider} {s : ProviderState} {l : Option Listener} {n : Nat}
  {t : Option Provider}

theorem refl (w : World σ) (p : Provider) :
    Rebooked w w p (w.provider p) (w.listenerAt p.config.serial) (w.liveCount p) (w.entry p) where
  provider q := by
    split
    · next hq => rw [World.provider, World.provider, hq]
    · rfl
  listenerAt m := by split <;> simp_all
  attributes := rfl
  config _ _ := rfl
  count g k := by
    split
    · next hk => rw [liveCount, hk.1, hk.2]
    · rfl
  published g m := by
    split
    · next hm => rw [entry, hm.1, hm.2]
    · rfl
  scheduled := rfl

theorem trans_sameBooks (h : Rebooked w w' p s l n t) (hbooks : SameBooks w' w'') :
    Rebooked w w'' p s l n t where
  provider q := by rw [hbooks.provider, h.provider]
  listenerAt m := by rw [World.listenerAt, hbooks.configs]; exact h.listenerAt m
  attributes := by rw [hbooks.config, h.attributes]
  config c hc := by rw [hbooks.config, h.config c hc]
  count g k := by rw [hbooks.counts, h.count]
  published g m := by rw [hbooks.published, h.published]
  scheduled := by rw [hbooks.scheduled, h.scheduled]

theorem overwrite {s' : ProviderState} {l' : Option Listener} {n' : Nat} {t' : Option Provider}
    (h : Rebooked w w' p s l n t) (h' : Rebooked w' w'' p s' l' n' t') :
    Rebooked w w'' p s' l' n' t' where
  provider q := by
    rw [h'.provider, h.provider]
    split <;> rfl
  listenerAt m := by
    rw [h'.listenerAt, h.listenerAt]
    split <;> rfl
  attributes := h'.attributes.trans h.attributes
  config c hc := (h'.config c hc).trans (h.config c hc)
  count g k := by
    rw [h'.count, h.count]
    split <;> rfl
  published g m := by
    rw [h'.published, h.published]
    split <;> rfl
  scheduled := h'.scheduled.trans h.scheduled

theorem record (h : Rebooked w w' p s l n t) (e : Event) : Rebooked w (w'.record e) p s l n t :=
  h.trans_sameBooks (sameBooks_record w' e)

theorem provider_self (h : Rebooked w w' p s l n t) : w'.provider p = s := by
  rw [h.provider, if_pos rfl]

theorem liveCount_self (h : Rebooked w w' p s l n t) : w'.liveCount p = n := by
  rw [liveCount, h.count, if_pos ⟨rfl, rfl⟩]

theorem counts_eq (h : Rebooked w w' p s l (w.liveCount p) t) (g : Nat) :
    (w'.services g).counts = (w.services g).counts := by
  refine ExportCounts.ext_count fun k => ?_
  rw [h.count]
  split
  · next hk => rw [liveCount, hk.1, hk.2]
  · rfl

theorem published_eq (h : Rebooked w w' p s l n (w.entry p)) (g : Nat) :
    (w'.services g).published = (w.services g).published := by
  refine Std.ExtTreeMap.ext_getElem? fun m => ?_
  rw [h.published]
  split
  · next hm => rw [World.entry, hm.1, hm.2]
  · rfl

theorem modifyProvider (h : Rebooked w w' p s l n t) (f : ProviderState → ProviderState) :
    Rebooked w (w'.modifyProvider p f) p (f s) l n t where
  provider q := by
    rw [provider_modifyProvider, h.provider_self, h.provider]
    split <;> rfl
  listenerAt := h.listenerAt
  attributes := h.attributes
  config := h.config
  count := h.count
  published := h.published
  scheduled := h.scheduled

/-- A change of a configuration that may touch its listener but not its attributes. -/
theorem modifyConfig (h : Rebooked w w' p s l n t) {f : ConfigState → ConfigState}
    (hattributes : ∀ s, (f s).attributes = s.attributes) {l' : Option Listener}
    (hlistener : (f (w'.config p.config)).listener = l') :
    Rebooked w (w'.modifyConfig p.config f) p s l' n t where
  provider := h.provider
  listenerAt m := by
    rw [listenerAt_modifyConfig, h.listenerAt, hlistener]
    split <;> rfl
  attributes := by rw [config_modifyConfig, if_pos rfl, hattributes, h.attributes]
  config c hc := by rw [config_modifyConfig, if_neg hc, h.config c hc]
  count := h.count
  published := h.published
  scheduled := h.scheduled

theorem setListener (h : Rebooked w w' p s l n t) (l' : Option Listener) :
    Rebooked w (w'.setListener p.config l') p s l' n t :=
  h.modifyConfig (f := fun s => { s with listener := l' }) (fun _ => rfl) rfl

/-- A change of the tables of the group that touches counts and publications only where they
belong to the provider. -/
theorem modifyServices (h : Rebooked w w' p s l n t) {f : Services → Services} {n' : Nat}
    {t' : Option Provider}
    (hcount : ∀ k, (f (w'.services p.group)).counts.count k =
      if p.config.key = k then n' else (w'.services p.group).counts.count k)
    (hpublished : ∀ m, (f (w'.services p.group)).published[m]? =
      if p.number = m then t' else (w'.services p.group).published[m]?) :
    Rebooked w (w'.modifyServices p.group f) p s l n' t' where
  provider := h.provider
  listenerAt := h.listenerAt
  attributes := h.attributes
  config := h.config
  count g k := by
    rw [services_modifyServices]
    split
    · next hg => subst hg; rw [hcount, h.count]; split <;> simp_all
    · next hg => rw [h.count]; simp [hg]
  published g m := by
    rw [services_modifyServices]
    split
    · next hg => subst hg; rw [hpublished, h.published]; split <;> simp_all
    · next hg => rw [h.published]; simp [hg]
  scheduled := h.scheduled

theorem count_self (h : Rebooked w w' p s l n t) (k : ServiceKey) :
    (w'.services p.group).counts.count k =
      if p.config.key = k then n else (w'.services p.group).counts.count k := by
  split
  · next hk => rw [← hk]; exact h.liveCount_self
  · rfl

theorem published_self (h : Rebooked w w' p s l n t) (m : Nat) :
    (w'.services p.group).published[m]? =
      if p.number = m then t else (w'.services p.group).published[m]? := by
  split
  · next hm => rw [h.published, if_pos ⟨rfl, hm⟩]
  · rfl

theorem release (h : Rebooked w w' p s l n t) :
    Rebooked w (w'.release p.group p.config.key).2 p s l (n - 1) t := by
  refine h.modifyServices (f := fun t => { t with
    counts := ((w'.services p.group).counts.release p.config.key).2 }) (fun k => ?_)
    h.published_self
  rw [ExportCounts.count_release]
  split
  · next hk => rw [← h.liveCount_self, liveCount]
  · rfl

theorem enlist (h : Rebooked w w' p s l n t) : Rebooked w (w'.enlist p) p s l n (some p) := by
  refine h.modifyServices (f := fun t => { t with published := t.published.insert p.number p })
    h.count_self fun m => ?_
  simp [Std.ExtTreeMap.getElem?_insert]

theorem delist (h : Rebooked w w' p s l n t) : Rebooked w (w'.delist p) p s l n none := by
  refine h.modifyServices (f := fun t => { t with published := t.published.erase p.number })
    h.count_self fun m => ?_
  simp [Std.ExtTreeMap.getElem?_erase]

theorem decideMethods (h : Rebooked w w' p s l n t) :
    Rebooked w (w'.decideMethods p) p s l n t := by
  have hlogged : Rebooked w { w' with events := w'.events ++ methodNotices p.config } p s l n t :=
    h.trans_sameBooks ⟨rfl, rfl, rfl, rfl, fun _ => rfl, fun _ => rfl, fun _ => rfl⟩
  have hrecorded := hlogged.modifyServices (f := fun t => { t with
    args := t.args.recordAll p.config.interface }) hlogged.count_self hlogged.published_self
  have hl := hlogged.listenerAt p.config.serial
  rw [decideMethods_eq]
  refine hrecorded.modifyConfig (f := fun s => { s with policy := some p.config.policy })
    (fun _ => rfl) ?_
  rw [if_pos rfl, ← listener_config] at hl
  exact hl

end Rebooked

section Courses

variable {ask : Ask σ} {w : World σ} {p : Provider}

theorem rebooked_prepared (w : World σ) (p : Provider) :
    Rebooked w (w.prepared p) p (w.provider p) (w.listenerAt p.config.serial) (w.liveCount p)
      (w.entry p) :=
  (Rebooked.refl w p).decideMethods.record _

theorem rebooked_admitted {n : Nat} {counts : ExportCounts}
    (hlimit : (w.services p.group).counts.acquire p.config.key p.config.repeatLimit.toInt =
      .ok (n, counts)) :
    Rebooked w (w.admitted p n counts) p (w.provider p) (w.listenerAt p.config.serial)
      (w.liveCount p + 1) (w.entry p) := by
  obtain ⟨-, -, hcounts⟩ := ExportCounts.acquire_eq_ok_iff.1 hlimit
  have hprepared := rebooked_prepared w p
  have hcounted := hprepared.modifyServices (f := fun t => { t with counts })
    (fun k => by rw [counts_prepared, hcounts, ExportCounts.count_put])
    hprepared.published_self
  rw [admitted]
  split
  · exact hcounted.record _
  · exact hcounted

/-- An attempt opens an invoker. If it succeeds the provider listens to its configuration; a failed
attempt may have come so far or not. -/
theorem rebooked_attempt {w' : World σ} {s : ProviderState} {l : Option Listener} {n : Nat}
    {t : Option Provider} (h : Rebooked w w' p s l n t) :
    ((w'.attempt ask p).outcome.result = .ok () ∧
      Rebooked w (w'.attempt ask p).outcome.world p
        { s with invoker := some (w'.nextInvoker p), attempts := s.attempts + 1 }
        (some (.republish p)) n t) ∨
    (∃ e l', (w'.attempt ask p).outcome.result = .error e ∧
      Rebooked w (w'.attempt ask p).outcome.world p
        { s with invoker := some (w'.nextInvoker p), attempts := s.attempts + 1 } l' n t) := by
  have hopened : Rebooked w (w'.openInvoker p) p
      { s with invoker := some (w'.nextInvoker p), attempts := s.attempts + 1 } l n t :=
    h.modifyProvider _
  have hprimed := hopened.trans_sameBooks (sameBooks_prime ask _ p.group p.config.announcedIn)
  have hcourse := attempt_course ask w' p
  generalize w'.attempt ask p = a at hcourse ⊢
  cases hcourse with
  | unprimed hprime =>
    rw [hprime] at hprimed
    exact .inr ⟨_, _, rfl, hprimed⟩
  | unbound hprime hbound =>
    rw [hprime] at hprimed
    exact .inr ⟨_, _, hbound, hprimed.trans_sameBooks (sameBooks_bindServers ask _ _ _)⟩
  | @announced w₁ hprime hbound =>
    rw [hprime] at hprimed
    have hbooks := hprimed.trans_sameBooks (sameBooks_bindServers ask _ p.config (w'.nextInvoker p))
    have hlistening := (hbooks.record (.notice (.ofProvider p.config.appName p.config.key
      (.processorBound (w'.boundAfter ask p w₁).served)))).setListener (some (.republish p))
    have hannounced := hlistening.trans_sameBooks (sameBooks_announce ask _ p)
    cases hend : ((listening p (w'.boundAfter ask p w₁)).announce ask p).outcome.result with
    | ok u => exact .inl ⟨rfl, hannounced⟩
    | error e => exact .inr ⟨e, _, rfl, hannounced⟩

/-- A failed attempt that is taken back leaves no invoker, no listener, and one publication fewer
than it had counted. -/
theorem rebooked_discard {w' : World σ} {s : ProviderState} {l : Option Listener} {n : Nat}
    {t : Option Provider} (h : Rebooked w w' p s l n t) (a : Attempt σ) :
    Rebooked w (w'.discard ask p a) p { s with invoker := none } none (n - 1) t := by
  have hreleased :=
    ((h.setListener none).modifyProvider fun s => { s with invoker := none }).release
  rw [discard]
  dsimp only
  split
  · exact hreleased.record _
  · exact hreleased.trans_sameBooks
      ((sameBooks_retract ask _ p a.registries).trans (sameBooks_unbindServers ask _ _ a.servers))

theorem isPublished_withdraw (hpublished : w.isPublished p = false) (q : Provider) :
    (w.withdraw ask p).isPublished q = w.isPublished q := by
  rw [withdraw_unpublished ask hpublished, isPublished, provider_modifyProvider]
  split
  · next hq => rw [isPublished, provider, provider, hq]
  · rfl

theorem rebooked_withdraw (hpublished : w.isPublished p = true) :
    Rebooked w (w.withdraw ask p) p
      { w.provider p with invoker := none, epoch := (w.provider p).epoch + 1, published := false }
      none (w.liveCount p - 1) none := by
  have hraised := (Rebooked.refl w p).modifyProvider fun s => { s with epoch := s.epoch + 1 }
  have hwithdrawing : Rebooked w (w.withdrawing p) p _ _ _ _ := hraised.record _
  have hretracted := hwithdrawing.trans_sameBooks (sameBooks_retract ask _ p p.config.announcedIn)
  have hunlinked := (hretracted.modifyProvider fun s => { s with invoker := none }).trans_sameBooks
    (sameBooks_unbindServers ask _ p.config p.config.servers)
  have hreleased := (hunlinked.setListener none).release
  rw [withdraw_published ask hpublished]
  exact ((hreleased.record _).delist).modifyProvider fun s => { s with published := false }

theorem nextInvoker_admitted (w : World σ) (p : Provider) (n : Nat) (counts : ExportCounts) :
    (w.admitted p n counts).nextInvoker p = w.nextInvoker p := by
  have hprovider : (w.admitted p n counts).provider p = w.provider p := by
    rw [admitted]
    split <;> simp
  rw [nextInvoker, hprovider, nextInvoker]

theorem rebooked_failed {n : Nat} {counts : ExportCounts} {e : ProviderError}
    (hlimit : (w.services p.group).counts.acquire p.config.key p.config.repeatLimit.toInt =
      .ok (n, counts))
    (hattempt : ((w.admitted p n counts).attempt ask p).outcome.result = .error e) :
    Rebooked w (((w.admitted p n counts).attempt ask p).outcome.world.discard ask p
        ((w.admitted p n counts).attempt ask p)) p
      { w.provider p with invoker := none, attempts := (w.provider p).attempts + 1 } none
      (w.liveCount p) (w.entry p) := by
  have hadmitted := rebooked_admitted hlimit
  obtain ⟨hok, -⟩ | ⟨e', l, -, hbooks⟩ := @rebooked_attempt σ ask w p _ _ _ _ _ hadmitted
  · rw [hok] at hattempt
    cases hattempt
  · exact rebooked_discard hbooks _

theorem rebooked_done {n : Nat} {counts : ExportCounts}
    (hlimit : (w.services p.group).counts.acquire p.config.key p.config.repeatLimit.toInt =
      .ok (n, counts))
    (hattempt : ((w.admitted p n counts).attempt ask p).outcome.result = .ok ()) :
    Rebooked w ((((w.admitted p n counts).attempt ask p).outcome.world.enlist p).modifyProvider p
        fun s => { s with published := true }) p
      { w.provider p with
        published := true, invoker := some (w.nextInvoker p),
        attempts := (w.provider p).attempts + 1 }
      (some (.republish p)) (w.liveCount p + 1) (some p) := by
  have hadmitted := rebooked_admitted hlimit
  obtain ⟨-, hbooks⟩ | ⟨e', l, herror, -⟩ := @rebooked_attempt σ ask w p _ _ _ _ _ hadmitted
  · rw [nextInvoker_admitted] at hbooks
    exact hbooks.enlist.modifyProvider fun s => { s with published := true }
  · rw [hattempt] at herror
    cases herror

/-- However a publication ends, it writes the books of its own provider only. -/
theorem rebooked_publishNow (ask : Ask σ) (w : World σ) (p : Provider) :
    ∃ s l n t, Rebooked w (w.publishNow ask p).world p s l n t := by
  have hcourse := publishNow_course ask w p
  generalize w.publishNow ask p = outcome at hcourse
  cases hcourse with
  | already hpublished => exact ⟨_, _, _, _, .refl w p⟩
  | unfit hpublished hcheck => exact ⟨_, _, _, _, .refl w p⟩
  | refused hpublished hcheck hlimit => exact ⟨_, _, _, _, rebooked_prepared w p⟩
  | failed hpublished hcheck hlimit hattempt => exact ⟨_, _, _, _, rebooked_failed hlimit hattempt⟩
  | done hpublished hcheck hlimit hattempt => exact ⟨_, _, _, _, rebooked_done hlimit hattempt⟩

end Courses

end World

end ServicePublisher
