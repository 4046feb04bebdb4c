import ServicePublisher.Proofs.Returns
import ServicePublisher.Proofs.Rosters

/-! Withdrawals complete. Nobody who is asked back can stop a withdrawal: whatever the answers, the
others are asked as well, and nothing of the publication is left in the books. -/
namespace ServicePublisher

open World

variable {σ α : Type} {ask ask' : Ask σ} {providers : List Provider} {w w' : World σ}
  {p : Provider}

section Rounds

def unbindingBlame (c : ProviderConfig) (s : ServerConfig) (e : ProviderError) : Blame :=
  (.warn, (bindingBlame c s e).2)

theorem blames_roundOf (call : α → Call) {line : α → ProviderError → Notice}
    {blame : α → ProviderError → Blame} (hline : ∀ x e, (line x e).blame? = some (blame x e))
    (told : List (α × Option ProviderError)) :
    (roundOf call line told).filterMap Event.blame? =
      told.filterMap fun x => x.2.map (blame x.1) := by
  induction told with
  | nil => rfl
  | cons x told ih =>
    rw [roundOf] at ih
    rw [roundOf, List.flatMap_cons, List.filterMap_append, ih]
    cases h : x.2 <;> simp [Event.blame?, hline, List.filterMap_cons, h]

/-- All that is observed while a published provider is withdrawn. -/
def withdrawalEvents (w : World σ) (p : Provider)
    (retracted : List (RegistryConfig × Option ProviderError))
    (unbound : List (ServerConfig × Option ProviderError)) : List Event :=
  .notice (.ofProvider p.config.appName p.config.key (.withdrawing p.config.id)) ::
    roundOf (p.retraction (w.view p.config) (w.registryOf p)) p.retractionFailed retracted ++
    roundOf (ServerConfig.unbinding (w.view p.config)) p.unbindingFailed unbound ++
    [.notice (.ofProvider p.config.appName p.config.key (.keyReleased (w.liveCount p - 1)))]

theorem events_concluded (w : World σ) (p : Provider) :
    (w.concluded p).events = w.events ++ [.notice (.ofProvider p.config.appName p.config.key
      (.keyReleased (w.liveCount p - 1)))] := by
  have hremaining : ((w.setListener p.config none).release p.group p.config.key).1 =
      w.liveCount p - 1 := ExportCounts.fst_release _ _
  rw [concluded, hremaining]
  rfl

theorem events_withdraw (ask : Ask σ) (hlive : w.isPublished p = true)
    (hfiled : ∀ r ∈ p.config.announcedIn,
      w.origin? p.group r.identity = some (w.registryOf p r)) :
    ∃ retracted unbound, retracted.map Prod.fst = p.config.announcedIn ∧
      unbound.map Prod.fst = p.config.servers.filter (fun s => w.servers.contains s.serial) ∧
      (w.withdraw ask p).events = w.events ++ withdrawalEvents w p retracted unbound := by
  have hlisted : ∀ r ∈ p.config.announcedIn,
      (w.withdrawing p).origin? p.group r.identity = some (w.registryOf p r) := hfiled
  obtain ⟨retracted, hretracted, hfirst⟩ := retract_round p ask hlisted
  set w₁ := (w.withdrawing p).retract ask p p.config.announcedIn with hw₁
  have hbooks : SameBooks (w.withdrawing p) w₁ := sameBooks_retract ask _ p _
  obtain ⟨unbound, hunbound, hsecond⟩ :=
    unbindServers_round p ask (w₁.closeInvoker p) p.config.servers
  have hservers : (w₁.closeInvoker p).servers = w.servers := servers_retract ask _ p _
  have hview : (w₁.closeInvoker p).view p.config = w.view p.config := hbooks.view _
  have hcount : (w.unlinked ask p).liveCount p = w.liveCount p := by
    rw [liveCount, unlinked, (sameBooks_unbindServers ask _ _ _).counts]
    change ((w₁.services p.group).counts).count _ = _
    rw [hbooks.counts]
    rfl
  rw [hservers] at hunbound
  rw [hview] at hsecond
  refine ⟨retracted, unbound, hretracted, hunbound, ?_⟩
  rw [withdraw_published ask hlive, events_concluded, hcount, unlinked, hsecond]
  change w₁.events ++ _ ++ _ = _
  rw [hfirst, withdrawalEvents]
  simp [withdrawing, record]
  rfl

end Rounds

section Withdrawals

/-- Everybody concerned is asked back once, the registries that are on file first and then the
servers that exist, in the order of the configuration; and there is one warning for each who
refused. -/
structure AsksBack (w w' : World σ) (p : Provider)
    (retracted : List (RegistryConfig × Option ProviderError))
    (unbound : List (ServerConfig × Option ProviderError)) : Prop where
  registries : retracted.map Prod.fst = p.config.announcedIn
  servers : unbound.map Prod.fst = p.config.servers.filter fun s => w.servers.contains s.serial
  filed : ∀ r ∈ p.config.announcedIn,
    w.origin? p.group r.identity = some (w.registryOf p r)
  events : w'.events = w.events ++ withdrawalEvents w p retracted unbound
  exchanges : w'.exchanges = w.exchanges ++
    (retracted.map fun x => (p.retraction (w.view p.config) (w.registryOf p) x.1, x.2)) ++
    unbound.map fun x => (x.1.unbinding (w.view p.config), x.2)
  blames : w'.blames = w.blames ++
    (retracted.filterMap fun x => x.2.map (announcingBlame p.config x.1)) ++
    unbound.filterMap fun x => x.2.map (unbindingBlame p.config x.1)

/-- Of the publication nothing is left in the books, and all else is as before. -/
structure Cleared (w w' : World σ) (p : Provider) : Prop where
  unpublished : w'.isPublished p = false
  invoker : (w'.provider p).invoker = none
  listener : (w'.config p.config).listener = none
  entered : w.entry p = some p
  table : ∀ g, (w'.services g).published = if p.group = g then
    (w.services g).published.erase p.number else (w.services g).published
  counted : 0 < w.liveCount p
  count : ∀ g k, (w'.services g).counts.count k = if p.group = g ∧ p.config.key = k then
    w.liveCount p - 1 else (w.services g).counts.count k
  removed : (w'.services p.group).counts.contains p.config.key = true ↔ 1 < w.liveCount p
  attributes : (w'.config p.config).attributes = (w.config p.config).attributes
  configs : ∀ c, p.config.serial ≠ c.serial → w'.config c = w.config c
  providers : ∀ q, p.number ≠ q.number → w'.provider q = w.provider q

/-- A registry that exists is the one that is addressed. -/
theorem origin?_of_stocked {registries : List RegistryConfig} (h : w.Stocked p.group registries) :
    ∀ r ∈ registries, w.origin? p.group r.identity = some (w.registryOf p r) := by
  intro r hr
  obtain ⟨y, hy⟩ := Option.isSome_iff_exists.1 (h r hr)
  have hx : w.origin? p.group r.identity = some y.origin := by
    rw [origin?, hy]
    rfl
  rw [registryOf, hx]
  rfl

theorem withdraw_asks (ask : Ask σ) (hlive : w.isPublished p = true)
    (hstocked : w.Stocked p.group p.config.announcedIn) :
    ∃ retracted unbound, AsksBack w (w.withdraw ask p) p retracted unbound := by
  have hfiled := origin?_of_stocked hstocked
  obtain ⟨retracted, unbound, hretracted, hunbound, hevents⟩ := events_withdraw ask hlive hfiled
  refine ⟨retracted, unbound, hretracted, hunbound, hfiled, hevents, ?_, ?_⟩
  · rw [exchanges, hevents, withdrawalEvents, List.filterMap_append, List.filterMap_append,
      List.filterMap_append, List.filterMap_cons, exchanges_roundOf, exchanges_roundOf]
    simp [Event.exchange?, exchanges]
  · have hregistries (r : RegistryConfig) (e : ProviderError) :
        (p.retractionFailed r e).blame? = some (announcingBlame p.config r e) := rfl
    have hservers (s : ServerConfig) (e : ProviderError) :
        (p.unbindingFailed s e).blame? = some (unbindingBlame p.config s e) := rfl
    rw [blames, hevents, withdrawalEvents, List.filterMap_append, List.filterMap_append,
      List.filterMap_append, List.filterMap_cons, blames_roundOf _ hregistries,
      blames_roundOf _ hservers]
    simp [Event.blame?, Notice.blame?, Notice.level, Notice.fields, ProviderNotice.level, blames]

theorem Rostered.cleared (h : Rostered providers w) (hp : p ∈ providers) (ask : Ask σ)
    (hlive : w.isPublished p = true) : Cleared w (w.withdraw ask p) p := by
  have hbooks := @rebooked_withdraw σ ask w p hlive
  have hentry := h.entry p hp
  rw [hlive, if_pos rfl] at hentry
  refine ⟨?_, ?_, ?_, hentry, fun g => ?_, h.liveCount_pos hp hlive, hbooks.count, ?_,
    hbooks.attributes, hbooks.config, fun q hq => ?_⟩
  · rw [isPublished, hbooks.provider_self]
  · rw [hbooks.provider_self]
  · rw [listener_config, hbooks.listenerAt, if_pos rfl]
  · refine Std.ExtTreeMap.ext_getElem? fun m => ?_
    rw [hbooks.published]
    by_cases hg : p.group = g
    · subst hg
      by_cases hm : p.number = m
      · simp [hm]
      · simp [hm, Std.ExtTreeMap.getElem?_erase]
    · simp [hg]
  · rw [ExportCounts.contains_iff, ← liveCount, hbooks.liveCount_self]
    omega
  · rw [hbooks.provider, if_neg hq]

/-- Whatever was scheduled for a provider before its withdrawal comes to nothing. -/
theorem Rostered.void (h : Rostered providers w) (ask later : Ask σ) {i : Nat} {s : Scheduled}
    (hs : (w.withdraw ask p).scheduled[i]? = some s) (hsame : s.provider = p) :
    (w.withdraw ask p).fire later i =
      ((w.withdraw ask p).unscheduled i).report p.config .publicationCancelled := by
  have hmem : s ∈ w.scheduled := by
    rw [scheduled_withdraw] at hs
    exact List.mem_of_getElem? hs
  have hold := h.epoch s hmem
  have hnew := epoch_withdraw ask w p p
  rw [if_pos rfl] at hnew
  rw [hsame] at hold
  have hcourse := fire_course later (w.withdraw ask p) i
  generalize (w.withdraw ask p).fire later i = fired at hcourse ⊢
  cases hcourse with
  | idle hs' => cases hs.symm.trans hs'
  | void hs' _ =>
    cases hs.symm.trans hs'
    rw [hsame]
  | published hs' hepoch _ =>
    cases hs.symm.trans hs'
    rw [hsame] at hepoch
    omega
  | failed hs' hepoch _ =>
    cases hs.symm.trans hs'
    rw [hsame] at hepoch
    omega

/-- In every state that a run of operations reaches, and in every state amid the operations that
come after it, a withdrawal completes whatever is answered. A provider that is not published only
leaves its epoch; and in any case nothing that was scheduled for the provider happens any more. -/
theorem withdrawal_completes (hnumbers : (providers.map Provider.number).Nodup)
    {ops : List Operation} (hops : ∀ op ∈ ops, op.Among providers) (outside : σ)
    (hw : MovesAmong ask providers (run ask ops (World.start outside)) w) (hp : p ∈ providers)
    (ask' : Ask σ) :
    let w' := w.withdraw ask' p
    (w.isPublished p = true →
      (∃ retracted unbound, AsksBack w w' p retracted unbound) ∧ Cleared w w' p) ∧
    (w.isPublished p = false →
      w' = w.modifyProvider p fun s => { s with epoch := s.epoch + 1 }) ∧
    ∀ (later : Ask σ) i s, w'.scheduled[i]? = some s → s.provider = p →
      w'.fire later i = (w'.unscheduled i).report p.config .publicationCancelled := by
  obtain ⟨hsupplied, hrostered⟩ := supplied_and_rostered hnumbers hops hw
  refine ⟨fun hlive => ⟨?_, hrostered.cleared hp ask' hlive⟩, withdraw_unpublished ask',
    fun later i s => hrostered.void ask' later⟩
  exact withdraw_asks ask' hlive (hsupplied.stocked p hp hlive)

/-- The second server of a provider could not be created, and another provider has the same key.
When the first is withdrawn, one registry halts and the server that exists is not running. -/
theorem withdrawal_completes_refused :
    let registry (name : String) : RegistryConfig := ⟨⟨name, "mock", name⟩, ⟨"mock"⟩⟩
    let server (n : Nat) (id : String) : ServerConfig := ⟨n, { id }, ⟨"mock"⟩⟩
    let a := smallProvider 0 [server 0 "one", server 1 "two"]
      [registry "first", registry "second"] 0
    let b := smallProvider 1 [server 2 "three"] [registry "second"] 0
    let ops : List Operation := [.publish a, .publish b]
    let ask : Ask Unit := fun c _ =>
      (if c.name = "server.create" ∧ c.id = "two" then some (.collaborator "create" (.text "port"))
        else none, ())
    let ask' : Ask Unit := fun c _ =>
      (if c.name = "server.unregister" then some (.collaborator "unregister" (.text "not running"))
        else if c.id = "first" then some (.runtime "halted" none) else none, ())
    let w := run ask ops (World.start ())
    let w' := w.withdraw ask' a
    ([a, b].map Provider.number).Nodup ∧ (∀ op ∈ ops, op.Among [a, b]) ∧
      w.isPublished a = true ∧
      (w'.exchanges.map fun x => (x.1.name, x.1.id, x.2.map ProviderError.message)).drop
          w.exchanges.length =
        [("registry.unregister", "first", some "halted"), ("registry.unregister", "second", none),
          ("server.unregister", "one", some "unregister: not running")] ∧
      w.liveCount a = 2 ∧ w'.liveCount a = 1 ∧
      (∃ retracted unbound, AsksBack w w' a retracted unbound) ∧ Cleared w w' a := by
  intro registry server a b ops ask ask' w w'
  have hnumbers : ([a, b].map Provider.number).Nodup := by decide
  have hops : ∀ op ∈ ops, op.Among [a, b] := by simp [ops, Operation.Among]
  have hlive : w.isPublished a = true := by decide +kernel
  obtain ⟨hpublished, -, -⟩ := withdrawal_completes hnumbers hops () .refl
    (List.mem_cons_self : a ∈ [a, b]) ask'
  obtain ⟨hasked, hcleared⟩ := hpublished hlive
  exact ⟨hnumbers, hops, hlive, by decide +kernel, by decide +kernel, by decide +kernel, hasked,
    hcleared⟩

end Withdrawals

end ServicePublisher
