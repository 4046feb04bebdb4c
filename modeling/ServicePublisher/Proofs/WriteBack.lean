import ServicePublisher.Proofs.Rollback

/-! Values that cannot be written back. A value is validated when it is written, but a configuration
is created with any. So a roll-back may be refused a value of the configuration as it was created,
and none but these: whatever has been written can be written again. -/
namespace ServicePublisher

namespace ProviderConfig

/-- A configuration is known by its serial number. -/
def KnownApart (c c' : ProviderConfig) : Prop := c'.serial = c.serial → c' = c

/-- A value that the configuration was created with, although it could not be written: the key is
numeric, but the value is not an integer. -/
structure Misfit (c : ProviderConfig) (key : String) (value : Option String) : Prop where
  initial : value = c.attributes[key]?
  numeric : ∃ k, c.attributeKey key = .ok k ∧ k.isNumeric = true
  noInteger : isInteger value = false

/-- Whatever is found under a known key could be written, or has been there from the first. -/
def Sound (c : ProviderConfig) (a : Attributes) : Prop :=
  ∀ key k, c.attributeKey key = .ok k → c.Admits key a[key]? ∨ a[key]? = c.attributes[key]?

section Soundness

variable {c : ProviderConfig} {a : Attributes} {key : String} {value : Option String}

theorem sound_attributes (c : ProviderConfig) : c.Sound c.attributes := fun _ _ _ => .inr rfl

theorem Sound.update (h : c.Sound a) {ignoreIfSame : Bool} {r : Bool × Attributes}
    (hupdate : c.update a key value ignoreIfSame = .ok r) : c.Sound r.2 := by
  obtain hsame | ⟨hadmits, hput⟩ := of_update_eq_ok hupdate
  · rwa [hsame]
  · intro key' k hk
    rw [hput, getElem?_put]
    split
    · next hkey => exact .inl (hkey ▸ hadmits)
    · exact h key' k hk

theorem Misfit.not_admits (h : c.Misfit key value) : ¬c.Admits key value := by
  intro hadmits
  obtain ⟨k, hk, hnumeric⟩ := h.numeric
  obtain ⟨k', hk', hinteger⟩ := hadmits
  obtain rfl : k = k' := Except.ok.inj (hk.symm.trans hk')
  exact Bool.noConfusion (h.noInteger.symm.trans (hinteger hnumeric))

theorem Sound.admits_iff (h : c.Sound a) {k : AttributeKey} (hk : c.attributeKey key = .ok k) :
    c.Admits key a[key]? ↔ ¬c.Misfit key a[key]? := by
  constructor
  · exact fun hadmits hmisfit => hmisfit.not_admits hadmits
  · intro hfits
    obtain hadmits | hinitial := h key k hk
    · exact hadmits
    · refine ⟨k, hk, fun hnumeric => ?_⟩
      by_contra hno
      exact hfits ⟨hinitial, ⟨k, hk, hnumeric⟩, eq_false_of_ne_true hno⟩

theorem complaint?_isSome_iff {u : String × Option String} :
    (c.complaint? u).isSome = true ↔ ¬c.Admits u.1 u.2 := by
  rw [complaint?, Option.isSome_map, ← refusal?_eq_none_iff, Option.isSome_iff_ne_none]

end Soundness

end ProviderConfig

open World ProviderConfig

variable {σ : Type} {ask : Ask σ} {fleet : Fleet} {w w' : World σ} {c : ProviderConfig}

section Runs

theorem attributes_rebooked {p : Provider} {s : ProviderState} {l : Option Listener} {n : Nat}
    {t : Option Provider} (h : Rebooked w w' p s l n t) (hc : c.KnownApart p.config) :
    (w'.config c).attributes = (w.config c).attributes := by
  by_cases hserial : p.config.serial = c.serial
  · rw [← hc hserial]
    exact h.attributes
  · rw [h.config c hserial]

theorem attributes_withdraw {p : Provider} (hc : c.KnownApart p.config) :
    ((w.withdraw ask p).config c).attributes = (w.config c).attributes := by
  cases hpublished : w.isPublished p with
  | false =>
    rw [withdraw_unpublished ask hpublished]
    rfl
  | true => exact attributes_rebooked (rebooked_withdraw hpublished) hc

/-- Every move keeps what all updates keep of the attributes, if those that write a configuration of
this serial number write this one. -/
theorem attributes_move {A : Attributes → Prop}
    (hmembers : ∀ p ∈ fleet.members, c.KnownApart p.config)
    (hupdate : ∀ {a key value ignoreIfSame r}, A a →
      c.update a key value ignoreIfSame = .ok r → A r.2)
    (h : A (w.config c).attributes) (hmove : MoveOf ask c.KnownApart fleet w w') :
    A (w'.config c).attributes := by
  cases hmove with
  | @publish p hp =>
    obtain ⟨s, l, n, t, hbooked⟩ := rebooked_publishNow ask w p
    rwa [attributes_rebooked hbooked (hmembers p hp)]
  | withdraw hp => rwa [attributes_withdraw (hmembers _ hp)]
  | schedule hp due => exact h
  | unschedule i => exact h
  | @write c' key value b r hc' hwrite =>
    rw [config_modifyConfig]
    split
    · next hserial =>
      obtain rfl := hc' hserial
      exact hupdate h hwrite
    · exact h
  | log hn => exact h
  | build s => rwa [(sameBooks_build ask w s).config]
  | lookUp g r => rwa [(sameBooks_registryFor ask w g r).config]

theorem sound_run (hmembers : ∀ p ∈ fleet.members, c.KnownApart p.config) (ask : Ask σ)
    (outside : σ) {ops : List Operation}
    (hops : ∀ op ∈ ops, op.Within fleet ∧ op.WritesOnly c.KnownApart) :
    c.Sound ((run ask ops (World.start outside)).config c).attributes := by
  have hboth := run_keeps_of_kind (I := fun w => Coherent fleet w ∧ c.Sound (w.config c).attributes)
    ask hmembers (fun _ h => h.1.toClosed)
    (fun _ _ h hmove => ⟨h.1.move hmove.move,
      attributes_move hmembers (fun h => h.update) h.2 hmove⟩) hops
    ⟨coherent_start fleet outside, by simpa [World.start, config] using sound_attributes c⟩
  exact hboth.2

end Runs

section Rollbacks

variable {p : Provider} {old : List (String × Option String)}

theorem getElem?_rollBack {a : Attributes} (hvalues : ∀ u ∈ old, u.2 = a[u.1]?)
    {u : String × Option String} (hu : u ∈ old) (hadmits : p.config.Admits u.1 u.2) :
    ((w.rollBack ask p old).world.config p.config).attributes[u.1]? = u.2 := by
  have hback := wroteBack_restore p.config old w
  -- The publication that follows writes no attributes.
  have hsteady := (@steady_publish σ ask (restore p.config old w) p).attributes
  have hend : ((w.rollBack ask p old).world.config p.config).attributes =
      ((restore p.config old w).config p.config).attributes := by
    rw [World.rollBack]
    generalize (restore p.config old w).publish ask p = outcome at hsteady ⊢
    obtain ⟨result, w₁⟩ := outcome
    cases result with
    | ok _ => exact hsteady
    | error e => exact hsteady
  rw [hend, hback.attributes]
  obtain ⟨hnone, -⟩ | ⟨value, hmem, hvalue⟩ := getElem?_putAll (w.config p.config).attributes
    (old.filter fun u => (p.config.refusal? u.1 u.2).isNone) u.1
  · have hkept : u ∈ old.filter fun u => (p.config.refusal? u.1 u.2).isNone := by
      rw [List.mem_filter, refusal?_eq_none_iff.2 hadmits]
      exact ⟨hu, rfl⟩
    exact absurd rfl (hnone u hkept)
  · rw [hvalue, hvalues u hu]
    exact hvalues (u.1, value) (List.mem_of_mem_filter hmem)

/-- A provider hears of updates of known attributes that change something, and its publication with
the new values fails. -/
structure FailingChange (ask : Ask σ) (w : World σ) (p : Provider) (updates : Updates)
    (e : ProviderError) : Prop where
  listens : (w.config p.config).listener = some (.republish p)
  alive : w.isAlive p = true
  accepted : ∀ (key : String) value, updates[key]? = some value →
    ∃ old, w.queryAttribute p.config key = .ok old
  differs : ∃ (key : String) (value : Option String), updates[key]? = some value ∧
    (w.config p.config).attributes[key]? ≠ value
  fails : ((w.report p.config .republishing).republish ask p updates.toList).result = .error e

variable {updates : Updates} {e : ProviderError}

theorem FailingChange.notify (h : FailingChange ask w p updates e) :
    w.notify ask p.config (.updated updates) =
      (((w.report p.config .republishing).republish ask p updates.toList).world.report p.config
        (.updateFailed e)).rollBack ask p
          (Attributes.stale (w.config p.config).attributes updates.toList) := by
  have hfails := h.fails
  have heffective : Effective w p.config updates := ⟨h.accepted, h.differs⟩
  rw [notify_of_listens ask h.listens h.alive,
    reconfigure_of_stale ask heffective.staleValues heffective.stale_ne_nil]
  generalize (w.report p.config .republishing).republish ask p updates.toList = first at hfails ⊢
  obtain ⟨result, w₁⟩ := first
  cases hfails
  rfl

theorem mem_stale {a : Attributes} {key : String} {value : Option String}
    (hvalue : updates[key]? = some value) (hdiffers : a[key]? ≠ value) :
    (key, a[key]?) ∈ Attributes.stale a updates.toList :=
  mem_stale_of_differs a (Std.ExtTreeMap.mem_toList_iff_getElem?_eq_some.2 hvalue) hdiffers

theorem eq_of_mem_stale {a : Attributes} {us : List (String × Option String)}
    {u : String × Option String} (hu : u ∈ Attributes.stale a us) : u.2 = a[u.1]? := by
  obtain ⟨v, -, rfl⟩ := List.mem_map.1 hu
  rfl

end Rollbacks

/-- When a change fails, the values that it would have changed are written back, all but those that
the configuration was created with although they are not integers under numeric keys. Exactly these
are refused and reported; every other changed key has again the value it had, or none. -/
theorem rollback_writes_back {p : Provider} (hmembers : ∀ q ∈ fleet.members,
    p.config.KnownApart q.config) (ask : Ask σ) (outside : σ) {ops : List Operation}
    (hops : ∀ op ∈ ops, op.Within fleet ∧ op.WritesOnly p.config.KnownApart) {ask' : Ask σ}
    {updates : Updates} {e : ProviderError}
    (h : FailingChange ask' (run ask ops (World.start outside)) p updates e) :
    let w := run ask ops (World.start outside)
    let a := (w.config p.config).attributes
    let old := Attributes.stale a updates.toList
    let failed := ((w.report p.config .republishing).republish ask' p updates.toList).world.report
      p.config (.updateFailed e)
    let outcome := w.notify ask' p.config (.updated updates)
    outcome = failed.rollBack ask' p old ∧
    (restore p.config old failed).events = failed.events ++ old.filterMap p.config.complaint? ∧
    ∀ key value, updates[key]? = some value → a[key]? ≠ value →
      (key, a[key]?) ∈ old ∧
      (∀ w' : World σ, (w'.updateAttribute p.config key a[key]? true).result.isOk = true ↔
        ¬p.config.Misfit key a[key]?) ∧
      ((p.config.complaint? (key, a[key]?)).isSome = true ↔ p.config.Misfit key a[key]?) ∧
      (¬p.config.Misfit key a[key]? →
        (outcome.world.config p.config).attributes[key]? = a[key]?) := by
  intro w a old failed outcome
  have hsound : p.config.Sound a := sound_run hmembers ask outside hops
  have houtcome : outcome = failed.rollBack ask' p old := h.notify
  refine ⟨houtcome, (wroteBack_restore p.config old failed).events,
    fun key value hvalue hdiffers => ?_⟩
  obtain ⟨k, hk⟩ : ∃ k, p.config.attributeKey key = .ok k := by
    obtain ⟨was, hquery⟩ := h.accepted key value hvalue
    rw [queryAttribute, query] at hquery
    cases hk : p.config.attributeKey key with
    | error e => simp [hk, Except.map] at hquery
    | ok k => exact ⟨k, rfl⟩
  have hadmits := hsound.admits_iff hk
  have hmem : (key, a[key]?) ∈ old := mem_stale hvalue hdiffers
  refine ⟨hmem, fun w' => (isOk_updateAttribute_iff w').trans hadmits, ?_, fun hfits => ?_⟩
  · rw [complaint?_isSome_iff, hadmits, not_not]
  · rw [houtcome]
    exact getElem?_rollBack (fun u hu => eq_of_mem_stale hu) hmem (hadmits.2 hfits)

/-- A weight that is no integer, and a tag, are replaced together; when the server refuses that, the
tag comes back. -/
theorem rollback_of_tag_beside_weight :
    let small := smallProvider 0 [smallServer 0] [] 1
    let p := { small with config := { small.config with
      attributes := ((∅ : Attributes).insert "weight" "heavy").insert "tags" "blue" } }
    let fleet := Fleet.pair p (smallProvider 1 [smallServer 0] [] 1) rfl (by decide)
    let ask : Ask Nat := fun _ n => (if n = 4 then some (.runtime "refused" none) else none, n + 1)
    let updates := ((∅ : Updates).insert "weight" (some "5")).insert "tags" (some "green")
    let w := run ask [.publish p] (World.start 0)
    (∀ q ∈ fleet.members, p.config.KnownApart q.config) ∧
      (∀ op ∈ [Operation.publish p], op.Within fleet ∧ op.WritesOnly p.config.KnownApart) ∧
      (∃ e, FailingChange ask w p updates e) ∧
      ((w.notify ask p.config (.updated updates)).world.config p.config).attributes["tags"]? =
        some "blue" := by
  intro small p fleet ask updates w
  have hp : p ∈ fleet.members := List.mem_cons_self
  have howns : fleet.Owns p :=
    Fleet.owns_pair p (smallProvider 1 [smallServer 0] [] 1) rfl (by decide) (by decide) hp
  have hmembers : ∀ q ∈ fleet.members, p.config.KnownApart q.config := by
    intro q hq hserial
    rw [howns q hq hserial]
  have hops : ∀ op ∈ [Operation.publish p],
      op.Within fleet ∧ op.WritesOnly p.config.KnownApart := by
    intro op hop
    obtain rfl := List.mem_singleton.1 hop
    exact ⟨hp, trivial⟩
  have hcoherent : Coherent fleet w := coherent_run ask 0 fun op hop => (hops op hop).1
  have hpublished : w.isPublished p = true := by decide +kernel
  have hblue : (w.config p.config).attributes["tags"]? = some "blue" := by decide +kernel
  have hgreen : updates["tags"]? = some (some "green") := by simp [updates]
  have hdiffers : (w.config p.config).attributes["tags"]? ≠ some "green" := by
    rw [hblue]
    decide
  obtain ⟨e, hfails⟩ : ∃ e, ((w.report p.config .republishing).republish ask p
      updates.toList).result = .error e := by
    have hnot : ((w.report p.config .republishing).republish ask p updates.toList).result.isOk =
        false := by decide +kernel
    cases hresult : ((w.report p.config .republishing).republish ask p updates.toList).result with
    | ok u =>
      rw [hresult] at hnot
      cases hnot
    | error e => exact ⟨e, rfl⟩
  have h : FailingChange ask w p updates e := by
    refine ⟨hcoherent.listens hp howns hpublished, hcoherent.alive hp hpublished,
      fun key value hvalue => ?_, ⟨"tags", some "green", hgreen, hdiffers⟩, hfails⟩
    by_cases hkey : key = "tags"
    · subst hkey
      exact ⟨_, rfl⟩
    · obtain ⟨rfl, -⟩ : "weight" = key ∧ some "5" = value := by
        simpa [updates, Std.ExtTreeMap.getElem?_insert, Ne.symm hkey] using hvalue
      exact ⟨_, rfl⟩
  have hfits : ¬p.config.Misfit "tags" (w.config p.config).attributes["tags"]? := by
    intro hmisfit
    obtain ⟨k, hk, hnumeric⟩ := hmisfit.numeric
    cases hk
    cases hnumeric
  have hback := (rollback_writes_back hmembers ask 0 hops h).2.2 "tags" (some "green") hgreen
    hdiffers
  exact ⟨hmembers, hops, ⟨e, h⟩, (hback.2.2.2 hfits).trans hblue⟩

/-- A weight that is no integer is replaced by one; when the server refuses that, the old weight is
refused as well, and the provider is published with the new one. -/
theorem weight_not_written_back :
    let small := smallProvider 0 [smallServer 0] [] 1
    let p := { small with config := { small.config with
      attributes := (∅ : Attributes).insert "weight" "heavy" } }
    let ask : Ask Nat := fun _ n => (if n = 4 then some (.runtime "refused" none) else none, n + 1)
    let updates := (∅ : Updates).insert "weight" (some "5")
    let w := run ask [.publish p] (World.start 0)
    let outcome := w.notify ask p.config (.updated updates)
    w.isPublished p = true ∧ (w.config p.config).attributes["weight"]? = some "heavy" ∧
      ((w.report p.config .republishing).republish ask p updates.toList).result.isOk = false ∧
      (outcome.world.updateAttribute p.config "weight" (some "heavy") true).result.isOk = false ∧
      outcome.world.isPublished p = true ∧
      (outcome.world.config p.config).attributes["weight"]? = some "5" := by
  decide +kernel

end ServicePublisher
