import ServicePublisher.Proofs.Completion
import ServicePublisher.Proofs.Rollback
import ServicePublisher.Proofs.Takeover

/-! Changes that leave nothing to do. A full replacement, a change with a key that is not accepted
and one that brings only values that are there already touch nothing. Any other change of a
published provider begins with its withdrawal, and only then are values written. -/
namespace ServicePublisher

open World ProviderConfig

variable {σ : Type} {ask : Ask σ} {w w' : World σ} {p : Provider}

section Growth

variable {kind : ProviderConfig → Prop} {fleet : Fleet}

theorem grows_move (h : MoveOf ask kind fleet w w') : Grows (fun _ => True) w w' := by
  cases h with
  | publish hp => exact (steady_publishNow ask w _).shows.mono fun _ _ => trivial
  | withdraw hp => exact (quiet_withdraw ask w _).mono fun _ _ => trivial
  | schedule hp due => exact .of_eq rfl
  | unschedule i => exact .of_eq rfl
  | write hwrite => exact .of_eq rfl
  | log hn => exact (Grows.refl w).record trivial
  | build s => exact (quiet_build ask w s).mono fun _ _ => trivial
  | lookUp g r => exact (quiet_registryFor ask w g r).mono fun _ _ => trivial

theorem grows_moves (h : Moves ask kind fleet w w') : Grows (fun _ => True) w w' := by
  induction h with
  | refl => exact .refl w
  | tail _ hlast ih => exact ih.trans (grows_move hlast)

end Growth

section Comparisons

variable {c : ProviderConfig} {updates : List (String × Option String)}

theorem stale_eq_nil {a : Attributes} (h : ∀ u ∈ updates, a[u.1]? = u.2) :
    Attributes.stale a updates = [] := by
  rw [Attributes.stale, List.map_eq_nil_iff, List.filter_eq_nil_iff]
  exact fun u hu => by simp [h u hu]

/-- The first key that is not accepted ends the comparison, whatever has been found before. -/
theorem staleValues_of_rejected
    (h : ¬∀ u ∈ updates, ∃ old, w.queryAttribute c u.1 = .ok old) :
    ∃ u ∈ updates, ∃ e, w.queryAttribute c u.1 = .error e ∧ w.staleValues c updates = .error e := by
  induction updates with
  | nil => exact absurd nofun h
  | cons u rest ih =>
    rw [staleValues]
    cases hquery : w.queryAttribute c u.1 with
    | error e => exact ⟨u, List.mem_cons_self, e, hquery, rfl⟩
    | ok old =>
      have hrest : ¬∀ u ∈ rest, ∃ old, w.queryAttribute c u.1 = .ok old :=
        fun hrest => h (List.forall_mem_cons.2 ⟨⟨old, hquery⟩, hrest⟩)
      obtain ⟨u', hu', e, herror, hstale⟩ := ih hrest
      exact ⟨u', List.mem_cons_of_mem u hu', e, herror, by simp only [hstale, Except.map]⟩

end Comparisons

section Notifications

variable {updates : Updates} (ask) (hlistens : (w.config p.config).listener = some (.republish p))
include hlistens

theorem notify_replaced (values : Attributes) :
    w.notify ask p.config (.replaced values) = ⟨.ok (), w⟩ := by
  unfold notify
  rw [hlistens]

theorem notify_of_gone (hgone : w.isAlive p = false) (updates : Updates) :
    w.notify ask p.config (.updated updates) = ⟨.ok (), w⟩ := by
  unfold notify
  rw [hlistens]
  simp only [hgone, Bool.false_eq_true, if_false]

theorem notify_of_same (hsame : ∀ (key : String) value, updates[key]? = some value →
    w.queryAttribute p.config key = .ok value) :
    w.notify ask p.config (.updated updates) = ⟨.ok (), w⟩ := by
  cases halive : w.isAlive p with
  | false => exact notify_of_gone ask hlistens halive updates
  | true =>
    have hquery : ∀ u ∈ updates.toList, w.queryAttribute p.config u.1 = .ok u.2 :=
      fun u hu => hsame u.1 u.2 (Std.ExtTreeMap.mem_toList_iff_getElem?_eq_some.1 hu)
    have hnone : Attributes.stale (w.config p.config).attributes updates.toList = [] :=
      stale_eq_nil fun u hu => query_eq_ok (hquery u hu)
    rw [notify_of_listens ask hlistens halive, reconfigure,
      staleValues_of_accepted fun u hu => ⟨u.2, hquery u hu⟩, hnone]

theorem notify_of_rejected {key : String} {value : Option String}
    (hvalue : updates[key]? = some value)
    (hrejected : ¬∃ old, w.queryAttribute p.config key = .ok old) :
    ∃ (key : String) (value : Option String) (e : ProviderError), updates[key]? = some value ∧
      w.queryAttribute p.config key = .error e ∧
      w.notify ask p.config (.updated updates) =
        ⟨.ok (), if w.isAlive p then w.report p.config (.comparisonFailed e) else w⟩ := by
  have hall : ¬∀ u ∈ updates.toList, ∃ old, w.queryAttribute p.config u.1 = .ok old :=
    fun hall => hrejected (hall (key, value)
      (Std.ExtTreeMap.mem_toList_iff_getElem?_eq_some.2 hvalue))
  obtain ⟨u, hu, e, herror, hstale⟩ := staleValues_of_rejected hall
  refine ⟨u.1, u.2, e, Std.ExtTreeMap.mem_toList_iff_getElem?_eq_some.1 hu, herror, ?_⟩
  cases halive : w.isAlive p with
  | false => exact notify_of_gone ask hlistens halive updates
  | true =>
    rw [notify_of_listens ask hlistens halive, reconfigure, hstale]
    rfl

end Notifications

/-- All that is done follows the withdrawal: the values are written and the provider is published
again, and if that fails, the values are taken back and it is published once more. -/
theorem Effective.moves_notify {updates : Updates} (ask : Ask σ) (h : Effective w p.config updates)
    (hlistens : (w.config p.config).listener = some (.republish p)) (halive : w.isAlive p = true) :
    Moves ask (fun _ => True) (.solo p) ((w.report p.config .republishing).withdraw ask p)
      (w.notify ask p.config (.updated updates)).world := by
  have hp : p ∈ (Fleet.solo p).members := Fleet.mem_solo p
  have hagain : Moves ask (fun _ => True) (.solo p)
      ((w.report p.config .republishing).withdraw ask p)
      ((w.report p.config .republishing).republish ask p updates.toList).world :=
    moves_republish_withdrawn hp trivial updates.toList
  rw [notify_of_listens ask hlistens halive, reconfigure_of_stale ask h.staleValues h.stale_ne_nil]
  generalize (w.report p.config .republishing).republish ask p updates.toList = outcome
    at hagain ⊢
  obtain ⟨result, w'⟩ := outcome
  cases result with
  | ok u => exact hagain
  | error e => exact (hagain.trans (moves_report rfl)).trans (moves_rollBack hp trivial _)

/-- In any state, a change that replaces all values, that names a key which is not accepted, or that
brings only what is there, leaves everything as it is, but for one error that is logged of the key.
In a state that a run reaches, be it amid an operation, any other change of a published provider
that listens starts, once that is logged, with the withdrawal: whoever is to be asked back has been
asked back, and nothing of the publication is left, before anything else happens. -/
theorem idle_changes_void {σ : Type} {providers : List Provider}
    (hnumbers : (providers.map Provider.number).Nodup) (ask : Ask σ) {ops : List Operation}
    (hops : ∀ op ∈ ops, op.Among providers) (outside : σ) (ask' : Ask σ) :
    (∀ (w : World σ) (p : Provider), (w.config p.config).listener = some (.republish p) →
      (∀ values, w.notify ask' p.config (.replaced values) = ⟨.ok (), w⟩) ∧
      ∀ updates : Updates,
        ((∀ (key : String) value, updates[key]? = some value →
            w.queryAttribute p.config key = .ok value) →
          w.notify ask' p.config (.updated updates) = ⟨.ok (), w⟩) ∧
        ((∃ (key : String) (value : Option String), updates[key]? = some value ∧
            ¬∃ old, w.queryAttribute p.config key = .ok old) →
          ∃ (key : String) (value : Option String) (e : ProviderError),
            updates[key]? = some value ∧ w.queryAttribute p.config key = .error e ∧
            (ProviderNotice.comparisonFailed e).level = .error ∧
            w.notify ask' p.config (.updated updates) =
              ⟨.ok (), if w.isAlive p then w.report p.config (.comparisonFailed e) else w⟩)) ∧
    ∀ w, MovesAmong ask providers (run ask ops (World.start outside)) w → ∀ p ∈ providers,
      (w.config p.config).listener = some (.republish p) → w.isPublished p = true →
      ∀ updates : Updates, Effective w p.config updates →
        let started := w.report p.config .republishing
        let w₁ := started.withdraw ask' p
        let outcome := w.notify ask' p.config (.updated updates)
        (∃ retracted unbound, AsksBack started w₁ p retracted unbound) ∧ Cleared started w₁ p ∧
          MovesAmong ask' [p] w₁ outcome.world ∧ Grows (fun _ => True) w₁ outcome.world := by
  refine ⟨fun w p hlistens => ⟨notify_replaced ask' hlistens, fun updates =>
    ⟨notify_of_same ask' hlistens, fun ⟨_, _, hvalue, hrejected⟩ => ?_⟩⟩,
    fun w hw p hp hlistens hlive updates heffective => ?_⟩
  · obtain ⟨key, value, e, hvalue, herror, hnotify⟩ :=
      notify_of_rejected ask' hlistens hvalue hrejected
    exact ⟨key, value, e, hvalue, herror, rfl, hnotify⟩
  · intro started w₁ outcome
    obtain ⟨hsupplied, hrostered⟩ := supplied_and_rostered hnumbers hops hw
    have hreported : Rostered providers started := hrostered.sameBooks (sameBooks_record w _)
    have halive : w.isAlive p = true :=
      isAlive_of_entry (by rw [hrostered.entry p hp, hlive, if_pos rfl])
    have hmoves := heffective.moves_notify ask' hlistens halive
    exact ⟨withdraw_asks ask' hlive (hsupplied.stocked p hp hlive),
      hreported.cleared hp ask' hlive, movesAmong_solo List.mem_cons_self hmoves,
      grows_moves hmoves⟩

/-- A published provider is told of the tag that it has and of a weight that it has not, then of
another tag beside a method that is not declared, and at last of another tag. -/
theorem idle_changes_void_tags :
    let small := smallProvider 0 [smallServer 0] [] 1
    let p := { small with config := { small.config with
      attributes := (∅ : Attributes).insert "tags" "blue" } }
    let ops : List Operation := [.publish p]
    let w := run tranquil ops (World.start false)
    let same := ((∅ : Updates).insert "tags" (some "blue")).insert "weight" none
    let rejected := ((∅ : Updates).insert "tags" (some "green")).insert ".none.weight" none
    let green := (∅ : Updates).insert "tags" (some "green")
    let w₁ := (w.report p.config .republishing).withdraw tranquil p
    ([p].map Provider.number).Nodup ∧ (∀ op ∈ ops, op.Among [p]) ∧
      (w.config p.config).listener = some (.republish p) ∧ w.isPublished p = true ∧
      w.notify tranquil p.config (.updated same) = ⟨.ok (), w⟩ ∧
      (∃ e, w.notify tranquil p.config (.updated rejected) =
        ⟨.ok (), if w.isAlive p then w.report p.config (.comparisonFailed e) else w⟩) ∧
      Effective w p.config green ∧
      (w₁.exchanges.map fun x => x.1.name).drop w.exchanges.length = ["server.unregister"] ∧
      Grows (fun _ => True) w₁ (w.notify tranquil p.config (.updated green)).world := by
  intro small p ops w same rejected green w₁
  have hnumbers : ([p].map Provider.number).Nodup := List.nodup_singleton _
  have hops : ∀ op ∈ ops, op.Among [p] := by simp [ops, Operation.Among]
  have hcoherent : Coherent (.solo p) w := coherent_run tranquil false fun op hop => by
    rw [List.mem_singleton.1 hop]
    exact Fleet.mem_solo p
  have hpublished : w.isPublished p = true := by decide +kernel
  have hlistens : (w.config p.config).listener = some (.republish p) :=
    hcoherent.listens (Fleet.mem_solo p) (fun q hq _ => List.mem_singleton.1 hq) hpublished
  have hblue : (w.config p.config).attributes["tags"]? = some "blue" := by decide +kernel
  have hquery : w.queryAttribute p.config "tags" =
    .ok (w.config p.config).attributes["tags"]? := rfl
  have hgreen : green["tags"]? = some (some "green") := by simp [green]
  obtain ⟨hidle, heffects⟩ := idle_changes_void hnumbers tranquil hops false tranquil
  have hsame : w.notify tranquil p.config (.updated same) = ⟨.ok (), w⟩ := by
    refine ((hidle w p hlistens).2 same).1 fun key value hvalue => ?_
    by_cases hkey : key = "weight"
    · subst hkey
      obtain rfl : none = value := by simpa [same] using hvalue
      have hnone : (w.config p.config).attributes["weight"]? = none := by decide +kernel
      rw [← hnone]
      rfl
    · obtain ⟨rfl, rfl⟩ : "tags" = key ∧ some "blue" = value := by
        simpa [same, Std.ExtTreeMap.getElem?_insert, Ne.symm hkey] using hvalue
      rw [hquery, hblue]
  have hrejected : ¬∃ old, w.queryAttribute p.config ".none.weight" = .ok old := by
    rintro ⟨old, hold⟩
    cases hold
  have heffective : Effective w p.config green := by
    refine ⟨fun key value hvalue => ?_, "tags", some "green", hgreen, ?_⟩
    · obtain ⟨rfl, -⟩ : "tags" = key ∧ some "green" = value := by
        simpa [green, Std.ExtTreeMap.getElem?_insert] using hvalue
      exact ⟨_, hquery⟩
    · rw [hblue]
      decide
  obtain ⟨-, -, e, -, -, -, hnotify⟩ :=
    ((hidle w p hlistens).2 rejected).2 ⟨".none.weight", none, by simp [rejected], hrejected⟩
  have hrest := heffects w .refl p List.mem_cons_self hlistens hpublished green heffective
  exact ⟨hnumbers, hops, hlistens, hpublished, hsame, ⟨e, hnotify⟩, heffective, by decide +kernel,
    hrest.2.2.2⟩

end ServicePublisher
