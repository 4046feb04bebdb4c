import ServicePublisher.Proofs.AttributeKeys
import ServicePublisher.Proofs.Groups
import ServicePublisher.Proofs.Takeover
import ServicePublisher.Proofs.WriteBack

/-! Attributes that are fit to be written. A value is refused exactly when its key is not accepted,
or when the key names a numeric property and the value is no integer. So attributes whose keys are
accepted and whose numeric values are integers stay such attributes, whatever is done. -/
namespace ServicePublisher

namespace ProviderConfig

/-- The property that a key names: the key itself or, when the key begins with a dot, what stands
after the method. -/
inductive NamesProperty : String → String → Prop
  | plain {key : String} (h : key.toList.head? ≠ some '.') : NamesProperty key key
  | ofMethod {key method property : String}
      (hkey : key.toList = '.' :: method.toList ++ '.' :: property.toList)
      (hmethod : '.' ∉ method.toList) : NamesProperty key property

/-- The key names a property whose values must be integers. -/
def NumericKey (key : String) : Prop := ∃ property ∈ numericProperties, NamesProperty key property

/-- All keys are accepted, and the values of numeric properties are integers. -/
structure WellFormed (c : ProviderConfig) (a : Attributes) : Prop where
  accepted : ∀ key value : String, a[key]? = some value → ∃ old, c.query a key = .ok old
  integers : ∀ key value : String, a[key]? = some value → NumericKey key → Text.WritesInt64 value

section Keys

variable {c : ProviderConfig} {a : Attributes} {key p p' : String} {k : AttributeKey}

theorem NamesProperty.unique (h : NamesProperty key p) (h' : NamesProperty key p') : p = p' := by
  cases h with
  | plain hplain =>
    cases h' with
    | plain => rfl
    | ofMethod hkey => simp [hkey] at hplain
  | ofMethod hkey hmethod =>
    cases h' with
    | plain hplain => simp [hkey] at hplain
    | ofMethod hkey' hmethod' =>
      have htexts := (List.cons.inj (hkey.symm.trans hkey')).2
      exact String.toList_inj.1 ((Text.append_sep_inj hmethod hmethod').1 htexts).2

theorem namesProperty_of_attributeKey (h : c.attributeKey key = .ok k) :
    NamesProperty key k.property := by
  cases denotes_of_attributeKey h with
  | plain _ hdot => exact .plain hdot
  | ofMethod hkey => exact .ofMethod hkey.text hkey.undotted

theorem isNumeric_iff (h : c.attributeKey key = .ok k) : k.isNumeric = true ↔ NumericKey key := by
  have hnames := namesProperty_of_attributeKey h
  rw [AttributeKey.isNumeric, List.contains_iff_mem]
  constructor
  · exact fun hmem => ⟨k.property, hmem, hnames⟩
  · rintro ⟨p, hmem, hp⟩
    rwa [hnames.unique hp]

theorem exists_query_iff (a : Attributes) :
    (∃ old, c.query a key = .ok old) ↔ ∃ k, c.attributeKey key = .ok k := by
  rw [query]
  cases c.attributeKey key with
  | error e => simp [Except.map]
  | ok k => simp [Except.map]

end Keys

section Values

variable {c : ProviderConfig} {a : Attributes} {key : String} {value : Option String}

theorem admits_iff (a : Attributes) : c.Admits key value ↔ (∃ old, c.query a key = .ok old) ∧
    (NumericKey key → ∀ v, value = some v → Text.WritesInt64 v) := by
  rw [exists_query_iff, ← isInteger_iff]
  constructor
  · rintro ⟨k, hk, hinteger⟩
    exact ⟨⟨k, hk⟩, fun hnumeric => hinteger ((isNumeric_iff hk).2 hnumeric)⟩
  · rintro ⟨⟨k, hk⟩, hinteger⟩
    exact ⟨k, hk, fun hnumeric => hinteger ((isNumeric_iff hk).1 hnumeric)⟩

theorem wellFormed_iff :
    c.WellFormed a ↔ ∀ key v : String, a[key]? = some v → c.Admits key (some v) := by
  constructor
  · intro h key v hv
    refine (admits_iff a).2 ⟨h.accepted key v hv, fun hnumeric v' hv' => ?_⟩
    cases hv'
    exact h.integers key v hv hnumeric
  · intro h
    refine ⟨fun key v hv => ((admits_iff a).1 (h key v hv)).1, fun key v hv hnumeric => ?_⟩
    exact ((admits_iff a).1 (h key v hv)).2 hnumeric v rfl

theorem WellFormed.update (h : c.WellFormed a) {ignoreIfSame : Bool} {r : Bool × Attributes}
    (hupdate : c.update a key value ignoreIfSame = .ok r) : c.WellFormed r.2 := by
  obtain hsame | ⟨hadmits, hput⟩ := of_update_eq_ok hupdate
  · rwa [hsame]
  · refine wellFormed_iff.2 fun key' v hv => ?_
    rw [hput, getElem?_put] at hv
    split at hv
    · next hkey => exact hkey ▸ hv ▸ hadmits
    · exact wellFormed_iff.1 h key' v hv

theorem error_of_update {ignoreIfSame : Bool} {e : ProviderError}
    (h : c.update a key value ignoreIfSame = .error e) :
    ∃ field given detail, e = .configuration field given detail := by
  rw [ProviderConfig.update] at h
  cases hk : c.attributeKey key with
  | error e' =>
    rw [hk] at h
    cases h
    obtain ⟨detail, he⟩ := error_of_attributeKey hk
    exact ⟨_, _, detail, he⟩
  | ok k =>
    simp only [hk] at h
    split at h
    · cases h
      exact ⟨_, _, _, rfl⟩
    · split at h <;> cases h

end Values

end ProviderConfig

/-- A listener that publishes again publishes one of the providers. -/
def Listener.Among (providers : List Provider) : Listener → Prop
  | .republish p => p ∈ providers
  | .recorder _ => True

open World ProviderConfig

variable {σ : Type} {ask : Ask σ} {providers : List Provider} {w w' : World σ} {c : ProviderConfig}

/-- Between two states a value has been written under one key of a configuration, and nothing else
has changed. -/
structure WroteOne (c : ProviderConfig) (key : String) (value : Option String) (w w' : World σ) :
    Prop where
  value : (w'.config c).attributes[key]? = value
  others : ∀ key' : String, key' ≠ key →
    (w'.config c).attributes[key']? = (w.config c).attributes[key']?
  rest : w' = w.modifyConfig c fun s => { s with attributes := (w'.config c).attributes }

section Updates

variable {key : String} {value : Option String}

theorem wroteOne_of_admits (h : c.Admits key value) (w : World σ) (ignoreIfSame : Bool) :
    ∃ touched w', w.updateAttribute c key value ignoreIfSame = ⟨.ok touched, w'⟩ ∧
      WroteOne c key value w w' ∧
      (touched = false ↔ ignoreIfSame = true ∧ (w.config c).attributes[key]? = value) := by
  obtain ⟨touched, hupdate, htouched⟩ :=
    update_of_admits h (w.config c).attributes ignoreIfSame
  have hwrote : Wrote c w _ (Attributes.put (w.config c).attributes key value) := .modifyConfig w _
  have hput := hwrote.attributes
  rw [updateAttribute, hupdate]
  refine ⟨touched, _, rfl, ⟨?_, fun key' hkey => ?_, ?_⟩, htouched⟩
  · rw [hput, getElem?_put, if_pos rfl]
  · rw [hput, getElem?_put, if_neg (Ne.symm hkey)]
  · rw [hput]

theorem updateAttribute_of_not_admits (h : ¬c.Admits key value) (w : World σ)
    (ignoreIfSame : Bool) : ∃ field given detail,
      w.updateAttribute c key value ignoreIfSame =
        ⟨.error (.configuration field given detail), w⟩ := by
  obtain ⟨e, hrefusal⟩ := exists_refusal h
  obtain ⟨field, given, detail, rfl⟩ := error_of_update (update_of_refusal hrefusal ∅ ignoreIfSame)
  exact ⟨field, given, detail, updateAttribute_of_refusal hrefusal w ignoreIfSame⟩

end Updates

section Runs

/-- A recorder makes a note of what it hears, and that is all. -/
theorem notify_recorder {answer : Option ProviderError}
    (h : w.listenerAt c.serial = some (.recorder answer)) (change : Change) :
    (w.notify ask c change).world = w.record (.heard change) := by
  unfold World.notify
  rw [listener_config, h]
  cases change with
  | replaced values => rfl
  | updated values => cases answer <;> rfl

variable (hknown : ∀ p ∈ providers, c.KnownApart p.config)
include hknown

theorem wellFormed_move (h : c.WellFormed (w.config c).attributes)
    (hmove : MoveAmongOf ask c.KnownApart providers w w') :
    c.WellFormed (w'.config c).attributes := by
  obtain ⟨fleet, hmembers, hmove⟩ := hmove
  exact attributes_move (fun p hp => hknown p (hmembers p hp)) (fun h => h.update) h hmove

theorem wellFormed_step (ask : Ask σ) (hconfined : Confined providers (Listener.Among providers) w)
    (h : c.WellFormed (w.config c).attributes) {op : Operation} (hop : op.Among providers)
    (hwrites : op.WritesOnly c.KnownApart) :
    Confined providers (Listener.Among providers) (step ask op w) ∧
      c.WellFormed ((step ask op w).config c).attributes := by
  by_cases hrecorder : ∃ c' change answer, op = .notify c' change ∧
      w.listenerAt c'.serial = some (.recorder answer)
  · obtain ⟨c', change, answer, rfl, hl⟩ := hrecorder
    have hstep : step ask (.notify c' change) w = w.record (.heard change) :=
      notify_recorder hl change
    rw [hstep]
    exact ⟨hconfined.sameBooks (sameBooks_record w _), h⟩
  · have hmoves : MovesAmongOf ask c.KnownApart providers w (step ask op w) := by
      refine movesAmongOf_step hknown hconfined hop hwrites fun c' change l hnotify hl => ?_
      cases l with
      | republish p => exact ⟨p, hconfined.listening _ _ hl, rfl⟩
      | recorder answer => exact absurd ⟨c', change, answer, hnotify, hl⟩ hrecorder
    generalize step ask op w = w' at hmoves
    induction hmoves with
    | refl => exact ⟨hconfined, h⟩
    | tail _ hlast ih =>
      obtain ⟨fleet, hmembers, hmove⟩ := hlast
      exact ⟨ih.1.move (fun _ hp => hp) ⟨fleet, hmembers, hmove.move⟩,
        wellFormed_move hknown ih.2 ⟨fleet, hmembers, hmove⟩⟩

theorem wellFormed_run (hconfined : Confined providers (Listener.Among providers) w)
    (h : c.WellFormed (w.config c).attributes) {ops : List Operation}
    (hops : ∀ op ∈ ops, op.Among providers ∧ op.WritesOnly c.KnownApart) :
    c.WellFormed ((run ask ops w).config c).attributes := by
  induction ops generalizing w with
  | nil => exact h
  | cons op ops ih =>
    obtain ⟨⟨hop, hwrites⟩, hrest⟩ := List.forall_mem_cons.1 hops
    obtain ⟨hconfined', h'⟩ := wellFormed_step hknown ask hconfined h hop hwrites
    exact ih hconfined' h' hrest

end Runs

/-- A value is refused, and nothing changes, exactly when its key is not accepted, or names a
numeric property and the value is no integer of 64 bits. Otherwise it is there afterwards under its
key, all else is as before, and the answer is negative only if the value was there and that is to be
ignored. So well-formed attributes stay well formed in every run, whoever listens. -/
theorem attributes_validated (hknown : ∀ p ∈ providers, c.KnownApart p.config) :
    (∀ (w : World σ) (key : String) (value : Option String) (ignoreIfSame : Bool),
      let outcome := w.updateAttribute c key value ignoreIfSame
      let refused := (¬∃ old, w.queryAttribute c key = .ok old) ∨
        NumericKey key ∧ ∃ v, value = some v ∧ ¬Text.WritesInt64 v
      (refused ∧ ∃ field given detail, outcome = ⟨.error (.configuration field given detail), w⟩) ∨
        (¬refused ∧ ∃ touched w', outcome = ⟨.ok touched, w'⟩ ∧ WroteOne c key value w w' ∧
          (touched = false ↔ ignoreIfSame = true ∧ (w.config c).attributes[key]? = value))) ∧
    ∀ (ask : Ask σ) (w : World σ) (ops : List Operation),
      Confined providers (Listener.Among providers) w → c.WellFormed (w.config c).attributes →
      (∀ op ∈ ops, op.Among providers ∧ op.WritesOnly c.KnownApart) →
      c.WellFormed ((run ask ops w).config c).attributes := by
  refine ⟨fun w key value ignoreIfSame => ?_, fun ask w ops hconfined h hops =>
    wellFormed_run hknown hconfined h hops⟩
  intro outcome refused
  have hrefused : refused ↔ ¬c.Admits key value := by
    rw [admits_iff (w.config c).attributes, not_and_or, Classical.not_imp]
    simp only [not_forall, exists_prop]
    rfl
  by_cases hadmits : c.Admits key value
  · exact .inr ⟨fun h => hrefused.1 h hadmits, wroteOne_of_admits hadmits w ignoreIfSame⟩
  · exact .inl ⟨hrefused.2 hadmits, updateAttribute_of_not_admits hadmits w ignoreIfSame⟩

/-- A timeout of one method and a weight are written, the latter while the provider is published.
The weight is the least one possible; the one above the greatest is refused. -/
theorem attributes_validated_limits :
    let small := smallProvider 0 [smallServer 0] [] 1
    let p : Provider := { small with config := { small.config with
      interface := ⟨"demo.Echo", "Echo", [⟨"say", []⟩]⟩ } }
    let updates := ((∅ : Updates).insert "weight" (some "-9223372036854775808")).insert
      ".say.timeout" none
    let ops : List Operation :=
      [.update p.config ".say.timeout" (some " +0042 ") true, .publish p,
        .notify p.config (.updated updates)]
    let w := run tranquil ops (World.start false)
    (∀ q ∈ [p], p.config.KnownApart q.config) ∧
      Confined [p] (Listener.Among [p]) (World.start false) ∧
      p.config.WellFormed ((World.start false).config p.config).attributes ∧
      (∀ op ∈ ops, op.Among [p] ∧ op.WritesOnly p.config.KnownApart) ∧
      (w.config p.config).attributes = (∅ : Attributes).insert "weight" "-9223372036854775808" ∧
      p.config.WellFormed (w.config p.config).attributes ∧
      ∃ field given detail,
        w.updateAttribute p.config "weight" (some "9223372036854775808") true =
          ⟨.error (.configuration field given detail), w⟩ := by
  intro small p updates ops w
  have hknown : ∀ q ∈ [p], p.config.KnownApart q.config := by
    intro q hq _
    rw [List.mem_singleton.1 hq]
  have hconfined : Confined [p] (Listener.Among [p]) (World.start false) :=
    ⟨(peopled_start [p] false).scheduled, (peopled_start [p] false).published, by
      simp [World.start, listenerAt]⟩
  have hempty : ((World.start false).config p.config).attributes = ∅ := rfl
  have hstart : p.config.WellFormed ((World.start false).config p.config).attributes := by
    rw [hempty]
    exact ⟨fun key v hv => by simp at hv, fun key v hv => by simp at hv⟩
  have hops : ∀ op ∈ ops, op.Among [p] ∧ op.WritesOnly p.config.KnownApart := by
    intro op hop
    simp only [ops, List.mem_cons, List.not_mem_nil, or_false] at hop
    obtain rfl | rfl | rfl := hop
    · exact ⟨trivial, fun _ => rfl⟩
    · exact ⟨List.mem_cons_self, trivial⟩
    · exact ⟨trivial, trivial⟩
  have hnumeric : NumericKey "weight" := ⟨"weight", by decide, .plain (by decide)⟩
  have htooBig : ¬Text.WritesInt64 "9223372036854775808" := by
    rw [← Text.isSome_int64?_iff]
    decide +kernel
  obtain ⟨hupdates, hruns⟩ := attributes_validated (σ := Bool) hknown
  obtain ⟨-, hrefused⟩ | ⟨hfine, -⟩ := hupdates w "weight" (some "9223372036854775808") true
  · exact ⟨hknown, hconfined, hstart, hops, by decide +kernel,
      hruns tranquil _ ops hconfined hstart hops, hrefused⟩
  · exact absurd (.inr ⟨hnumeric, _, rfl, htooBig⟩) hfine

end ServicePublisher
