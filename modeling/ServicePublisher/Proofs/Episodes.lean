import ServicePublisher.Proofs.Coherence
import ServicePublisher.Proofs.Disclosure

/-! Runs, operation by operation: what is observed in each, and what its caller is told. Whoever
waits for an operation or reads the log learns of every error that a collaborator answers, but for
the fault of a registry that could not be created when a publication came due. -/
namespace ServicePublisher

open World

variable {σ α : Type} {ask : Ask σ} {w w' : World σ} {p : Provider}

/-- What a caller is told by an operation, besides its success. Nobody waits for what comes due. -/
def reply (ask : Ask σ) : Operation → World σ → Option ProviderError
  | .publish p, w => (w.publish ask p).error?
  | .notify c change, w => (w.notify ask c change).error?
  | .update c key value b, w => (w.updateAttribute c key value b).error?
  | .build s, w => (w.build ask s).error?
  | .lookUp g r, w => (registryFor ask g r w).error?
  | .withdraw _, _ | .shutDown _, _ | .fire _, _ => none

/-- An operation of a run with what was observed in it and what its caller was told. -/
structure Episode where
  operation : Operation
  events : List Event
  reply : Option ProviderError

def episodes (ask : Ask σ) : List Operation → World σ → List Episode
  | [], _ => []
  | op :: ops, w =>
    ⟨op, (step ask op w).events.drop w.events.length, reply ask op w⟩ ::
      episodes ask ops (step ask op w)

/-- An error is told of: its text is logged as that of an error, or the caller is given an error
that has this text or a cause with this text. -/
def Episode.Tells (x : Episode) (e : ProviderError) : Prop :=
  e.message ∈ errorTexts x.events ∨
    ∃ e', x.reply = some e' ∧ (e.message = e'.message ∨ e.message ∈ e'.causes)

/-- A publication came due, and a registry could not be created for a reason of its own. -/
def Episode.Hides (x : Episode) (event : Event) : Prop :=
  (∃ i, x.operation = .fire i) ∧ event.Unfiled

/-- Of what happens in an operation, exactly the refusals that are not hidden are told of. -/
def Episode.Honest (x : Episode) : Prop :=
  ∀ event ∈ x.events, ∀ e, event.refusal? = some e → (x.Tells e ↔ ¬x.Hides event)

theorem World.Discloses.honest {o : Outcome σ α} (h : Discloses w o) {op : Operation}
    (hop : ∀ i, op ≠ .fire i) :
    ∃ es, o.world.events = w.events ++ es ∧ (⟨op, es, o.error?⟩ : Episode).Honest := by
  obtain ⟨es, hes, htold⟩ := h
  refine ⟨es, hes, fun event hevent e he => ⟨fun _ hhides => ?_, fun _ => ?_⟩⟩
  · obtain ⟨⟨i, hi⟩, -⟩ := hhides
    exact hop i hi
  · exact (htold event hevent e he).imp id fun herror => ⟨e, herror, .inl rfl⟩

/-- Whoever publishes at once is given the fault of a registry as a cause. -/
theorem publish_honest (ask : Ask σ) (w : World σ) (p : Provider) :
    ∃ es, (w.publish ask p).world.events = w.events ++ es ∧
      (⟨.publish p, es, (w.publish ask p).error?⟩ : Episode).Honest := by
  by_cases hdelay : p.config.delayMs = 0
  · rw [publish_at_once ask w hdelay]
    cases publishNow_disclosure ask w p with
    | told h hfiles => exact h.honest nofun
    | @unfiled e hfault herror hmissing hgrows =>
      obtain ⟨es, hes, hrefused⟩ := hgrows
      refine ⟨es, hes, fun event hevent e' he' => ⟨fun _ hhides => ?_, fun _ => ?_⟩⟩
      · obtain ⟨⟨i, hi⟩, -⟩ := hhides
        cases hi
      · obtain ⟨rfl, -⟩ := (hrefused event hevent).2 e' he'
        exact .inr ⟨_, Outcome.error?_eq_some_iff.2 herror,
          .inr (ProviderError.causes_intoFramework hfault)⟩
  · have hscheduled : Discloses w (w.publish ask p) := by
      rw [publish]
      simp only [hdelay, if_false]
      split
      · exact .nothing w _
      · exact .of_plain (Grows.trans (.of_eq rfl) (plain_report _ _ rfl))
    exact hscheduled.honest nofun

theorem World.Grows.of_events {fits : Event → Prop} (h : Grows fits w w') {es : List Event}
    (hes : w'.events = w.events ++ es) : ∀ x ∈ es, fits x := by
  obtain ⟨es', hes', hfits⟩ := h
  rwa [List.append_cancel_left (hes.symm.trans hes')]

/-- What came due logs its error, which is not the fault of a registry but has it as a cause. -/
theorem fire_honest (ask : Ask σ) (w : World σ) (i : Nat) :
    ∃ es, (w.fire ask i).events = w.events ++ es ∧ (⟨.fire i, es, none⟩ : Episode).Honest := by
  have htold {w' : World σ} (h : Discloses w (⟨.ok (), w'⟩ : Outcome σ Unit))
      (hfiles : Files w w') :
      ∃ es, w'.events = w.events ++ es ∧ (⟨.fire i, es, none⟩ : Episode).Honest := by
    obtain ⟨es, hes, hdisclosed⟩ := h
    refine ⟨es, hes, fun event hevent e he => ⟨fun _ hhides => ?_, fun _ => .inl ?_⟩⟩
    · exact hfiles.of_events hes event hevent hhides.2
    · exact (hdisclosed event hevent e he).resolve_right nofun
  have hplain {w' : World σ} (h : Grows Event.Plain w w') :
      ∃ es, w'.events = w.events ++ es ∧ (⟨.fire i, es, none⟩ : Episode).Honest :=
    htold (.of_plain h) (.of_plain h)
  have hcourse := fire_course ask w i
  generalize w.fire ask i = fired at hcourse
  cases hcourse with
  | idle hs => exact hplain (.refl w)
  | void hs hepoch => exact hplain (Grows.trans (.of_eq rfl) (plain_report _ _ rfl))
  | @published s hs hepoch hresult =>
    cases publishNow_disclosure ask (w.unscheduled i) s.provider with
    | told h hfiles => exact htold (h.done hresult) hfiles
    | unfiled hfault herror =>
      rw [hresult] at herror
      cases herror
  | @failed s e hs hepoch hresult =>
    cases publishNow_disclosure ask (w.unscheduled i) s.provider with
    | told h hfiles =>
      have hended : Discloses w (⟨.error e,
          ((w.unscheduled i).publishNow ask s.provider).world⟩ : Outcome σ Unit) := by
        rwa [← hresult]
      exact htold (hended.logged rfl (.ok ())) (hfiles.record id)
    | @unfiled e' hfault herror hmissing hgrows =>
      -- The one line that is logged is about the error that stands for the fault.
      obtain rfl : e = e'.intoFramework := Except.error.inj (hresult.symm.trans herror)
      obtain ⟨es, hes, hrefused⟩ := hgrows
      have hsilent : errorTexts es = [] :=
        List.filterMap_eq_nil_iff.2 fun x hx => (hrefused x hx).1
      refine ⟨es ++ [.notice (.ofProvider s.provider.config.appName s.provider.config.key
        (.scheduledPublicationFailed e'.intoFramework))], ?_, fun event hevent e he => ?_⟩
      · exact (congrArg (· ++ _) hes).trans (List.append_assoc _ _ _)
      · have hbefore : event ∈ es := by
          obtain hevent | hevent := List.mem_append.1 hevent
          · exact hevent
          · rw [List.mem_singleton.1 hevent] at he
            cases he
        obtain ⟨rfl, hunfiled⟩ := (hrefused event hbefore).2 e he
        refine iff_of_false (fun htells => ?_) fun hnot => hnot ⟨⟨i, rfl⟩, hunfiled⟩
        obtain hlogged | ⟨_, hreply, -⟩ := htells
        · rw [errorTexts_append, hsilent, List.nil_append] at hlogged
          exact ProviderError.message_intoFramework_ne hfault (List.mem_singleton.1 hlogged).symm
        · cases hreply

/-- Whoever listens to a configuration has its registries. -/
structure Mindful (providers : List Provider) (w : World σ) : Prop
    extends Peopled providers w where
  stocked : ∀ n q, w.listenerAt n = some (.republish q) → w.Stocked q.group q.config.announcedIn

theorem mindful_start (providers : List Provider) (outside : σ) :
    Mindful providers (World.start outside) where
  toPeopled := peopled_start providers outside
  stocked n q hq := by simp [World.start, listenerAt] at hq

theorem Mindful.shrink {providers : List Provider} (h : Mindful providers w)
    (hpeopled : Peopled providers w') (hkeeps : KeepsRegistries w w')
    (hlistening : ∀ n l, w'.listenerAt n = some l → w.listenerAt n = some l) :
    Mindful providers w' where
  toPeopled := hpeopled
  stocked n q hq := hkeeps.stocked (h.stocked n q (hlistening n _ hq))

theorem Mindful.rebooked {providers : List Provider} (h : Mindful providers w)
    (hpeopled : Peopled providers w') (hkeeps : KeepsRegistries w w') {s : ProviderState}
    {l : Option Listener} {n : Nat} {t : Option Provider} (hr : Rebooked w w' p s l n t)
    (hlistener : ∀ q, l = some (.republish q) → w'.Stocked q.group q.config.announcedIn) :
    Mindful providers w' where
  toPeopled := hpeopled
  stocked m q hq := by
    rw [hr.listenerAt] at hq
    split at hq
    · exact hlistener q hq
    · exact hkeeps.stocked (h.stocked m q hq)

theorem Mindful.publishNow {providers : List Provider} (h : Mindful providers w) (ask : Ask σ)
    (hp : p ∈ providers) : Mindful providers (w.publishNow ask p).world := by
  have hpeopled := @Peopled.publishNow σ ask providers w p h.toPeopled hp
  have hkeeps := keepsRegistries_publishNow ask w p
  have hstocked := @stocked_publishNow σ ask w p
  have hcourse := publishNow_course ask w p
  generalize w.publishNow ask p = outcome at hpeopled hkeeps hstocked hcourse
  cases hcourse with
  | already hpublished => exact h
  | unfit hpublished hcheck => exact h
  | refused hpublished hcheck hlimit =>
    exact h.rebooked hpeopled hkeeps (rebooked_prepared w p) fun q hq =>
      hkeeps.stocked (h.stocked _ q hq)
  | failed hpublished hcheck hlimit hattempt =>
    exact h.rebooked hpeopled hkeeps (rebooked_failed hlimit hattempt) fun q hq => by
      cases hq
  | done hpublished hcheck hlimit hattempt =>
    refine h.rebooked hpeopled hkeeps (rebooked_done hlimit hattempt) fun q hq => ?_
    cases hq
    exact hstocked hpublished rfl

theorem Mindful.move {providers : List Provider} (h : Mindful providers w)
    (hmove : MoveAmong ask providers w w') : Mindful providers w' := by
  have hpeopled := h.toPeopled.move hmove
  obtain ⟨fleet, hmembers, hmove⟩ := hmove
  have hkeeps := keepsRegistries_move hmove
  cases hmove with
  | publish hp => exact h.publishNow ask (hmembers _ hp)
  | @withdraw p hp =>
    cases hpublished : w.isPublished p with
    | false =>
      rw [withdraw_unpublished ask hpublished]
      exact h.shrink (by rwa [withdraw_unpublished ask hpublished] at hpeopled)
        (.of_eq fun _ => rfl) fun _ _ => id
    | true =>
      exact h.rebooked hpeopled hkeeps (rebooked_withdraw hpublished) fun q hq => by cases hq
  | schedule hp due => exact h.shrink hpeopled hkeeps fun _ _ => id
  | unschedule i => exact h.shrink hpeopled hkeeps fun _ _ => id
  | @write c key value b r hc hwrite =>
    refine h.shrink hpeopled hkeeps fun n l hl => ?_
    rw [listenerAt_modifyConfig] at hl
    split at hl
    · next hn => rwa [← hn, ← listener_config w c]
    · exact hl
  | log hn => exact h.shrink hpeopled hkeeps fun _ _ => id
  | build s =>
    refine h.shrink hpeopled hkeeps fun n l hl => ?_
    rwa [listenerAt, (sameBooks_build ask w s).configs] at hl
  | lookUp g r =>
    refine h.shrink hpeopled hkeeps fun n l hl => ?_
    rwa [listenerAt, (sameBooks_registryFor ask w g r).configs] at hl

theorem Mindful.honest {providers : List Provider} (h : Mindful providers w) (ask : Ask σ)
    (op : Operation) :
    ∃ es, (step ask op w).events = w.events ++ es ∧
      (⟨op, es, reply ask op w⟩ : Episode).Honest := by
  cases op with
  | publish p => exact publish_honest ask w p
  | withdraw p => exact (discloses_withdraw ask w p).honest nofun
  | shutDown g => exact (discloses_shutDown ask w g).honest nofun
  | notify c change => exact (discloses_notify ask (h.stocked _) change).honest nofun
  | fire i => exact fire_honest ask w i
  | update c key value b => exact (discloses_updateAttribute w c key value b).honest nofun
  | build s => exact (discloses_build ask w s).honest nofun
  | lookUp g r => exact (discloses_registryFor ask w g r).honest nofun

def Operation.named? : Operation → Option Provider
  | .publish p | .withdraw p => some p
  | _ => none

theorem among_named (ops : List Operation) :
    ∀ op ∈ ops, op.Among (ops.filterMap Operation.named?) := by
  intro op hop
  cases op with
  | publish p => exact List.mem_filterMap.2 ⟨_, hop, rfl⟩
  | withdraw p => exact List.mem_filterMap.2 ⟨_, hop, rfl⟩
  | _ => trivial

theorem Mindful.episodes {providers : List Provider} (h : Mindful providers w) (ask : Ask σ)
    {ops : List Operation} (hops : ∀ op ∈ ops, op.Among providers) :
    (run ask ops w).events = w.events ++ (episodes ask ops w).flatMap Episode.events ∧
      ∀ x ∈ ServicePublisher.episodes ask ops w, x.Honest := by
  induction ops generalizing w with
  | nil => exact ⟨(List.append_nil _).symm, fun x hx => by cases hx⟩
  | cons op ops ih =>
    have hop : ∀ op' ∈ [op], op'.Among providers := by
      intro op' hop'
      rw [List.mem_singleton.1 hop']
      exact hops op List.mem_cons_self
    have hstep : Mindful providers (step ask op w) :=
      run_keeps_among (fun _ h => h.toPeopled) (fun _ _ h hmove => h.move hmove) hop h
    obtain ⟨hevents, hhonest⟩ := ih hstep fun op' hop' => hops op' (List.mem_cons_of_mem op hop')
    obtain ⟨es, hes, hfirst⟩ := h.honest ask op
    have hhere : (step ask op w).events.drop w.events.length = es := by
      rw [hes, List.drop_left]
    rw [ServicePublisher.episodes, hhere]
    constructor
    · rw [List.flatMap_cons, ← List.append_assoc, ← hes]
      exact hevents
    · intro x hx
      obtain rfl | hx := List.mem_cons.1 hx
      · exact hfirst
      · exact hhonest x hx

/-- In every run, whatever the collaborators answer: all that happens, happens in an operation. Of
every error that a collaborator answers, the log or the caller of the operation in which it was
answered tells, exactly unless a publication came due and a registry could not be created for a
reason of its own. -/
theorem refusals_told_iff_not_hidden (ask : Ask σ) (outside : σ) (ops : List Operation) :
    let w := World.start outside
    (run ask ops w).events = (episodes ask ops w).flatMap Episode.events ∧
      ∀ x ∈ episodes ask ops w, ∀ event ∈ x.events, ∀ e, event.refusal? = some e →
        (x.Tells e ↔ ¬x.Hides event) :=
  (mindful_start _ outside).episodes ask (among_named ops)

/-- A registry refuses to be created when a delayed publication comes due: the one text that is
logged is another, no caller is told anything, and the provider is not published. -/
theorem refusal_hidden_when_due :
    let registry : RegistryConfig := ⟨⟨"hub", "mock", "hub"⟩, ⟨"mock"⟩⟩
    let prompt := smallProvider 0 [smallServer 0] [registry] 1
    let p := { prompt with config := { prompt.config with delayMs := 100 } }
    let ask : Ask Unit := fun c _ =>
      (if c.name = "registry.create" then
        some (.collaborator "registry.create" (.text "connection refused")) else none, ())
    let ops : List Operation := [.publish p, .fire 0]
    let w := run ask ops (World.start ())
    w.exchanges.map (fun x => (x.1.name, x.2.map ProviderError.message)) =
        [("registry.create", some "registry.create: connection refused")] ∧
      errorTexts w.events = ["Build provider proxy error!"] ∧ w.isPublished p = false ∧
      ∃ x ∈ episodes ask ops (World.start ()), ∃ event ∈ x.events, ∃ e,
        event.refusal? = some e ∧ ¬x.Tells e := by
  intro registry prompt p ask ops w
  have hlost : (episodes ask ops (World.start ())).any (fun x => x.events.any fun event =>
      event.refusal?.any fun e =>
        !(errorTexts x.events).contains e.message && x.reply.isNone) = true := by
    decide +kernel
  refine ⟨by decide +kernel, by decide +kernel, by decide +kernel, ?_⟩
  obtain ⟨x, hx, hevents⟩ := List.any_eq_true.1 hlost
  obtain ⟨event, hevent, hrefused⟩ := List.any_eq_true.1 hevents
  cases he : event.refusal? with
  | none => simp [he] at hrefused
  | some e =>
    simp only [he, Option.any_some, Bool.and_eq_true, Bool.not_eq_true', List.contains_eq_mem,
      decide_eq_false_iff_not, Option.isNone_iff_eq_none] at hrefused
    refine ⟨x, hx, event, hevent, e, he, fun htells => ?_⟩
    obtain hlogged | ⟨e', hreply, -⟩ := htells
    · exact hrefused.1 hlogged
    · rw [hrefused.2] at hreply
      cases hreply

end ServicePublisher
