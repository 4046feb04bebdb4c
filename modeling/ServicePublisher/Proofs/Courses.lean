import ServicePublisher.Proofs.State

/-! The courses that a publication can take, each with all that must hold for it and with its whole
effect. Later proofs go through these courses and do not open the program again. -/
namespace ServicePublisher

open World

variable {σ : Type} (ask : Ask σ)

namespace World

/-- The state of a publication whose checks are passed: the methods are decided. -/
def prepared (w : World σ) (p : Provider) : World σ :=
  (w.decideMethods p).report p.config (.publishing p.config.id)

/-- The state of a publication that has been counted as the n-th under its key. -/
def admitted (w : World σ) (p : Provider) (n : Nat) (counts : ExportCounts) : World σ :=
  let w := (w.prepared p).modifyServices p.group fun t => { t with counts }
  if 1 < n then w.report p.config (.publishedBefore n) else w

/-- The servers bound to the next invoker of a provider, once its registries exist. -/
def boundAfter (w : World σ) (p : Provider) (w₁ : World σ) : Walk σ ServerConfig :=
  w₁.bindServers ask p.config (w.nextInvoker p)

/-- The state in which a bound provider is about to be announced. -/
def listening (p : Provider) (bound : Walk σ ServerConfig) : World σ :=
  (bound.outcome.world.report p.config (.processorBound bound.served)).setListener p.config
    (some (.republish p))

/-- The state of a withdrawal whose bindings are about to be taken back. -/
def withdrawing (w : World σ) (p : Provider) : World σ :=
  (w.modifyProvider p fun s => { s with epoch := s.epoch + 1 }).report p.config
    (.withdrawing p.config.id)

def unlinked (w : World σ) (p : Provider) : World σ :=
  (((w.withdrawing p).retract ask p p.config.announcedIn).closeInvoker p).unbindServers ask p.config
    p.config.servers

/-- The end of a withdrawal after its calls. -/
def concluded (w : World σ) (p : Provider) : World σ :=
  let released := (w.setListener p.config none).release p.group p.config.key
  ((released.2.report p.config (.keyReleased released.1)).delist p).modifyProvider p fun s =>
    { s with published := false }

end World

/-- The courses of an attempt: a registry cannot be created, or a server ends the attempt, or the
registries decide on its end. -/
inductive AttemptCourse (w : World σ) (p : Provider) : Attempt σ → Prop
  | unprimed {e : ProviderError} {w₁ : World σ}
      (hprime : prime ask p.group p.config.announcedIn (w.openInvoker p) = ⟨.error e, w₁⟩) :
      AttemptCourse w p ⟨[], [], ⟨.error e, w₁⟩⟩
  | unbound {w₁ : World σ} {e : ProviderError}
      (hprime : prime ask p.group p.config.announcedIn (w.openInvoker p) = ⟨.ok (), w₁⟩)
      (hbound : (w.boundAfter ask p w₁).outcome.result = .error e) :
      AttemptCourse w p ⟨(w.boundAfter ask p w₁).accepted, [], (w.boundAfter ask p w₁).outcome⟩
  | announced {w₁ : World σ}
      (hprime : prime ask p.group p.config.announcedIn (w.openInvoker p) = ⟨.ok (), w₁⟩)
      (hbound : (w.boundAfter ask p w₁).outcome.result = .ok ()) :
      AttemptCourse w p ⟨(w.boundAfter ask p w₁).accepted,
        ((listening p (w.boundAfter ask p w₁)).announce ask p).accepted,
        ((listening p (w.boundAfter ask p w₁)).announce ask p).outcome⟩

theorem attempt_course (w : World σ) (p : Provider) : AttemptCourse ask w p (w.attempt ask p) := by
  have hu := @AttemptCourse.unprimed σ ask w p
  have hb := @AttemptCourse.unbound σ ask w p
  have ha := @AttemptCourse.announced σ ask w p
  rw [attempt]
  dsimp only
  generalize hprime : prime ask p.group p.config.announcedIn (w.openInvoker p) = primed
    at hu hb ha ⊢
  obtain ⟨result, w₁⟩ := primed
  cases result with
  | error e => exact hu rfl
  | ok u =>
    have hb' := @hb w₁
    have ha' := @ha w₁
    rw [boundAfter] at hb' ha'
    dsimp only
    generalize w₁.bindServers ask p.config (w.nextInvoker p) = bound at hb' ha' ⊢
    obtain ⟨accepted, served, result, w₂⟩ := bound
    cases result with
    | error e => exact hb' rfl rfl
    | ok u => exact ha' rfl rfl

/-- The courses of a publication: there is nothing to do, the configuration is unfit, the key has
reached its limit, the attempt fails and is taken back, or the provider is published. -/
inductive PublicationCourse (w : World σ) (p : Provider) : Outcome σ Unit → Prop
  | already (hpublished : w.isPublished p = true) : PublicationCourse w p ⟨.ok (), w⟩
  | unfit (hpublished : w.isPublished p = false) {e : ProviderError}
      (hcheck : p.config.check = .error e) : PublicationCourse w p ⟨.error e, w⟩
  | refused (hpublished : w.isPublished p = false) (hcheck : p.config.check = .ok ())
      {e : ProviderError}
      (hlimit : (w.services p.group).counts.acquire p.config.key p.config.repeatLimit.toInt =
        .error e) :
      PublicationCourse w p ⟨.error e, w.prepared p⟩
  | failed (hpublished : w.isPublished p = false) (hcheck : p.config.check = .ok ())
      {n : Nat} {counts : ExportCounts} {e : ProviderError}
      (hlimit : (w.services p.group).counts.acquire p.config.key p.config.repeatLimit.toInt =
        .ok (n, counts))
      (hattempt : ((w.admitted p n counts).attempt ask p).outcome.result = .error e) :
      PublicationCourse w p ⟨.error e.intoFramework,
        ((w.admitted p n counts).attempt ask p).outcome.world.discard ask p
          ((w.admitted p n counts).attempt ask p)⟩
  | done (hpublished : w.isPublished p = false) (hcheck : p.config.check = .ok ())
      {n : Nat} {counts : ExportCounts}
      (hlimit : (w.services p.group).counts.acquire p.config.key p.config.repeatLimit.toInt =
        .ok (n, counts))
      (hattempt : ((w.admitted p n counts).attempt ask p).outcome.result = .ok ()) :
      PublicationCourse w p ⟨.ok (),
        (((w.admitted p n counts).attempt ask p).outcome.world.enlist p).modifyProvider p fun s =>
          { s with published := true }⟩

@[simp] theorem provider_prepared (w : World σ) (p q : Provider) :
    (w.prepared p).provider q = w.provider q := by
  rw [prepared, report_eq_record, provider_record, provider_decideMethods]

theorem counts_prepared (w : World σ) (p : Provider) (g : Nat) :
    ((w.prepared p).services g).counts = (w.services g).counts :=
  @decideMethods_keeps σ w _ Services.counts (fun _ _ => rfl) p g

theorem publishNow_course (w : World σ) (p : Provider) :
    PublicationCourse ask w p (w.publishNow ask p) := by
  rw [publishNow]
  cases hpublished : w.isPublished p with
  | true => exact .already hpublished
  | false =>
    simp only [Bool.false_eq_true, if_false]
    cases hcheck : p.config.check with
    | error e => exact .unfit hpublished hcheck
    | ok u =>
      have hrefused := @PublicationCourse.refused σ ask w p hpublished hcheck
      have hfailed := @PublicationCourse.failed σ ask w p hpublished hcheck
      have hdone := @PublicationCourse.done σ ask w p hpublished hcheck
      have hprepared : (w.decideMethods p).report p.config (.publishing p.config.id) =
          w.prepared p := rfl
      rw [hprepared, acquire, counts_prepared]
      cases hlimit : (w.services p.group).counts.acquire p.config.key
          p.config.repeatLimit.toInt with
      | error e => exact hrefused hlimit
      | ok r =>
        obtain ⟨n, counts⟩ := r
        have hfailed' := @hfailed n counts
        have hdone' := @hdone n counts hlimit
        have hadmitted : (if 1 < n then ((w.prepared p).modifyServices p.group fun t =>
              { t with counts }).report p.config (.publishedBefore n)
            else (w.prepared p).modifyServices p.group fun t => { t with counts }) =
            w.admitted p n counts := rfl
        dsimp only
        rw [hadmitted]
        generalize (w.admitted p n counts).attempt ask p = a at hfailed' hdone' ⊢
        obtain ⟨servers, registries, result, w'⟩ := a
        cases result with
        | error e => exact hfailed' hlimit rfl
        | ok u => exact hdone' rfl

theorem publishNow_published {w : World σ} {p : Provider} (h : w.isPublished p = true) :
    w.publishNow ask p = ⟨.ok (), w⟩ := by
  rw [World.publishNow, if_pos h]

theorem publish_at_once (w : World σ) {p : Provider} (hdelay : p.config.delayMs = 0) :
    w.publish ask p = w.publishNow ask p := by
  rw [publish]
  exact if_pos hdelay

/-- A withdrawal of a provider that is not published only voids its scheduled publications. -/
theorem withdraw_unpublished {w : World σ} {p : Provider} (hpublished : w.isPublished p = false) :
    w.withdraw ask p = w.modifyProvider p fun s => { s with epoch := s.epoch + 1 } := by
  have hstill : (w.modifyProvider p fun s => { s with epoch := s.epoch + 1 }).isPublished p =
      false := by
    rw [isPublished, provider_modifyProvider, if_pos rfl]
    exact hpublished
  rw [withdraw]
  simp only [hstill, Bool.not_false, if_true]

theorem withdraw_published {w : World σ} {p : Provider} (hpublished : w.isPublished p = true) :
    w.withdraw ask p = (w.unlinked ask p).concluded p := by
  have hstill : (w.modifyProvider p fun s => { s with epoch := s.epoch + 1 }).isPublished p =
      true := by
    rw [isPublished, provider_modifyProvider, if_pos rfl]
    exact hpublished
  rw [withdraw]
  simp only [hstill, Bool.not_true, Bool.false_eq_true, if_false]
  rfl

end ServicePublisher
