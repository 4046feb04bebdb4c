import ServicePublisher.Proofs.Groups
import ServicePublisher.Proofs.Verdicts

/-! What becomes of the errors that collaborators answer. Each is logged, or given to the caller
as it is or as the cause of another error; only a registry that cannot be created for a
publication that came due later is lost sight of, as the log tells of the error that took the
place of the fault. -/
namespace ServicePublisher

open World

variable {σ α β : Type} {ask : Ask σ} {w w' w'' : World σ} {p : Provider}

section Texts

def Notice.errorText? (n : Notice) : Option String :=
  (n.fields.lookup "error").bind fun
    | .text t => some t
    | .number _ => none

def Event.errorText? : Event → Option String
  | .notice n => n.errorText?
  | _ => none

def errorTexts (events : List Event) : List String := events.filterMap Event.errorText?

/-- What a collaborator answered that did not accept a call. -/
def Event.refusal? : Event → Option ProviderError
  | .call _ answer => answer
  | _ => none

/-- A registry could not be created, for a reason of its own. -/
def Event.Unfiled : Event → Prop
  | .call (.registry _ _ .create) (some e) => e.isFramework = false
  | _ => False

def Event.Plain : Event → Prop
  | .notice n => n.errorText? = none
  | _ => False

theorem Event.Plain.errorText {x : Event} (h : x.Plain) : x.errorText? = none := by
  cases x with
  | notice n => exact h
  | _ => cases h

theorem Event.Plain.refusal {x : Event} (h : x.Plain) : x.refusal? = none := by
  cases x with
  | notice n => rfl
  | _ => cases h

theorem Event.Plain.filed {x : Event} (h : x.Plain) : ¬x.Unfiled := by
  cases x with
  | notice n => exact id
  | _ => cases h

theorem Event.Unfiled.refusal {x : Event} (h : x.Unfiled) :
    ∃ e, x.refusal? = some e ∧ e.isFramework = false := by
  unfold Unfiled at h
  split at h
  · exact ⟨_, rfl, h⟩
  · cases h

theorem errorTexts_append (es es' : List Event) :
    errorTexts (es ++ es') = errorTexts es ++ errorTexts es' :=
  List.filterMap_append

/-- The error that a caller is given for a fault has the fault as its cause. -/
theorem ProviderError.causes_intoFramework {e : ProviderError} (h : e.isFramework = false) :
    e.message ∈ e.intoFramework.causes := by
  rw [intoFramework_of_fault h]
  exact List.mem_cons_self

/-- Its own text is another than that of the fault. -/
theorem ProviderError.message_intoFramework_ne {e : ProviderError} (h : e.isFramework = false) :
    e.intoFramework.message ≠ e.message := by
  rw [intoFramework_of_fault h]
  cases e with
  | collaborator context cause =>
    intro hsame
    have hcolon : ':' ∈ buildProxyError.toList := by
      have hlist : buildProxyError.toList = (context ++ ": " ++ cause.message).toList :=
        congrArg String.toList hsame
      rw [hlist]
      simp
    exact absurd hcolon (by decide)
  | _ => cases h

/-- Calls made in turn are refused once at most. -/
theorem InTurn.refusal {calls : List Call} {made : List Exchange} (h : InTurn calls made) {c : Call}
    {e : ProviderError} (hx : (c, some e) ∈ made) : firstRefusal made = some e := by
  induction h with
  | done => cases hx
  | refused c' calls e' =>
    cases List.mem_singleton.1 hx
    rfl
  | accepted c' h ih =>
    obtain hx | hx := List.mem_cons.1 hx
    · cases hx
    · exact ih hx

end Texts

namespace World

/-- In a step, every error that a collaborator answers is logged or is the error of the step. -/
def Discloses (w : World σ) (o : Outcome σ α) : Prop :=
  ∃ es, o.world.events = w.events ++ es ∧ ∀ x ∈ es, ∀ e, x.refusal? = some e →
    e.message ∈ errorTexts es ∨ o.error? = some e

namespace Discloses

theorem of_refusals {o : Outcome σ α}
    (h : Grows (fun x => ∀ e, x.refusal? = some e → o.error? = some e) w o.world) :
    Discloses w o := by
  obtain ⟨es, hes, hrefused⟩ := h
  exact ⟨es, hes, fun x hx e he => .inr (hrefused x hx e he)⟩

theorem of_plain {o : Outcome σ α} (h : Grows Event.Plain w o.world) : Discloses w o :=
  of_refusals (h.mono fun x hx e he => by rw [hx.refusal] at he; cases he)

theorem nothing (w : World σ) (r : Except ProviderError α) : Discloses w (⟨r, w⟩ : Outcome σ α) :=
  of_plain (.refl w)

/-- Two steps one after another, whatever error is left of them. -/
theorem append {γ : Type} {r : Except ProviderError α} {o : Outcome σ β} {o' : Outcome σ γ}
    (h : Discloses w (⟨r, w'⟩ : Outcome σ α)) (h' : Discloses w' o) (hworld : o'.world = o.world)
    (hfirst : ∀ e, r = .error e → o'.error? = some e)
    (hsecond : ∀ e, o.error? = some e → o'.error? = some e) : Discloses w o' := by
  obtain ⟨es, hes, htold⟩ := h
  obtain ⟨es', hes', htold'⟩ := h'
  have hes : w'.events = w.events ++ es := hes
  refine ⟨es ++ es', by rw [hworld, hes', hes, List.append_assoc], fun x hx e he => ?_⟩
  rw [errorTexts_append, List.mem_append]
  obtain hx | hx := List.mem_append.1 hx
  · exact (htold x hx e he).imp .inl fun herror => hfirst e (Outcome.error?_eq_some_iff.1 herror)
  · exact (htold' x hx e he).imp .inr (hsecond e)

/-- Where nothing is left to be told, a step may follow. -/
theorem followed {x : α} {o : Outcome σ β} (h : Discloses w (⟨.ok x, w'⟩ : Outcome σ α))
    (h' : Discloses w' o) : Discloses w o :=
  h.append h' rfl (fun e he => by cases he) fun _ => id

/-- A step that tells of everything in the log may follow in any case. -/
theorem before {r : Except ProviderError α} (h : Discloses w (⟨r, w'⟩ : Outcome σ α))
    (h' : Discloses w' (⟨.ok (), w''⟩ : Outcome σ Unit)) :
    Discloses w (⟨r, w''⟩ : Outcome σ α) :=
  h.append h' rfl (fun _ he => Outcome.error?_eq_some_iff.2 he) fun e he => by cases he

/-- An error ends the larger step as well. -/
theorem ended {e : ProviderError} (h : Discloses w (⟨.error e, w'⟩ : Outcome σ α)) :
    Discloses w (⟨.error e, w'⟩ : Outcome σ β) := h

theorem done {o : Outcome σ Unit} (h : Discloses w o) (hok : o.result = .ok ()) :
    Discloses w (⟨.ok (), o.world⟩ : Outcome σ Unit) := by
  rwa [← hok]

/-- An error that is logged is told, whatever comes after. -/
theorem logged {e : ProviderError} {n : Notice} (h : Discloses w (⟨.error e, w'⟩ : Outcome σ α))
    (hn : n.errorText? = some e.message) (r : Except ProviderError β) :
    Discloses w (⟨r, w'.log n⟩ : Outcome σ β) := by
  obtain ⟨es, hes, htold⟩ := h
  have hlogged : errorTexts (es ++ [.notice n]) = errorTexts es ++ [e.message] := by
    rw [errorTexts_append]
    simp [errorTexts, Event.errorText?, hn]
  have hes : w'.events = w.events ++ es := hes
  refine ⟨es ++ [.notice n], ?_, fun x hx e' he' => ?_⟩
  · rw [log, record, hes, List.append_assoc]
  · rw [hlogged]
    obtain hx | hx := List.mem_append.1 hx
    · obtain hbefore | herror := htold x hx e' he'
      · exact .inl (List.mem_append_left _ hbefore)
      · cases herror
        exact .inl (List.mem_append_right _ List.mem_cons_self)
    · rw [List.mem_singleton.1 hx] at he'
      cases he'

end Discloses

/-- Between two states no registry has failed to be created for a reason of its own. -/
abbrev Files (w w' : World σ) : Prop := Grows (fun x => ¬x.Unfiled) w w'

section Walks

variable {P : World σ → Prop} {report : World σ → α → ProviderError → World σ} {xs : List α}
  (hreport : ∀ w x e, P w → P (report w x e) ∧
    ∃ n, report w x e = w.log n ∧ n.errorText? = some e.message)
include hreport

omit hreport in
/-- Only a framework error ends a walk. -/
theorem isFramework_of_visitAll {visit : α → World σ → Stop σ} {w : World σ} {e : ProviderError}
    (he : (visitAll visit report xs w).outcome.error? = some e) : e.isFramework = true := by
  induction xs generalizing w with
  | nil => cases he
  | cons x xs ih =>
    rw [visitAll] at he
    generalize visit x w = stop at he
    obtain ⟨accepted, result, w₁⟩ := stop
    cases result with
    | ok u => exact ih he
    | error e' =>
      dsimp only at he
      split at he
      · next hframework =>
        cases he
        exact hframework
      · exact ih he

/-- A walk tells of what its stops tell of, and reports the faults. -/
theorem discloses_visitAll {visit : α → World σ → Stop σ}
    (hvisit : ∀ x ∈ xs, ∀ w, P w → P (visit x w).outcome.world ∧ Discloses w (visit x w).outcome)
    {w : World σ} (h : P w) : Discloses w (visitAll visit report xs w).outcome := by
  induction xs generalizing w with
  | nil => exact .nothing w _
  | cons x xs ih =>
    have hrest := @ih fun y hy => hvisit y (List.mem_cons_of_mem x hy)
    obtain ⟨hkept, htold⟩ := hvisit x List.mem_cons_self w h
    rw [visitAll]
    generalize visit x w = stop at hkept htold ⊢
    obtain ⟨accepted, result, w₁⟩ := stop
    dsimp only at hkept htold ⊢
    cases result with
    | ok u => exact htold.followed (hrest hkept)
    | error e =>
      dsimp only
      split
      · exact htold
      · obtain ⟨hreported, n, hlog, hn⟩ := hreport w₁ x e hkept
        rw [hlog] at hreported ⊢
        exact (htold.logged hn (.ok ())).followed (hrest hreported)

theorem discloses_sweep {visit : α → World σ → Outcome σ Unit}
    (hvisit : ∀ x ∈ xs, ∀ w, P w → P (visit x w).world ∧ Discloses w (visit x w))
    {w : World σ} (h : P w) :
    Discloses w (⟨.ok (), sweep visit report xs w⟩ : Outcome σ Unit) := by
  induction xs generalizing w with
  | nil => exact .nothing w _
  | cons x xs ih =>
    have hrest := @ih fun y hy => hvisit y (List.mem_cons_of_mem x hy)
    obtain ⟨hkept, htold⟩ := hvisit x List.mem_cons_self w h
    rw [sweep]
    generalize visit x w = outcome at hkept htold ⊢
    obtain ⟨result, w₁⟩ := outcome
    dsimp only at hkept htold ⊢
    cases result with
    | ok u => exact htold.followed (hrest hkept)
    | error e =>
      obtain ⟨hreported, n, hlog, hn⟩ := hreport w₁ x e hkept
      dsimp only
      rw [hlog] at hreported ⊢
      exact (htold.logged hn (.ok ())).followed (hrest hreported)

end Walks

section Steps

/-- Every refusal in a step that makes its calls in turn is the error of the step. -/
theorem Conducts.refusals {calls : List Call} {o : Outcome σ α} (h : Conducts w calls o)
    {fits : Event → Prop} (hgrows : Grows fits w o.world) :
    Grows (fun x => fits x ∧ ∀ e, x.refusal? = some e → o.error? = some e) w o.world := by
  obtain ⟨made, hturn, hmade, -, herror⟩ := h
  obtain ⟨es, hes, hfits⟩ := hgrows
  have hexchanges : es.filterMap Event.exchange? = made := by
    rw [Makes, exchanges, exchanges, hes, List.filterMap_append] at hmade
    exact List.append_cancel_left hmade
  refine ⟨es, hes, fun x hx => ⟨hfits x hx, fun e he => ?_⟩⟩
  cases x with
  | call c answer =>
    have he : answer = some e := he
    subst he
    rw [herror]
    refine InTurn.refusal hturn (c := c) ?_
    rw [← hexchanges]
    exact List.mem_filterMap.2 ⟨_, hx, rfl⟩
  | _ => cases he

theorem Conducts.discloses {calls : List Call} {o : Outcome σ α} (h : Conducts w calls o)
    (hgrows : Grows (fun _ => True) w o.world) : Discloses w o :=
  .of_refusals ((Conducts.refusals h hgrows).mono fun _ hx => hx.2)

end Steps

section Parts

variable (ask w)

theorem discloses_perform (c : Call) : Discloses w (w.perform ask c) :=
  Conducts.discloses (conducts_perform ask w c) (grows_perform ask w fun _ => trivial)

theorem discloses_build (s : ServerConfig) : Discloses w (w.build ask s) :=
  Conducts.discloses (conducts_build ask w s) ((quiet_build ask w s).mono fun _ _ => trivial)

theorem discloses_registryFor (g : Nat) (r : RegistryConfig) :
    Discloses w (registryFor ask g r w) :=
  Conducts.discloses (conducts_registryFor ask w g r)
    ((quiet_registryFor ask w g r).mono fun _ _ => trivial)

theorem discloses_bindServers (c : ProviderConfig) (v : Invoker) :
    Discloses w (w.bindServers ask c v).outcome := by
  refine discloses_visitAll (P := fun _ => True) (fun _ _ _ _ => ⟨trivial, _, rfl, rfl⟩)
    (fun s _ w' _ => ⟨trivial, ?_⟩) trivial
  exact Conducts.discloses (conducts_bindServer ask w' c v s)
    (bindServer_keeps (fun w'' _ _ h => h.trans (grows_perform ask w'' fun _ => trivial))
      (.refl w'))

theorem files_bindServers (c : ProviderConfig) (v : Invoker) :
    Files w (w.bindServers ask c v).outcome.world :=
  bindServers_keeps (fun w' _ _ _ _ h => h.trans (grows_perform ask w' fun _ => id))
    (fun _ _ _ h => h.record id) (.refl w)

variable {ask w}

theorem files_announceIn {r x : RegistryConfig} (hx : w.origin? p.group r.identity = some x) :
    Files w (announceIn ask p r w).world := by
  refine announceIn_keeps_of_found (P := Files w) (registryFor_of_origin ask w hx)
    (fun w' request hrequest h => ?_) (.refl w)
  obtain rfl | rfl | rfl := hrequest <;> exact h.trans (grows_perform ask w' fun _ => id)

theorem HasRegistry.origin? {g : Nat} {identity : String} (h : w.HasRegistry g identity) :
    ∃ x, w.origin? g identity = some x := by
  obtain ⟨y, hy⟩ := Option.isSome_iff_exists.1 h
  exact ⟨y.origin, by rw [World.origin?, hy]; rfl⟩

/-- Registries that exist are asked, and none is created. -/
theorem announce_discloses (hstocked : w.Stocked p.group p.config.announcedIn) :
    Discloses w (w.announce ask p).outcome ∧ Files w (w.announce ask p).outcome.world := by
  have hkept {r : RegistryConfig} {w' : World σ} (h : w'.Stocked p.group p.config.announcedIn) :
      (announceStop ask p r w').outcome.world.Stocked p.group p.config.announcedIn :=
    announceStop_keeps (P := fun w' => w'.Stocked p.group p.config.announcedIn)
      (fun w' _ _ _ h => (keepsRegistries_perform ask w' _).stocked h) (fun _ _ _ h => h) h
  rw [announce]
  constructor
  · refine discloses_visitAll (P := fun w' => w'.Stocked p.group p.config.announcedIn) ?report
      (fun r hr w' h => ⟨hkept h, ?_⟩) hstocked
    case report => exact fun _ _ _ h => ⟨h, _, rfl, rfl⟩
    obtain ⟨x, hx⟩ := (h r hr).origin?
    exact Conducts.discloses (conducts_announceIn ask w' hx)
      ((files_announceIn hx).mono fun _ _ => trivial)
  · refine (visitAll_keeps (P := fun w' => w'.Stocked p.group p.config.announcedIn ∧ Files w w')
      (fun r hr w' h => ?_) ?report ⟨hstocked, .refl w⟩).2
    case report => exact fun _ _ _ _ h => ⟨h.1, h.2.record id⟩
    obtain ⟨x, hx⟩ := (h.1 r hr).origin?
    exact ⟨hkept h.1, h.2.trans (files_announceIn hx)⟩

variable (ask w)

theorem discloses_retractFrom (p : Provider) (r : RegistryConfig) :
    Discloses w (retractFrom ask p r w) := by
  have hfound := discloses_registryFor ask w p.group r
  rw [retractFrom]
  generalize registryFor ask p.group r w = found at hfound ⊢
  obtain ⟨result, w₁⟩ := found
  cases result with
  | error e => exact hfound.ended
  | ok x => exact hfound.followed (discloses_perform ask w₁ _)

theorem discloses_retract (p : Provider) (registries : List RegistryConfig) :
    Discloses w (⟨.ok (), w.retract ask p registries⟩ : Outcome σ Unit) :=
  discloses_sweep (P := fun _ => True) (fun _ _ _ _ => ⟨trivial, _, rfl, rfl⟩)
    (fun r _ w' _ => ⟨trivial, discloses_retractFrom ask w' p r⟩) trivial

theorem discloses_unbindServers (c : ProviderConfig) (servers : List ServerConfig) :
    Discloses w (⟨.ok (), w.unbindServers ask c servers⟩ : Outcome σ Unit) := by
  refine discloses_sweep (P := fun _ => True) (fun _ _ _ _ => ⟨trivial, _, rfl, rfl⟩)
    (fun s _ w' _ => ⟨trivial, ?_⟩) trivial
  rw [unbindServer]
  split
  · exact discloses_perform ask w' _
  · exact .nothing w' _

end Parts

section Primes

theorem prime_of_stocked {g : Nat} {registries : List RegistryConfig}
    (h : w.Stocked g registries) : prime ask g registries w = ⟨.ok (), w⟩ := by
  induction registries with
  | nil => rfl
  | cons r rs ih =>
    obtain ⟨x, hx⟩ := (h r List.mem_cons_self).origin?
    rw [prime, registryFor_of_origin ask w hx]
    exact ih fun r' hr' => h r' (List.mem_cons_of_mem r hr')

/-- While registries are created no error is logged, and only registries are created. -/
theorem silent_prime (ask : Ask σ) (w : World σ) (g : Nat) (registries : List RegistryConfig) :
    Grows (fun x => x.errorText? = none ∧ ∀ e, x.refusal? = some e → e.isFramework = false →
      x.Unfiled) w (prime ask g registries w).world := by
  have hcreate (w : World σ) (r : RegistryConfig) :
      Grows (fun x => x.errorText? = none ∧ ∀ e, x.refusal? = some e → e.isFramework = false →
        x.Unfiled) w (w.perform ask (.registry g r .create)).world := by
    refine grows_perform ask w fun answer => ⟨rfl, fun e he hfault => ?_⟩
    have he : answer = some e := he
    rw [he]
    exact hfault
  induction registries generalizing w with
  | nil => exact .refl w
  | cons r rs ih =>
    rw [prime, registryFor]
    cases (w.services g).registries[r.identity]? with
    | some x => exact ih w
    | none =>
      have hcreated := hcreate w r
      dsimp only
      generalize w.perform ask (.registry g r .create) = created at hcreated ⊢
      obtain ⟨result, w₁⟩ := created
      cases result with
      | error e => exact hcreated
      | ok u => exact (hcreated.record ⟨rfl, fun _ he => (by cases he)⟩).trans (ih _)

end Primes

section Publications

theorem plain_report (w : World σ) (c : ProviderConfig) {n : ProviderNotice}
    (hn : (Notice.ofProvider c.appName c.key n).errorText? = none) :
    Grows Event.Plain w (w.report c n) :=
  (Grows.refl w).record hn

theorem plain_prepared (w : World σ) (p : Provider) : Grows Event.Plain w (w.prepared p) := by
  refine Grows.record ⟨methodNotices p.config, events_decideMethods w p, fun x hx => ?_⟩ rfl
  obtain ⟨n, -, rfl⟩ := List.mem_map.1 hx
  exact rfl

theorem plain_admitted (w : World σ) (p : Provider) (n : Nat) (counts : ExportCounts) :
    Grows Event.Plain w (w.admitted p n counts) := by
  have hcounted : Grows Event.Plain w
      ((w.prepared p).modifyServices p.group fun t => { t with counts }) :=
    (plain_prepared w p).trans (.of_eq rfl)
  rw [admitted]
  split
  · exact hcounted.record rfl
  · exact hcounted

theorem Files.of_plain (h : Grows Event.Plain w w') : Files w w' := h.mono fun _ hx => hx.filed

/-- The courses of an attempt, by what it tells: every refusal, or nothing but the fault of a
registry that cannot be created. -/
inductive AttemptDisclosure (w : World σ) (p : Provider) (a : Attempt σ) : Prop
  | told (h : Discloses w a.outcome) (hfiles : Files w a.outcome.world)
      (hframework : ∀ e, a.outcome.error? = some e → e.isFramework = true)
  | unfiled {e : ProviderError} (hfault : e.isFramework = false)
      (herror : a.outcome.error? = some e)
      (hmissing : ¬w.Stocked p.group p.config.announcedIn) (hservers : a.servers = [])
      (hregistries : a.registries = [])
      (hgrows : Grows (fun x => x.errorText? = none ∧ ∀ e', x.refusal? = some e' →
        e' = e ∧ x.Unfiled) w a.outcome.world)

theorem attempt_disclosure (ask : Ask σ) (w : World σ) (p : Provider) :
    AttemptDisclosure w p (w.attempt ask p) := by
  have hopened : Grows Event.Plain w (w.openInvoker p) := .of_eq rfl
  have hprimed := Conducts.refusals
    (conducts_prime ask (w.openInvoker p) p.group p.config.announcedIn)
    (silent_prime ask (w.openInvoker p) p.group p.config.announcedIn)
  have hstocked := @stocked_prime σ ask (w.openInvoker p) p.group p.config.announcedIn
  have hexisting := @prime_of_stocked σ ask (w.openInvoker p) p.group p.config.announcedIn
  -- Once all registries exist, nothing has been refused so far.
  have hready {w₁ : World σ} (h : Grows (fun x => (x.errorText? = none ∧ ∀ e, x.refusal? = some e →
      e.isFramework = false → x.Unfiled) ∧ ∀ e, x.refusal? = some e →
        (⟨.ok (), w₁⟩ : Outcome σ Unit).error? = some e) (w.openInvoker p) w₁) :
      Discloses w (⟨.ok (), w₁⟩ : Outcome σ Unit) ∧ Files w w₁ := by
    refine ⟨.of_refusals ?_, (Files.of_plain hopened).trans (h.mono fun x hx hunfiled => ?_)⟩
    · exact (hopened.mono fun x hx e he => by rw [hx.refusal] at he; cases he).trans
        (h.mono fun x hx => hx.2)
    · obtain ⟨e, he, -⟩ := hunfiled.refusal
      cases hx.2 e he
  have hcourse := attempt_course ask w p
  generalize w.attempt ask p = a at hcourse
  cases hcourse with
  | @unprimed e w₁ hprime =>
    rw [hprime] at hprimed hexisting
    have hmissing : ¬w.Stocked p.group p.config.announcedIn := fun h => by cases hexisting h
    have hrefused : Grows (fun x => x.errorText? = none ∧ ∀ e', x.refusal? = some e' →
        e' = e ∧ (e.isFramework = false → x.Unfiled)) w w₁ := by
      refine (hopened.mono fun x hx => ?_).trans (hprimed.mono fun x hx => ?_)
      · refine ⟨hx.errorText, fun e' he' => ?_⟩
        rw [hx.refusal] at he'
        cases he'
      · obtain ⟨⟨hsilent, hunfiled⟩, herror⟩ := hx
        refine ⟨hsilent, fun e' he' => ?_⟩
        obtain rfl : e = e' := Option.some.inj (herror e' he')
        exact ⟨rfl, hunfiled e he'⟩
    cases hframework : e.isFramework with
    | true =>
      refine .told (.of_refusals (hrefused.mono fun x hx e' he' => ?_))
        (hrefused.mono fun x hx hunfiled => ?_) fun e' he' => ?_
      · rw [(hx.2 e' he').1]
        rfl
      · obtain ⟨e', he', hfault⟩ := hunfiled.refusal
        rw [(hx.2 e' he').1, hframework] at hfault
        cases hfault
      · cases he'
        exact hframework
    | false =>
      refine .unfiled hframework rfl hmissing rfl rfl (hrefused.mono fun x hx => ?_)
      exact ⟨hx.1, fun e' he' => ⟨(hx.2 e' he').1, (hx.2 e' he').2 hframework⟩⟩
  | @unbound w₁ e hprime hbound =>
    rw [hprime] at hprimed
    obtain ⟨hfirst, hfiles⟩ := hready hprimed
    refine .told (hfirst.followed (discloses_bindServers ask w₁ _ _))
      (hfiles.trans (files_bindServers ask w₁ _ _)) fun e' he' => ?_
    exact isFramework_of_visitAll he'
  | @announced w₁ hprime hbound =>
    rw [hprime] at hprimed hstocked
    obtain ⟨hfirst, hfiles⟩ := hready hprimed
    have hserved : Discloses w₁
        (⟨.ok (), (w.boundAfter ask p w₁).outcome.world⟩ : Outcome σ Unit) :=
      (discloses_bindServers ask w₁ p.config (w.nextInvoker p)).done hbound
    have hbinding : Files w₁ (w.boundAfter ask p w₁).outcome.world := files_bindServers ask w₁ _ _
    have hlistening : Grows Event.Plain (w.boundAfter ask p w₁).outcome.world
        (listening p (w.boundAfter ask p w₁)) := (plain_report _ _ rfl).trans (.of_eq rfl)
    have hheard : Discloses (w.boundAfter ask p w₁).outcome.world
        (⟨.ok (), listening p (w.boundAfter ask p w₁)⟩ : Outcome σ Unit) := .of_plain hlistening
    have hknown : (listening p (w.boundAfter ask p w₁)).Stocked p.group p.config.announcedIn :=
      (keepsRegistries_bindServers ask w₁ p.config (w.nextInvoker p)).stocked (hstocked rfl)
    obtain ⟨hannounced, hlast⟩ := @announce_discloses σ ask _ p hknown
    refine .told ?_ ?_ fun e' he' => isFramework_of_visitAll he'
    · exact ((hfirst.followed hserved).followed hheard).followed hannounced
    · exact ((hfiles.trans hbinding).trans (Files.of_plain hlistening)).trans hlast

theorem discloses_discard (ask : Ask σ) (w : World σ) (p : Provider) (a : Attempt σ) :
    Discloses w (⟨.ok (), w.discard ask p a⟩ : Outcome σ Unit) := by
  rw [discard]
  dsimp only
  split
  · exact .of_plain (Grows.trans (.of_eq rfl) (plain_report _ _ rfl))
  · have hreleased : Discloses w (⟨.ok (),
        (((w.setListener p.config none).closeInvoker p).release p.group p.config.key).2⟩ :
          Outcome σ Unit) := .of_plain (.of_eq rfl)
    exact (hreleased.followed (discloses_retract ask _ p a.registries)).followed
      (discloses_unbindServers ask _ p.config a.servers)

theorem files_discard (ask : Ask σ) {a : Attempt σ} (hstocked : w.Stocked p.group a.registries) :
    Files w (w.discard ask p a) := by
  refine (releasing_discard ask hstocked).mono fun x hx hunfiled => ?_
  unfold Event.Unfiled at hunfiled
  split at hunfiled
  · cases hx
  · exact hunfiled

/-- An attempt in which nobody accepted anything leaves nothing to be taken back. -/
theorem plain_discard (ask : Ask σ) (w : World σ) (p : Provider) {a : Attempt σ}
    (hservers : a.servers = []) (hregistries : a.registries = []) :
    Grows Event.Plain w (w.discard ask p a) := by
  rw [discard, hservers, hregistries]
  dsimp only
  split
  · exact Grows.trans (.of_eq rfl) (plain_report _ _ rfl)
  · exact .of_eq rfl

/-- The courses of a publication, by what it tells: every refusal, or nothing but an error that
has the fault of a registry as its cause. -/
inductive PublicationDisclosure (w : World σ) (p : Provider) (o : Outcome σ Unit) : Prop
  | told (h : Discloses w o) (hfiles : Files w o.world)
  | unfiled {e : ProviderError} (hfault : e.isFramework = false)
      (herror : o.result = .error e.intoFramework)
      (hmissing : ¬w.Stocked p.group p.config.announcedIn)
      (hgrows : Grows (fun x => x.errorText? = none ∧ ∀ e', x.refusal? = some e' →
        e' = e ∧ x.Unfiled) w o.world)

theorem publishNow_disclosure (ask : Ask σ) (w : World σ) (p : Provider) :
    PublicationDisclosure w p (w.publishNow ask p) := by
  have hsilent {w w' : World σ} (h : Grows Event.Plain w w') (e : ProviderError) :
      Grows (fun x => x.errorText? = none ∧ ∀ e', x.refusal? = some e' → e' = e ∧ x.Unfiled)
        w w' := by
    refine h.mono fun x hx => ⟨hx.errorText, fun e' he' => ?_⟩
    rw [hx.refusal] at he'
    cases he'
  have hplain {w' : World σ} (h : Grows Event.Plain w w') (r : Except ProviderError Unit) :
      PublicationDisclosure w p ⟨r, w'⟩ := .told (.of_plain h) (.of_plain h)
  have hcourse := publishNow_course ask w p
  generalize w.publishNow ask p = outcome at hcourse
  cases hcourse with
  | already hpublished => exact hplain (.refl w) _
  | unfit hpublished hcheck => exact hplain (.refl w) _
  | refused hpublished hcheck hlimit => exact hplain (plain_prepared w p) _
  | @failed _ _ n counts e hlimit hattempt =>
    have hadmitted := plain_admitted w p n counts
    have hcounted : Discloses w (⟨.ok (), w.admitted p n counts⟩ : Outcome σ Unit) :=
      .of_plain hadmitted
    have hkept := stocked_accepted ask (w.admitted p n counts) p
    have hdisclosure := attempt_disclosure ask (w.admitted p n counts) p
    generalize (w.admitted p n counts).attempt ask p = a at hattempt hkept hdisclosure
    have herror : a.outcome.error? = some e := Outcome.error?_eq_some_iff.2 hattempt
    cases hdisclosure with
    | told h hfiles hframework =>
      have hend : Discloses w (⟨.error e, a.outcome.world⟩ : Outcome σ Unit) := by
        rw [← hattempt]
        exact hcounted.followed h
      rw [ProviderError.intoFramework_of_framework (hframework e herror)]
      exact .told (hend.before (discloses_discard ask _ p a))
        (((Files.of_plain hadmitted).trans hfiles).trans (files_discard ask hkept))
    | @unfiled e' hfault herror' hmissing hservers hregistries hgrows =>
      -- Nobody accepted anything, so nothing more is told when the attempt is discarded.
      obtain rfl : e = e' := Option.some.inj (herror.symm.trans herror')
      refine .unfiled hfault rfl (fun h => hmissing ?_) ?_
      · exact (keepsRegistries_admitted w p n counts).stocked h
      · exact ((hsilent hadmitted e).trans hgrows).trans
          (hsilent (plain_discard ask _ p hservers hregistries) e)
  | @done _ _ n counts hlimit hattempt =>
    have hadmitted := plain_admitted w p n counts
    have hcounted : Discloses w (⟨.ok (), w.admitted p n counts⟩ : Outcome σ Unit) :=
      .of_plain hadmitted
    have hdisclosure := attempt_disclosure ask (w.admitted p n counts) p
    generalize (w.admitted p n counts).attempt ask p = a at hattempt hdisclosure
    cases hdisclosure with
    | told h hfiles hframework =>
      have hend : Discloses w (⟨.ok (), a.outcome.world⟩ : Outcome σ Unit) :=
        hcounted.followed (h.done hattempt)
      exact .told hend ((Files.of_plain hadmitted).trans hfiles)
    | unfiled hfault herror =>
      rw [Outcome.error?_eq_some_iff, hattempt] at herror
      cases herror

theorem discloses_withdraw (ask : Ask σ) (w : World σ) (p : Provider) :
    Discloses w (⟨.ok (), w.withdraw ask p⟩ : Outcome σ Unit) := by
  cases hpublished : w.isPublished p with
  | false =>
    rw [withdraw_unpublished ask hpublished]
    exact .of_plain (.of_eq rfl)
  | true =>
    have hbegun : Discloses w (⟨.ok (), w.withdrawing p⟩ : Outcome σ Unit) :=
      .of_plain (Grows.trans (.of_eq rfl) (plain_report _ _ rfl))
    have hretracted := hbegun.followed
      (discloses_retract ask (w.withdrawing p) p p.config.announcedIn)
    have hclosed (w : World σ) : Discloses w (⟨.ok (), w.closeInvoker p⟩ : Outcome σ Unit) :=
      .of_plain (.of_eq rfl)
    have hunlinked : Discloses w (⟨.ok (), w.unlinked ask p⟩ : Outcome σ Unit) :=
      (hretracted.followed (hclosed _)).followed
        (discloses_unbindServers ask _ p.config p.config.servers)
    have hconcluded (w : World σ) : Discloses w (⟨.ok (), w.concluded p⟩ : Outcome σ Unit) :=
      .of_plain ((Grows.of_eq rfl).trans ((plain_report _ _ rfl).trans (.of_eq rfl)))
    rw [withdraw_published ask hpublished]
    exact hunlinked.followed (hconcluded _)

end Publications

section Changes

/-- No move makes a registry disappear. -/
theorem keepsRegistries_move {kind : ProviderConfig → Prop} {fleet : Fleet}
    (h : MoveOf ask kind fleet w w') : KeepsRegistries w w' := by
  cases h with
  | @publish p hp => exact keepsRegistries_publishNow ask w p
  | @withdraw p hp => exact keepsRegistries_withdraw ask w p
  | schedule hp due => exact .of_eq fun _ => rfl
  | unschedule i => exact .of_eq fun _ => rfl
  | write hwrite => exact .of_eq fun _ => rfl
  | log hn => exact .of_eq fun _ => rfl
  | build s =>
    exact build_keeps (P := KeepsRegistries w)
      (fun w' h => h.trans (keepsRegistries_perform ask w' _)) (.refl w)
  | lookUp g r => exact keepsRegistries_registryFor ask w g r

theorem keepsRegistries_moves {kind : ProviderConfig → Prop} {fleet : Fleet}
    (h : Moves ask kind fleet w w') : KeepsRegistries w w' := by
  induction h with
  | refl => exact .refl w
  | tail _ hlast ih => exact ih.trans (keepsRegistries_move hlast)

theorem discloses_updateAttribute (w : World σ) (c : ProviderConfig) (key : String)
    (value : Option String) (ignoreIfSame : Bool) :
    Discloses w (w.updateAttribute c key value ignoreIfSame) := by
  rw [updateAttribute]
  cases c.update (w.config c).attributes key value ignoreIfSame with
  | error e => exact .nothing w _
  | ok r => exact .of_plain (.of_eq rfl)

theorem discloses_updateAll (w : World σ) (c : ProviderConfig)
    (updates : List (String × Option String)) : Discloses w (updateAll c updates w) := by
  induction updates generalizing w with
  | nil => exact .nothing w _
  | cons u rest ih =>
    have hfirst := discloses_updateAttribute w c u.1 u.2 true
    rw [updateAll]
    generalize w.updateAttribute c u.1 u.2 true = outcome at hfirst ⊢
    obtain ⟨result, w₁⟩ := outcome
    cases result with
    | error e => exact hfirst.ended
    | ok touched => exact hfirst.followed (ih w₁)

theorem discloses_restore (w : World σ) (c : ProviderConfig) (old : List (String × Option String)) :
    Discloses w (⟨.ok (), restore c old w⟩ : Outcome σ Unit) := by
  induction old generalizing w with
  | nil => exact .nothing w _
  | cons u rest ih =>
    have hfirst := discloses_updateAttribute w c u.1 u.2 true
    rw [restore]
    generalize w.updateAttribute c u.1 u.2 true = outcome at hfirst ⊢
    obtain ⟨result, w₁⟩ := outcome
    cases result with
    | error e => exact (hfirst.logged rfl (.ok ())).followed (ih _)
    | ok touched => exact hfirst.followed (ih w₁)

variable (ask : Ask σ) (hstocked : w.Stocked p.group p.config.announcedIn)
include hstocked

/-- Whoever has its registries tells of every refusal. -/
theorem discloses_publish : Discloses w (w.publish ask p) := by
  rw [publish]
  dsimp only
  split
  · cases publishNow_disclosure ask w p with
    | told h hfiles => exact h
    | unfiled hfault herror hmissing => exact absurd hstocked hmissing
  · split
    · exact .nothing w _
    · exact .of_plain (Grows.trans (.of_eq rfl) (plain_report _ _ rfl))

theorem discloses_republish (updates : List (String × Option String)) :
    Discloses w (w.republish ask p updates) := by
  have hwritten := (discloses_withdraw ask w p).followed
    (discloses_updateAll (w.withdraw ask p) p.config updates)
  have hmoves : Moves ask (fun _ => True) (.solo p) w
      (updateAll p.config updates (w.withdraw ask p)).world :=
    .head (.withdraw (Fleet.mem_solo p)) (moves_updateAll trivial updates)
  have hstill := (keepsRegistries_moves hmoves).stocked hstocked
  rw [republish]
  generalize updateAll p.config updates (w.withdraw ask p) = outcome at hwritten hstill ⊢
  obtain ⟨result, w₁⟩ := outcome
  cases result with
  | error e => exact hwritten.ended
  | ok u => exact hwritten.followed (discloses_publish ask hstill)

theorem discloses_rollBack (old : List (String × Option String)) :
    Discloses w (w.rollBack ask p old) := by
  have hmoves : Moves ask (fun _ => True) .nobody w (restore p.config old w) :=
    moves_restore trivial old
  have hstill := (keepsRegistries_moves hmoves).stocked hstocked
  have hpublished := (discloses_restore w p.config old).followed (discloses_publish ask hstill)
  rw [rollBack]
  generalize (restore p.config old w).publish ask p = outcome at hpublished ⊢
  obtain ⟨result, w₁⟩ := outcome
  cases result with
  | error e => exact hpublished.logged rfl (.error e)
  | ok u => exact hpublished

theorem discloses_reconfigure (updates : List (String × Option String)) :
    Discloses w (w.reconfigure ask p updates) := by
  rw [reconfigure]
  split
  · next e he => exact (Discloses.nothing (α := Unit) w (.error e)).logged rfl _
  · exact .nothing w _
  · have hbegun : Discloses w (⟨.ok (), w.report p.config .republishing⟩ : Outcome σ Unit) :=
      .of_plain (plain_report _ _ rfl)
    have hagain := hbegun.followed
      (discloses_republish ask (w := w.report p.config .republishing) hstocked updates)
    have hmoves : Moves ask (fun _ => True) (.solo p) w
        ((w.report p.config .republishing).republish ask p updates).world :=
      .head (.log rfl) (moves_republish (Fleet.mem_solo p) trivial updates)
    have hstill := (keepsRegistries_moves hmoves).stocked hstocked
    generalize (w.report p.config .republishing).republish ask p updates = outcome
      at hagain hstill ⊢
    obtain ⟨result, w₁⟩ := outcome
    cases result with
    | ok u => exact hagain
    | error e =>
      exact (hagain.logged rfl (.ok ())).followed
        (discloses_rollBack ask (w := w₁.report p.config (.updateFailed e)) hstill _)

omit hstocked in
theorem discloses_notify {c : ProviderConfig}
    (hstocked : ∀ q, w.listenerAt c.serial = some (.republish q) →
      w.Stocked q.group q.config.announcedIn) (change : Change) :
    Discloses w (w.notify ask c change) := by
  unfold notify
  rw [listener_config]
  cases hlistener : w.listenerAt c.serial with
  | none => exact .nothing w _
  | some l =>
    cases l with
    | republish q =>
      cases change with
      | replaced values => exact .nothing w _
      | updated values =>
        dsimp only
        split
        · exact discloses_reconfigure ask (hstocked q hlistener) values.toList
        · exact .nothing w _
    | recorder answer =>
      have hheard (r : Except ProviderError Unit) : Discloses w (⟨r, w.record (.heard change)⟩ :
          Outcome σ Unit) :=
        .of_refusals ((Grows.refl w).record fun e he => by cases he)
      cases change with
      | replaced values => exact hheard _
      | updated values => cases answer <;> exact hheard _

omit hstocked in
theorem discloses_shutDown (w : World σ) (g : Nat) :
    Discloses w (⟨.ok (), (w.shutDown ask g).2⟩ : Outcome σ Unit) := by
  have hwithdrawals (ps : List Provider) : Discloses w
      (⟨.ok (), ps.foldl (fun w p => w.withdraw ask p) w⟩ : Outcome σ Unit) := by
    induction ps generalizing w with
    | nil => exact .nothing w _
    | cons p ps ih => exact (discloses_withdraw ask w p).followed (ih _)
  exact (hwithdrawals (w.publishedIn g)).followed (.of_plain ((Grows.refl _).record rfl))

end Changes

end World

end ServicePublisher
