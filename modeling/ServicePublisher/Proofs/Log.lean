import ServicePublisher.Proofs.Calls
import ServicePublisher.Proofs.Courses

/-! What each part of a publication or withdrawal adds to the observations. An attempt to publish a
provider adds calls that write entries for it and the line that divides its calls; everything else
adds nothing of the kind. -/
namespace ServicePublisher

/-- Neither a call that writes an entry nor the line that divides a publication. -/
def Event.Quiet : Event → Prop
  | .notice n => n.boundKey? = none
  | .call (.server _ (.register ..)) _ | .call (.registry _ _ (.register _)) _ => False
  | _ => True

/-- What may be observed while a provider is published with an invoker. -/
def Event.OfAttempt (p : Provider) (v : Invoker) : Event → Prop
  | .notice n => n.boundKey? = none ∨ n.boundKey? = some p.config.key
  | .call (.server _ (.register view v')) _ => view.config = p.config ∧ v' = v
  | .call (.registry _ _ (.register view)) _ => view.config = p.config
  | _ => True

theorem Event.Quiet.ofAttempt {e : Event} (h : e.Quiet) (p : Provider) (v : Invoker) :
    e.OfAttempt p v := by
  cases e with
  | notice n => exact .inl h
  | heard change => trivial
  | call c answer =>
    cases c with
    | server s request => cases request <;> trivial
    | registry g r request => cases request <;> trivial

namespace World

variable {σ : Type}

/-- Between two states only events of a kind have been observed. -/
def Grows (fits : Event → Prop) (w w' : World σ) : Prop :=
  ∃ es, w'.events = w.events ++ es ∧ ∀ e ∈ es, fits e

namespace Grows

variable {fits fits' : Event → Prop} {w w' w'' : World σ}

theorem of_eq (h : w'.events = w.events) : Grows fits w w' :=
  ⟨[], by rw [h, List.append_nil], fun _ he => nomatch he⟩

theorem refl (w : World σ) : Grows fits w w := of_eq rfl

theorem trans (h : Grows fits w w') (h' : Grows fits w' w'') : Grows fits w w'' := by
  obtain ⟨es, hes, hfits⟩ := h
  obtain ⟨es', hes', hfits'⟩ := h'
  refine ⟨es ++ es', by rw [hes', hes, List.append_assoc], fun e he => ?_⟩
  obtain he | he := List.mem_append.1 he
  · exact hfits e he
  · exact hfits' e he

theorem mono (h : Grows fits w w') (hfits : ∀ e, fits e → fits' e) : Grows fits' w w' := by
  obtain ⟨es, hes, he⟩ := h
  exact ⟨es, hes, fun e hmem => hfits e (he e hmem)⟩

theorem record (h : Grows fits w w') {e : Event} (he : fits e) : Grows fits w (w'.record e) := by
  refine h.trans ⟨[e], rfl, fun e' he' => ?_⟩
  rw [List.mem_singleton.1 he']
  exact he

end Grows

theorem events_accept (w : World σ) (c : Call) : (w.accept c).events = w.events := by
  cases c with
  | server s request => cases request <;> rfl
  | registry g r request => cases request <;> rfl

theorem outside_accept (w : World σ) (c : Call) : (w.accept c).outside = w.outside := by
  cases c with
  | server s request => cases request <;> rfl
  | registry g r request => cases request <;> rfl

theorem outside_admitted (w : World σ) (p : Provider) (n : Nat) (counts : ExportCounts) :
    (w.admitted p n counts).outside = w.outside := by
  rw [admitted, prepared, decideMethods_eq]
  split <;> rfl

theorem events_perform (ask : Ask σ) (w : World σ) (c : Call) :
    (∃ answer, (w.perform ask c).world.events = w.events ++ [.call c answer]) ∧
      ((w.perform ask c).result = .ok () →
        (w.perform ask c).world.events = w.events ++ [.call c none]) ∧
      ∀ e, (w.perform ask c).result = .error e →
        (w.perform ask c).world.events = w.events ++ [.call c (some e)] := by
  rw [perform]
  generalize ask c w.outside = reply
  obtain ⟨answer, outside⟩ := reply
  cases answer with
  | none =>
    have hevents : ((({ w with outside }).record (.call c none)).accept c).events =
        w.events ++ [.call c none] := events_accept _ c
    refine ⟨⟨none, hevents⟩, fun _ => hevents, fun e he => ?_⟩
    cases he
  | some e =>
    refine ⟨⟨some e, rfl⟩, fun hok => ?_, fun e' he => ?_⟩
    · cases hok
    · cases he
      rfl

theorem grows_perform {fits : Event → Prop} (ask : Ask σ) (w : World σ) {c : Call}
    (hfits : ∀ answer, fits (.call c answer)) : Grows fits w (w.perform ask c).world := by
  obtain ⟨⟨answer, hevents⟩, -, -⟩ := events_perform ask w c
  refine ⟨[.call c answer], hevents, fun e he => ?_⟩
  rw [List.mem_singleton.1 he]
  exact hfits answer

section Quiet

variable (ask : Ask σ) (w : World σ)

theorem quiet_report (c : ProviderConfig) {n : ProviderNotice}
    (hn : (Notice.ofProvider c.appName c.key n).boundKey? = none) :
    Grows Event.Quiet w (w.report c n) :=
  (Grows.refl w).record hn

theorem quiet_build (s : ServerConfig) : Grows Event.Quiet w (w.build ask s).world :=
  build_keeps (fun w' h => h.trans (grows_perform ask w' fun _ => trivial)) (.refl w)

theorem quiet_registryFor (g : Nat) (r : RegistryConfig) :
    Grows Event.Quiet w (registryFor ask g r w).world :=
  registryFor_keeps (fun w' h => h.trans (grows_perform ask w' fun _ => trivial))
    (fun _ _ hn h => h.record hn) (.refl w)

theorem quiet_prime (g : Nat) (registries : List RegistryConfig) :
    Grows Event.Quiet w (prime ask g registries w).world :=
  prime_keeps (fun w' _ _ h => h.trans (grows_perform ask w' fun _ => trivial))
    (fun _ _ hn h => h.record hn) (.refl w)

theorem quiet_prepared (p : Provider) : Grows Event.Quiet w (w.prepared p) := by
  refine Grows.record ⟨methodNotices p.config, events_decideMethods w p, fun e he => ?_⟩ rfl
  obtain ⟨n, -, rfl⟩ := List.mem_map.1 he
  exact rfl

theorem quiet_admitted (p : Provider) (n : Nat) (counts : ExportCounts) :
    Grows Event.Quiet w (w.admitted p n counts) := by
  have hcounted : Grows Event.Quiet w
      ((w.prepared p).modifyServices p.group fun t => { t with counts }) :=
    (quiet_prepared w p).trans (.of_eq rfl)
  rw [admitted]
  split
  · exact hcounted.record rfl
  · exact hcounted

theorem quiet_of_releasingCall {w : World σ} {p : Provider} {c : Call} (h : ReleasingCall p w c)
    (answer : Option ProviderError) : Event.Quiet (.call c answer) := by
  cases c with
  | server s request => obtain rfl := h; trivial
  | registry g r request => obtain ⟨-, rfl | rfl⟩ := h <;> trivial

theorem quiet_discard (p : Provider) (a : Attempt σ) :
    Grows Event.Quiet w (w.discard ask p a) :=
  discard_keeps (fun w' _ hc h => h.trans (grows_perform ask w' (quiet_of_releasingCall hc)))
    (fun _ _ hn h => h.record hn) (.of_eq rfl)

theorem quiet_withdraw (p : Provider) : Grows Event.Quiet w (w.withdraw ask p) :=
  withdraw_keeps (fun w' _ hc h => h.trans (grows_perform ask w' (quiet_of_releasingCall hc)))
    (fun _ _ hn h => h.record hn) (.of_eq rfl) (fun _ h => h.trans (.of_eq rfl))
    fun _ h => (h.trans (.of_eq rfl)).record rfl

end Quiet

section Attempt

theorem ofAttempt_of_attemptingCall {w : World σ} {p : Provider} {v : Invoker} {c : Call}
    (h : AttemptingCall p v w c) (answer : Option ProviderError) :
    Event.OfAttempt p v (.call c answer) := by
  cases c with
  | server s request =>
    obtain ⟨-, rfl | rfl | rfl⟩ := h
    · trivial
    · exact ⟨rfl, rfl⟩
    · trivial
  | registry g r request =>
    obtain ⟨-, rfl | rfl | rfl | rfl⟩ := h
    · trivial
    · trivial
    · trivial
    · exact rfl

theorem grows_attempt (ask : Ask σ) (w : World σ) (p : Provider) :
    Grows (Event.OfAttempt p (w.nextInvoker p)) w (w.attempt ask p).outcome.world := by
  have hlistening (w' : World σ) (n : Nat) : Grows (Event.OfAttempt p (w.nextInvoker p)) w'
      ((w'.report p.config (.processorBound n)).setListener p.config (some (.republish p))) :=
    ((Grows.refl w').record (.inr rfl)).trans (.of_eq rfl)
  exact attempt_keeps (.of_eq rfl)
    (fun w' _ hc h => h.trans (grows_perform ask w' (ofAttempt_of_attemptingCall hc)))
    (fun w' n h => h.trans (hlistening w' n)) fun _ _ hn h => h.record (.inl hn)

end Attempt

end World

end ServicePublisher
