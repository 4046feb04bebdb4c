import ServicePublisher.Proofs.Log
import ServicePublisher.Proofs.Books

/-! What collaborators are shown of a configuration. No part of a publication or withdrawal touches
the attributes, so all its calls show the attributes with which it began. -/
namespace ServicePublisher

/-- Whether an event, if it is a call that shows a configuration, shows it in the given way. -/
def Event.Shows (view : ConfigView) : Event → Prop
  | .call c _ => ∀ v, c.view? = some v → v = view
  | _ => True

namespace World

variable {σ : Type}

/-- Between two states the attributes of a configuration have stayed, and every call has shown the
configuration with them. -/
structure Steady (c : ProviderConfig) (w w' : World σ) : Prop where
  view : w'.view c = w.view c
  shows : Grows (Event.Shows (w.view c)) w w'

namespace Steady

variable {c : ProviderConfig} {w w' w'' : World σ}

theorem of_eq (hview : w'.view c = w.view c) (hevents : w'.events = w.events) : Steady c w w' :=
  ⟨hview, .of_eq hevents⟩

theorem refl (w : World σ) : Steady c w w := of_eq rfl rfl

theorem trans (h : Steady c w w') (h' : Steady c w' w'') : Steady c w w'' where
  view := h'.view.trans h.view
  shows := by
    have hshows := h'.shows
    rw [h.view] at hshows
    exact h.shows.trans hshows

theorem log (h : Steady c w w') (n : Notice) : Steady c w (w'.log n) where
  view := h.view
  shows := h.shows.record trivial

theorem perform (h : Steady c w w') (ask : Ask σ) {call : Call}
    (hcall : ∀ v, call.view? = some v → v = w'.view c) :
    Steady c w (w'.perform ask call).world := by
  refine h.trans ⟨(sameBooks_perform ask w' call).view c, ?_⟩
  exact grows_perform ask w' fun _ => hcall

end Steady

section Courses

variable (ask : Ask σ) (w : World σ) (p : Provider)

theorem steady_setListener (c : ProviderConfig) (l : Option Listener) :
    Steady c w (w.setListener c l) := by
  refine .of_eq ?_ rfl
  rw [view, setListener, config_modifyConfig, if_pos rfl, view]

theorem steady_prepared : Steady p.config w (w.prepared p) where
  view := by
    rw [prepared, report_eq_record, view, config_record, config_decideMethods, if_pos rfl, view]
  shows := by
    refine Grows.record ⟨methodNotices p.config, events_decideMethods w p, fun e he => ?_⟩ trivial
    obtain ⟨n, -, rfl⟩ := List.mem_map.1 he
    trivial

theorem steady_admitted (n : Nat) (counts : ExportCounts) :
    Steady p.config w (w.admitted p n counts) := by
  have hcounted : Steady p.config w
      ((w.prepared p).modifyServices p.group fun t => { t with counts }) :=
    (steady_prepared w p).trans (.of_eq rfl rfl)
  rw [admitted]
  split
  · exact hcounted.log _
  · exact hcounted

/-- Whatever a collaborator is shown in an attempt is what is there. -/
theorem view_of_attemptingCall {w : World σ} {p : Provider} {v : Invoker} {c : Call}
    (h : AttemptingCall p v w c) : ∀ view, c.view? = some view → view = w.view p.config := by
  intro view hview
  cases c with
  | server s request => obtain ⟨-, rfl | rfl | rfl⟩ := h <;> cases hview; rfl
  | registry g r request => obtain ⟨-, rfl | rfl | rfl | rfl⟩ := h <;> cases hview; rfl

theorem view_of_releasingCall {w : World σ} {p : Provider} {c : Call} (h : ReleasingCall p w c) :
    ∀ view, c.view? = some view → view = w.view p.config := by
  intro view hview
  cases c with
  | server s request => obtain rfl := h; cases hview; rfl
  | registry g r request => obtain ⟨-, rfl | rfl⟩ := h <;> cases hview; rfl

theorem steady_attempt : Steady p.config w (w.attempt ask p).outcome.world :=
  attempt_keeps (.of_eq rfl rfl) (fun _ _ hc h => h.perform ask (view_of_attemptingCall hc))
    (fun _ _ h => (h.log _).trans (steady_setListener _ p.config _)) fun _ n _ h => h.log n

theorem steady_discard (a : Attempt σ) : Steady p.config w (w.discard ask p a) :=
  discard_keeps (fun _ _ hc h => h.perform ask (view_of_releasingCall hc)) (fun _ n _ h => h.log n)
    ((steady_setListener w p.config none).trans (.of_eq rfl rfl))

/-- However a publication ends, it shows the attributes with which it began. -/
theorem steady_publishNow : Steady p.config w (w.publishNow ask p).world := by
  have hattempt (n : Nat) (counts : ExportCounts) :=
    (steady_admitted w p n counts).trans (steady_attempt ask (w.admitted p n counts) p)
  have hcourse := publishNow_course ask w p
  generalize w.publishNow ask p = outcome at hcourse
  cases hcourse with
  | already hpublished => exact .refl w
  | unfit hpublished hcheck => exact .refl w
  | refused hpublished hcheck hlimit => exact steady_prepared w p
  | failed hpublished hcheck hlimit hattempted =>
    exact (hattempt _ _).trans (steady_discard ask _ p _)
  | done hpublished hcheck hlimit hattempted => exact (hattempt _ _).trans (.of_eq rfl rfl)

/-- So does a withdrawal. -/
theorem steady_withdraw : Steady p.config w (w.withdraw ask p) := by
  have hconcluded (w : World σ) : Steady p.config w (w.concluded p) := by
    have hreleased : Steady p.config w
        ((w.setListener p.config none).release p.group p.config.key).2 :=
      (steady_setListener w p.config none).trans (.of_eq rfl rfl)
    exact (hreleased.log _).trans (.of_eq rfl rfl)
  exact withdraw_keeps (fun _ _ hc h => h.perform ask (view_of_releasingCall hc))
    (fun _ n _ h => h.log n) (.of_eq rfl rfl) (fun _ h => h.trans (.of_eq rfl rfl))
    fun _ h => h.trans (hconcluded _)

end Courses

end World

end ServicePublisher
