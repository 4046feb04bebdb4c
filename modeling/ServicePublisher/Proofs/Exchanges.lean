import ServicePublisher.Proofs.Log
import ServicePublisher.Proofs.Bindings

/-! The calls of a run with their answers, in the order in which they were made. -/
namespace ServicePublisher

/-- A call and what the collaborator answered: nothing when it accepted, else an error. -/
abbrev Exchange := Call × Option ProviderError

def Event.exchange? : Event → Option Exchange
  | .call c answer => some (c, answer)
  | _ => none

namespace World

variable {σ : Type}

def exchanges (w : World σ) : List Exchange := w.events.filterMap Event.exchange?

@[simp] theorem exchanges_notice (w : World σ) (m : Notice) :
    (w.record (.notice m)).exchanges = w.exchanges := by
  simp [exchanges, record, Event.exchange?]

theorem exchanges_log (w : World σ) (m : Notice) : (w.log m).exchanges = w.exchanges :=
  exchanges_notice w m

theorem exchanges_accept (w : World σ) (c : Call) : (w.accept c).exchanges = w.exchanges := by
  rw [exchanges, events_accept, exchanges]

theorem exchanges_asked (ask : Ask σ) (w : World σ) (c : Call) :
    (w.asked ask c).exchanges = w.exchanges ++ [(c, (ask c w.outside).1)] := by
  simp [exchanges, asked, record, Event.exchange?]

theorem exchanges_methodNotices (w : World σ) (c : ProviderConfig) :
    ({ w with events := w.events ++ methodNotices c }).exchanges = w.exchanges := by
  simp [exchanges, methodNotices, Event.exchange?, Function.comp_def]

theorem exchanges_prepared (w : World σ) (p : Provider) :
    (w.prepared p).exchanges = w.exchanges := by
  rw [prepared, decideMethods_eq]
  exact (exchanges_log _ _).trans (exchanges_methodNotices w p.config)

theorem exchanges_admitted (w : World σ) (p : Provider) (n : Nat) (counts : ExportCounts) :
    (w.admitted p n counts).exchanges = w.exchanges := by
  have hcounted : ((w.prepared p).modifyServices p.group fun t => { t with counts }).exchanges =
      w.exchanges := exchanges_prepared w p
  rw [admitted]
  split
  · exact (exchanges_log _ _).trans hcounted
  · exact hcounted

end World

end ServicePublisher
