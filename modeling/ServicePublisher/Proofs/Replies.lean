import ServicePublisher.Proofs.Coverage
import ServicePublisher.Proofs.Tours

/-! Collaborators that answer for themselves. Each has a state of its own, which only the calls that
it receives can change, so what it answers is decided by what it is asked. -/
namespace ServicePublisher

open World

variable {σ τ α : Type} {w w' w'' : World (Place → τ)} {made later : List Exchange}

deriving instance DecidableEq for Place

/-- The server or registry that a call addresses, be it that its factory is asked to create it. -/
def Call.receiver : Call → Place
  | .server s _ => .server s.serial
  | .registry g r _ => .registry g r.identity

def heardBy (x : Place) (made : List Exchange) : List Exchange :=
  made.filter fun y => y.1.receiver = x

@[simp] theorem heardBy_append (x : Place) (made later : List Exchange) :
    heardBy x (made ++ later) = heardBy x made ++ heardBy x later :=
  List.filter_append ..

theorem heardBy_eq_self {x : Place} (h : ∀ y ∈ made, y.1.receiver = x) : heardBy x made = made :=
  List.filter_eq_self.2 fun y hy => by simpa using h y hy

theorem heardBy_eq_nil {x : Place} (h : ∀ y ∈ made, y.1.receiver ≠ x) : heardBy x made = [] :=
  List.filter_eq_nil_iff.2 fun y hy => by simpa using h y hy

/-- How collaborators answer calls, each with a state of its own. -/
abbrev AnswerPattern (τ : Type) := Call → τ → Option ProviderError × τ

namespace AnswerPattern

/-- A collaborator answers a call from its own state, and no other state changes. -/
def ask (a : AnswerPattern τ) : Ask (Place → τ) := fun c states =>
  ((a c (states c.receiver)).1, Function.update states c.receiver (a c (states c.receiver)).2)

/-- Registries can be created, and nobody answers a framework error. -/
structure Mild (a : AnswerPattern τ) : Prop where
  created : ∀ g r s, (a (.registry g r .create) s).1 = none
  faults : ∀ c s e, (a c s).1 = some e → e.isFramework = false

/-- Two patterns differ at most in the answers of one collaborator. -/
def AgreesBut (a b : AnswerPattern τ) (odd : Place) : Prop := ∀ c, c.receiver ≠ odd → a c = b c

/-- The answers of one collaborator to calls one after another. -/
inductive Replies (a : AnswerPattern τ) : τ → List Exchange → τ → Prop
  | nil (s : τ) : Replies a s [] s
  | cons {c : Call} {s s' t : τ} {answer : Option ProviderError} {made : List Exchange}
      (hc : a c s = (answer, s')) (h : Replies a s' made t) : Replies a s ((c, answer) :: made) t

namespace Replies

variable {a b : AnswerPattern τ} {s t u : τ}

theorem append (h : a.Replies s made t) (h' : a.Replies t later u) :
    a.Replies s (made ++ later) u := by
  induction h with
  | nil s => exact h'
  | cons hc h ih => exact .cons hc (ih h')

theorem congr (h : a.Replies s made t) (hagree : ∀ x ∈ made, a x.1 = b x.1) :
    b.Replies s made t := by
  induction h with
  | nil s => exact .nil s
  | @cons c s s' t answer made hc h ih =>
    have hsame : a c = b c := hagree (c, answer) List.mem_cons_self
    exact .cons (hsame ▸ hc) (ih fun x hx => hagree x (List.mem_cons_of_mem _ hx))

/-- Every answer is the answer in some state. -/
theorem answer (h : a.Replies s made t) {x : Exchange} (hx : x ∈ made) :
    ∃ u, x.2 = (a x.1 u).1 := by
  induction h with
  | nil s => cases hx
  | @cons c s s' t answer made hc h ih =>
    obtain rfl | hx := List.mem_cons.1 hx
    · exact ⟨s, by rw [hc]⟩
    · exact ih hx

end Replies

end AnswerPattern

/-- Who is asked the same in turn replies the same. -/
theorem InTurn.unique {a : AnswerPattern τ} {calls : List Call} {s t t' : τ} (h : InTurn calls made)
    (hr : a.Replies s made t) (h' : InTurn calls later) (hr' : a.Replies s later t') :
    made = later := by
  induction h generalizing s later with
  | done =>
    cases h'
    rfl
  | refused c calls e =>
    obtain - | ⟨hc, -⟩ := hr
    cases h' with
    | refused c calls e' =>
      obtain - | ⟨hc', -⟩ := hr'
      rw [hc] at hc'
      cases hc'
      rfl
    | accepted c h' =>
      obtain - | ⟨hc', -⟩ := hr'
      rw [hc] at hc'
      cases hc'
  | accepted c h ih =>
    obtain - | ⟨hc, hr⟩ := hr
    cases h' with
    | refused c calls e' =>
      obtain - | ⟨hc', -⟩ := hr'
      rw [hc] at hc'
      cases hc'
    | accepted c h' =>
      obtain - | ⟨hc', hr'⟩ := hr'
      rw [hc] at hc'
      cases hc'
      rw [ih hr h' hr']

namespace World

variable {a : AnswerPattern τ}

/-- Between two states every collaborator was asked and answered for itself. -/
def Answered (a : AnswerPattern τ) (w w' : World (Place → τ)) : Prop :=
  ∃ made, Makes w w' made ∧ ∀ x, a.Replies (w.outside x) (heardBy x made) (w'.outside x)

namespace Answered

theorem of_eq (hmade : w'.exchanges = w.exchanges) (houtside : w'.outside = w.outside) :
    Answered a w w' :=
  ⟨[], .of_eq hmade, fun x => by rw [houtside]; exact .nil _⟩

theorem refl (w : World (Place → τ)) : Answered a w w := of_eq rfl rfl

theorem trans (h : Answered a w w') (h' : Answered a w' w'') : Answered a w w'' := by
  obtain ⟨made, hmade, hr⟩ := h
  obtain ⟨later, hlater, hr'⟩ := h'
  refine ⟨made ++ later, hmade.trans hlater, fun x => ?_⟩
  rw [heardBy_append]
  exact (hr x).append (hr' x)

theorem log (h : Answered a w w') (n : Notice) : Answered a w (w'.log n) :=
  h.trans (.of_eq (exchanges_log w' n) rfl)

theorem replies (h : Answered a w w') (hmade : Makes w w' made) (x : Place) :
    a.Replies (w.outside x) (heardBy x made) (w'.outside x) := by
  obtain ⟨made', hmade', hr⟩ := h
  rw [Makes] at hmade hmade'
  rw [hmade] at hmade'
  rw [List.append_cancel_left hmade']
  exact hr x

end Answered

theorem answered_perform (a : AnswerPattern τ) (w : World (Place → τ)) (c : Call) :
    Answered a w (w.perform a.ask c).world := by
  have hasked : Answered a w (w.asked a.ask c) := by
    refine ⟨_, exchanges_asked a.ask w c, fun x => ?_⟩
    by_cases hx : c.receiver = x
    · subst hx
      rw [heardBy_eq_self (by simp)]
      have hreply : a c (w.outside c.receiver) =
          ((a c (w.outside c.receiver)).1, (a c (w.outside c.receiver)).2) := rfl
      refine .cons hreply ?_
      have hafter : (w.asked a.ask c).outside c.receiver = (a c (w.outside c.receiver)).2 :=
        Function.update_self ..
      rw [hafter]
      exact .nil _
    · have hafter : (w.asked a.ask c).outside x = w.outside x :=
        Function.update_of_ne (Ne.symm hx) ..
      rw [heardBy_eq_nil (by simpa using hx), hafter]
      exact .nil _
  have hcourse := perform_course a.ask w c
  generalize w.perform a.ask c = outcome at hcourse
  cases hcourse with
  | refused hanswer => exact hasked
  | accepted hanswer =>
    exact hasked.trans (.of_eq (exchanges_accept _ c) (outside_accept _ c))

section Parts

variable (a w)

theorem answered_prime (g : Nat) (registries : List RegistryConfig) :
    Answered a w (prime a.ask g registries w).world :=
  prime_keeps (P := Answered a w) (fun w' _ _ h => h.trans (answered_perform a w' _))
    (fun _ _ _ h => h.log _) (.refl w)

theorem answered_bindServers (c : ProviderConfig) (v : Invoker) :
    Answered a w (w.bindServers a.ask c v).outcome.world :=
  bindServers_keeps (P := Answered a w) (fun w' _ _ _ _ h => h.trans (answered_perform a w' _))
    (fun _ _ _ h => h.log _) (.refl w)

theorem answered_announce (p : Provider) :
    Answered a w (w.announce a.ask p).outcome.world :=
  announce_keeps (P := Answered a w) (fun w' _ _ _ h => h.trans (answered_perform a w' _))
    (fun _ _ _ h => h.log _) (.refl w)

end Parts

end World

namespace AnswerPattern.Mild

variable {a : AnswerPattern τ}

/-- Where only faults occur, there is no framework error. -/
theorem firstFrameworkError (h : a.Mild) (hanswered : Answered a w w') (hmade : Makes w w' made) :
    firstFrameworkError made = none := by
  refine List.findSome?_eq_none_iff.2 fun x hx => ?_
  have hheard : x ∈ heardBy x.1.receiver made := by simp [heardBy, hx]
  obtain ⟨s, hs⟩ := (hanswered.replies hmade x.1.receiver).answer hheard
  rw [Option.filter_eq_none_iff]
  intro e he
  rw [h.faults x.1 s e (hs ▸ he)]
  simp

/-- No creation of a registry is refused. -/
theorem firstRefusal (h : a.Mild) (hanswered : Answered a w w') (hmade : Makes w w' made)
    (hcreations : ∀ x ∈ made, ∃ g r, x.1 = .registry g r .create) : firstRefusal made = none := by
  refine List.findSome?_eq_none_iff.2 fun x hx => ?_
  obtain ⟨g, r, hc⟩ := hcreations x hx
  have hheard : x ∈ heardBy x.1.receiver made := by simp [heardBy, hx]
  obtain ⟨s, hs⟩ := (hanswered.replies hmade x.1.receiver).answer hheard
  rw [hs, hc]
  exact h.created g r s

end AnswerPattern.Mild

end ServicePublisher
