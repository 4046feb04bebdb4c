import Mathlib.Data.List.Infix
import ServicePublisher.Error

/-! What an error tells beyond its own line. The causes beneath it are met by going from each to the
one directly beneath it. A fault names its context before the text of its cause, so that faults
within faults name all their contexts; and the framework error that stands for a fault has this
fault as its cause, with everything beneath it. -/
namespace ServicePublisher

section Descent

def ProviderError.cause? : ProviderError → Option ErrorCause
  | .runtime _ cause => cause
  | .collaborator _ cause => some cause
  | _ => none

def ErrorCause.cause? : ErrorCause → Option ErrorCause
  | .text _ => none
  | .error e => e.cause?

def ErrorCause.causes : ErrorCause → List String
  | .text _ => []
  | .error e => e.causes

/-- Going down from a cause to the one beneath it, until there is none, one reads these texts. -/
inductive Descends : Option ErrorCause → List String → Prop
  | ended : Descends none []
  | deeper {cause : ErrorCause} {texts : List String} (h : Descends cause.cause? texts) :
      Descends (some cause) (cause.message :: texts)

variable {cause? : Option ErrorCause} {e : ProviderError} {texts texts' : List String}

theorem ErrorCause.chain_eq (cause : ErrorCause) : cause.chain = cause.message :: cause.causes := by
  cases cause <;> rfl

theorem Descends.unique (h : Descends cause? texts) (h' : Descends cause? texts') :
    texts = texts' := by
  induction h generalizing texts' with
  | ended =>
    cases h'
    rfl
  | deeper h ih =>
    cases h' with
    | deeper h' => rw [ih h']

-- An error may hold a cause and a cause may be an error, so both are descended at once.
mutual

theorem ProviderError.descends : (e : ProviderError) → Descends e.cause? e.causes
  | .configuration .. => .ended
  | .duplicate .. => .ended
  | .runtime _ none => .ended
  | .runtime _ (some cause) => cause.descends
  | .collaborator _ cause => cause.descends

theorem ErrorCause.descends : (cause : ErrorCause) → Descends (some cause) cause.chain
  | .text _ => .deeper .ended
  | .error e => .deeper e.descends

end

/-- The causes of an error are those met on the way down, and no others. -/
theorem ProviderError.descends_iff : Descends e.cause? texts ↔ texts = e.causes := by
  constructor
  · exact fun h => h.unique e.descends
  · rintro rfl
    exact e.descends

end Descent

namespace ErrorCause

/-- A cause within faults: one in each of the contexts, the outermost first. -/
def within (cause : ErrorCause) (contexts : List String) : ErrorCause :=
  contexts.foldr (fun context cause => .error (.collaborator context cause)) cause

/-- A cause that is no fault, within which there could be another. -/
inductive IsInnermost : ErrorCause → Prop
  | text (message : String) : IsInnermost (.text message)
  | framework {e : ProviderError} (h : e.isFramework = true) : IsInnermost (.error e)

theorem message_within (cause : ErrorCause) (contexts : List String) :
    (cause.within contexts).message = ": ".intercalate (contexts ++ [cause.message]) := by
  induction contexts with
  | nil => rw [List.nil_append, String.intercalate_singleton]; rfl
  | cons context contexts ih =>
    have hrest : contexts ++ [cause.message] ≠ [] := by simp
    rw [List.cons_append, String.intercalate_cons_of_ne_nil hrest, ← ih]
    rfl

/-- Each text of the descent is without the context that the one before it begins with. -/
theorem chain_within (cause : ErrorCause) (contexts : List String) :
    (cause.within contexts).chain =
      contexts.tails.map (fun rest => ": ".intercalate (rest ++ [cause.message])) ++
        cause.causes := by
  induction contexts with
  | nil =>
    rw [List.tails, List.map_singleton, List.nil_append, String.intercalate_singleton]
    exact cause.chain_eq
  | cons context contexts ih =>
    rw [List.tails_cons, List.map_cons, List.cons_append, ← ih, ← message_within, chain_eq]
    rfl

-- Again at once: only a fault has a cause to go on with.
mutual

theorem exists_within_error : (e : ProviderError) →
    ∃ contexts innermost, IsInnermost innermost ∧ error e = innermost.within contexts
  | .configuration .. => ⟨[], _, .framework rfl, rfl⟩
  | .duplicate .. => ⟨[], _, .framework rfl, rfl⟩
  | .runtime .. => ⟨[], _, .framework rfl, rfl⟩
  | .collaborator context cause => by
    obtain ⟨contexts, innermost, h, hcause⟩ := exists_within cause
    refine ⟨context :: contexts, innermost, h, ?_⟩
    rw [hcause]
    rfl

theorem exists_within : (cause : ErrorCause) →
    ∃ contexts innermost, IsInnermost innermost ∧ cause = innermost.within contexts
  | .text message => ⟨[], _, .text message, rfl⟩
  | .error e => exists_within_error e

end

end ErrorCause

open ErrorCause

/-- Wrapping loses nothing that an error tells. The result is a framework error, a framework error
is left as it is, and so is what is wrapped already. The causes of an error are those met on the way
down from it. A fault becomes a runtime error with a message of its own, beneath which stand the
text of the fault and its causes. This text is the context and the text of the cause, hence all the
contexts of faults within faults and then the text of what is innermost; and the causes of the
runtime error begin with such texts, each of them a context shorter than the one before. -/
theorem wrapping_keeps_story (e : ProviderError) :
    e.intoFramework.isFramework = true ∧
    e.intoFramework.intoFramework = e.intoFramework ∧
    (e.intoFramework = e ↔ e.isFramework = true) ∧
    (∀ texts, Descends e.cause? texts ↔ texts = e.causes) ∧
    ∀ (context : String) (cause : ErrorCause), e = .collaborator context cause →
      e.intoFramework = .runtime "Build provider proxy error!" (some (.error e)) ∧
      e.intoFramework.message = "Build provider proxy error!" ∧
      e.intoFramework.causes = e.message :: e.causes ∧
      e.message = context ++ ": " ++ cause.message ∧
      (∃ contexts innermost, IsInnermost innermost ∧ cause = innermost.within contexts) ∧
      ∀ (contexts : List String) (innermost : ErrorCause), cause = innermost.within contexts →
        e.message = ": ".intercalate (context :: contexts ++ [innermost.message]) ∧
        e.intoFramework.causes =
          (context :: contexts).tails.map
            (fun rest => ": ".intercalate (rest ++ [innermost.message])) ++ innermost.causes := by
  have hframework : e.intoFramework.isFramework = true := ProviderError.isFramework_intoFramework e
  refine ⟨hframework, ProviderError.intoFramework_of_framework hframework,
    ⟨fun h => h ▸ hframework, ProviderError.intoFramework_of_framework⟩,
    fun texts => ProviderError.descends_iff, ?_⟩
  intro context cause he
  have hfault : e.isFramework = false := by rw [he]; rfl
  rw [ProviderError.intoFramework_of_fault hfault]
  subst he
  refine ⟨rfl, rfl, rfl, rfl, exists_within cause, ?_⟩
  rintro contexts innermost rfl
  exact ⟨message_within innermost (context :: contexts),
    chain_within innermost (context :: contexts)⟩

/-- A framework error lies within two faults, and has a fault beneath it. -/
theorem wrapping_keeps_story_nested :
    let lost : ProviderError :=
      .runtime "session lost" (some (.error (.collaborator "zk.read" (.text "timeout"))))
    let fault : ProviderError :=
      .collaborator "registry.init" (.error (.collaborator "zk.connect" (.error lost)))
    lost.isFramework = true ∧ lost.intoFramework = lost ∧
      fault = .collaborator "registry.init" ((ErrorCause.error lost).within ["zk.connect"]) ∧
      fault.message = "registry.init: zk.connect: session lost" ∧
      fault.intoFramework.message = "Build provider proxy error!" ∧
      fault.intoFramework.causes = ["registry.init: zk.connect: session lost",
        "zk.connect: session lost", "session lost", "zk.read: timeout", "timeout"] := by
  intro lost fault
  have hstacked : fault =
      .collaborator "registry.init" ((ErrorCause.error lost).within ["zk.connect"]) := rfl
  obtain ⟨-, -, hkept, -⟩ := wrapping_keeps_story lost
  obtain ⟨-, -, -, -, hfault⟩ := wrapping_keeps_story fault
  obtain ⟨-, hmessage, -, -, -, hstack⟩ := hfault _ _ hstacked
  obtain ⟨htext, hcauses⟩ := hstack ["zk.connect"] (.error lost) rfl
  exact ⟨rfl, hkept.2 rfl, hstacked, htext.trans (by decide), hmessage,
    hcauses.trans (by decide)⟩

end ServicePublisher
