import ServicePublisher.Proofs.Books
import ServicePublisher.Proofs.Exchanges

/-! The calls that a step of a publication makes. A step makes its calls in turn until one is
refused, that refusal is its error, and blame is left to the walk that the step belongs to. -/
namespace ServicePublisher

open World

variable {σ α β : Type} {ask : Ask σ} {w w' w'' : World σ}

section Turns

variable {calls more : List Call} {made later : List Exchange}

/-- What is exchanged when calls are made in turn, until one is refused. -/
inductive InTurn : List Call → List Exchange → Prop
  | done : InTurn [] []
  | refused (c : Call) (calls : List Call) (e : ProviderError) : InTurn (c :: calls) [(c, some e)]
  | accepted (c : Call) {calls : List Call} {made : List Exchange} (h : InTurn calls made) :
      InTurn (c :: calls) ((c, none) :: made)

theorem InTurn.mem (h : InTurn calls made) {x : Exchange} (hx : x ∈ made) : x.1 ∈ calls := by
  induction h with
  | done => cases hx
  | refused c calls e =>
    rw [List.mem_singleton.1 hx]
    exact List.mem_cons_self
  | accepted c h ih =>
    obtain rfl | hx := List.mem_cons.1 hx
    · exact List.mem_cons_self
    · exact List.mem_cons_of_mem c (ih hx)

def firstRefusal (made : List Exchange) : Option ProviderError := made.findSome? Prod.snd

def firstFrameworkError (made : List Exchange) : Option ProviderError :=
  made.findSome? fun x => x.2.filter ProviderError.isFramework

@[simp] theorem firstRefusal_nil : firstRefusal [] = none := rfl

@[simp] theorem firstFrameworkError_nil : firstFrameworkError [] = none := rfl

theorem firstFrameworkError_append (made later : List Exchange) :
    firstFrameworkError (made ++ later) =
      (firstFrameworkError made).or (firstFrameworkError later) :=
  List.findSome?_append

/-- Calls made in turn have one refusal at most, so it is the first framework error if it is one. -/
theorem InTurn.firstFrameworkError (h : InTurn calls made) :
    firstFrameworkError made = (firstRefusal made).filter ProviderError.isFramework := by
  induction h with
  | done => rfl
  | refused c calls e =>
    rw [ServicePublisher.firstFrameworkError, firstRefusal, List.findSome?_cons,
      List.findSome?_cons]
    cases (some e).filter ProviderError.isFramework <;> rfl
  | accepted c h ih => exact ih

/-- Without a framework error, it is a fault if there is one. -/
theorem InTurn.fault (h : InTurn calls made)
    (hnone : ServicePublisher.firstFrameworkError made = none) :
    ((firstRefusal made).filter fun e => !e.isFramework) = firstRefusal made := by
  rw [h.firstFrameworkError] at hnone
  cases hrefused : firstRefusal made with
  | none => rfl
  | some e =>
    rw [hrefused, Option.filter_some] at hnone
    rw [Option.filter_some, if_pos]
    cases hframework : e.isFramework with
    | false => rfl
    | true => simp [hframework] at hnone

/-- The refusal is the last that is exchanged. -/
theorem InTurn.last (h : InTurn calls made) {e : ProviderError} (he : firstRefusal made = some e) :
    ∃ before c, made = before ++ [(c, some e)] := by
  induction h with
  | done => cases he
  | refused c calls e' =>
    cases he
    exact ⟨[], c, rfl⟩
  | accepted c h ih =>
    obtain ⟨before, c', rfl⟩ := ih he
    exact ⟨(c, none) :: before, c', rfl⟩

theorem InTurn.stopped (h : InTurn calls made) (he : firstRefusal made ≠ none)
    (more : List Call) : InTurn (calls ++ more) made := by
  induction h with
  | done => exact absurd rfl he
  | refused c calls e => exact .refused c _ e
  | accepted c h ih => exact .accepted c (ih he)

theorem InTurn.append (h : InTurn calls made) (he : firstRefusal made = none)
    (h' : InTurn more later) : InTurn (calls ++ more) (made ++ later) := by
  induction h with
  | done => exact h'
  | refused c calls e => cases he
  | accepted c h ih => exact .accepted c (ih he)

theorem firstRefusal_append (he : firstRefusal made = none) :
    firstRefusal (made ++ later) = firstRefusal later := by
  rw [firstRefusal, List.findSome?_append]
  rw [firstRefusal] at he
  rw [he, Option.none_or]
  rfl

end Turns

/-- A line that holds a server or a registry responsible: how grave it is, and what it says. -/
abbrev Blame := Level × List (String × FieldValue)

def Notice.blame? (n : Notice) : Option Blame :=
  if (n.level = .error ∨ n.level = .warn) ∧
      n.fields.any (fun f => f.1 == "server" || f.1 == "registry") = true then
    some (n.level, n.fields)
  else none

def Event.blame? : Event → Option Blame
  | .notice n => n.blame?
  | _ => none

def Outcome.error? (o : Outcome σ α) : Option ProviderError :=
  match o.result with
  | .ok _ => none
  | .error e => some e

theorem Outcome.error?_eq_some_iff {o : Outcome σ α} {e : ProviderError} :
    o.error? = some e ↔ o.result = .error e := by
  rw [error?]
  cases o.result <;> simp

theorem Outcome.error?_eq_none_iff {o : Outcome σ Unit} :
    o.error? = none ↔ o.result = .ok () := by
  rw [error?]
  cases o.result <;> simp

namespace World

/-- All lines so far that hold somebody responsible. -/
def blames (w : World σ) : List Blame := w.events.filterMap Event.blame?

theorem blames_log (w : World σ) (n : Notice) : (w.log n).blames = w.blames ++ n.blame?.toList := by
  rw [blames, log, record, List.filterMap_append]
  cases h : n.blame? <;> simp [Event.blame?, h, blames]

theorem blames_perform (ask : Ask σ) (w : World σ) (c : Call) :
    (w.perform ask c).world.blames = w.blames := by
  obtain ⟨⟨answer, hevents⟩, -, -⟩ := events_perform ask w c
  rw [blames, hevents, List.filterMap_append]
  exact List.append_nil _

/-- Between two states these calls were made. -/
def Makes (w w' : World σ) (made : List Exchange) : Prop := w'.exchanges = w.exchanges ++ made

namespace Makes

variable {made made' : List Exchange}

theorem of_eq (h : w'.exchanges = w.exchanges) : Makes w w' [] := by
  rw [Makes, h, List.append_nil]

theorem refl (w : World σ) : Makes w w [] := of_eq rfl

theorem trans (h : Makes w w' made) (h' : Makes w' w'' made') : Makes w w'' (made ++ made') := by
  rw [Makes, h', h, List.append_assoc]

theorem trans_eq (h : Makes w w' made) (h' : w''.exchanges = w'.exchanges) : Makes w w'' made := by
  rw [Makes, h', h]

end Makes

/-- A step makes its calls in turn, and its error is the refusal. It blames nobody. -/
def Conducts (w : World σ) (calls : List Call) (o : Outcome σ α) : Prop :=
  ∃ made, InTurn calls made ∧ Makes w o.world made ∧ o.world.blames = w.blames ∧
    o.error? = firstRefusal made

namespace Conducts

variable {calls more : List Call} {o : Outcome σ β}

theorem of_same {x : α} (hmade : w'.exchanges = w.exchanges) (hblames : w'.blames = w.blames) :
    Conducts w [] (⟨.ok x, w'⟩ : Outcome σ α) :=
  ⟨[], .done, .of_eq hmade, hblames, rfl⟩

theorem nothing (w : World σ) (x : α) : Conducts w [] (⟨.ok x, w⟩ : Outcome σ α) :=
  of_same rfl rfl

theorem followed {x : α} (h : Conducts w calls (⟨.ok x, w'⟩ : Outcome σ α))
    (h' : Conducts w' more o) : Conducts w (calls ++ more) o := by
  obtain ⟨made, hturn, hmade, hblames, he⟩ := h
  obtain ⟨later, hturn', hlater, hblames', he'⟩ := h'
  exact ⟨made ++ later, hturn.append he.symm hturn', hmade.trans hlater, hblames'.trans hblames,
    he'.trans (firstRefusal_append he.symm).symm⟩

theorem stopped {e : ProviderError} (h : Conducts w calls (⟨.error e, w'⟩ : Outcome σ α))
    (more : List Call) : Conducts w (calls ++ more) (⟨.error e, w'⟩ : Outcome σ β) := by
  obtain ⟨made, hturn, hmade, hblames, he⟩ := h
  have hrefused : firstRefusal made ≠ none := by
    rw [← he]
    exact Option.some_ne_none e
  exact ⟨made, hturn.stopped hrefused more, hmade, hblames, he⟩

end Conducts

theorem makes_perform (ask : Ask σ) (w : World σ) (c : Call) :
    Makes w (w.perform ask c).world [(c, (ask c w.outside).1)] := by
  have hcourse := perform_course ask w c
  generalize w.perform ask c = outcome at hcourse
  cases hcourse with
  | refused hanswer => exact exchanges_asked ask w c
  | accepted hanswer => exact (exchanges_accept _ c).trans (exchanges_asked ask w c)

theorem conducts_perform (ask : Ask σ) (w : World σ) (c : Call) :
    Conducts w [c] (w.perform ask c) := by
  have hblames := blames_perform ask w c
  have hmade := makes_perform ask w c
  have hcourse := perform_course ask w c
  generalize w.perform ask c = outcome at hblames hmade hcourse
  cases hcourse with
  | accepted hanswer =>
    rw [hanswer] at hmade
    exact ⟨[(c, none)], .accepted c .done, hmade, hblames, rfl⟩
  | @refused e hanswer =>
    rw [hanswer] at hmade
    exact ⟨[(c, some e)], .refused c [] e, hmade, hblames, rfl⟩

end World

section Steps

/-- What is asked of a server for a provider, once the server exists. -/
def ServerConfig.bindingCalls (s : ServerConfig) (view : ConfigView) (v : Invoker) : List Call :=
  .server s (.register view v) :: if s.settings.autoStart then [.server s .start] else []

/-- What is asked of a registry for a provider, once it exists. -/
def RegistryConfig.announcingCalls (r : RegistryConfig) (g : Nat) (view : ConfigView) : List Call :=
  [.registry g r .init, .registry g r .start, .registry g r (.register view)]

/-- Creating a server, if that is necessary. -/
def World.creating (w : World σ) (s : ServerConfig) : List Call :=
  if w.servers.contains s.serial then [] else [.server s .create]

def World.filing (w : World σ) (g : Nat) (r : RegistryConfig) : List Call :=
  if (w.services g).registries.contains r.identity then [] else [.registry g r .create]

def World.origin? (w : World σ) (g : Nat) (identity : String) : Option RegistryConfig :=
  ((w.services g).registries[identity]?).map RegistryState.origin

/-- The registries of a list that do not exist, each identity once. -/
def World.missing (w : World σ) (g : Nat) (registries : List RegistryConfig) :
    List RegistryConfig :=
  (registries.filter fun r => !(w.services g).registries.contains r.identity).eraseDupsBy
    fun r r' => r.identity == r'.identity

namespace World

variable (ask w)

theorem conducts_build (s : ServerConfig) : Conducts w (w.creating s) (w.build ask s) := by
  rw [creating, build]
  split
  · exact .nothing w ()
  · exact conducts_perform ask w _

theorem conducts_bindServer (c : ProviderConfig) (v : Invoker) (s : ServerConfig) :
    Conducts w (w.creating s ++ s.bindingCalls (w.view c) v) (bindServer ask c v s w).outcome := by
  have hbuilt := conducts_build ask w s
  have hview := (@sameBooks_build σ ask w s).view c
  rw [bindServer]
  generalize w.build ask s = built at hbuilt hview ⊢
  obtain ⟨result, w₁⟩ := built
  cases result with
  | error e => exact hbuilt.stopped _
  | ok u =>
    refine hbuilt.followed ?_
    have hregistered := conducts_perform ask w₁ (.server s (.register (w₁.view c) v))
    dsimp only at hview ⊢
    rw [← hview, ServerConfig.bindingCalls, ← List.singleton_append]
    generalize w₁.perform ask (.server s (.register (w₁.view c) v)) = registered at hregistered ⊢
    obtain ⟨result, w₂⟩ := registered
    cases result with
    | error e => exact hregistered.stopped _
    | ok u =>
      refine hregistered.followed ?_
      dsimp only
      split
      · exact conducts_perform ask w₂ _
      · exact .nothing w₂ ()

theorem conducts_registryFor (g : Nat) (r : RegistryConfig) :
    Conducts w (w.filing g r) (registryFor ask g r w) := by
  rw [filing, Std.ExtTreeMap.contains_eq_isSome_getElem?, registryFor]
  cases (w.services g).registries[r.identity]? with
  | some x => exact .nothing w x.origin
  | none =>
    have hcreated := conducts_perform ask w (.registry g r .create)
    dsimp only [Option.isSome_none, Bool.false_eq_true, if_false]
    generalize w.perform ask (.registry g r .create) = created at hcreated ⊢
    obtain ⟨result, w₁⟩ := created
    cases result with
    | error e => exact hcreated.stopped []
    | ok u =>
      refine hcreated.followed (.of_same (exchanges_log w₁ _) ?_)
      rw [blames_log]
      exact List.append_nil _

theorem contains_eq_isSome_origin? (g : Nat) (identity : String) :
    (w.services g).registries.contains identity = (w.origin? g identity).isSome := by
  rw [origin?, Option.isSome_map, Std.ExtTreeMap.contains_eq_isSome_getElem?]

/-- A registry that has been looked up exists, others are as before. -/
theorem origin?_registryFor {g : Nat} {r x : RegistryConfig}
    (hok : (registryFor ask g r w).result = .ok x) :
    x = (w.origin? g r.identity).getD r ∧ ∀ identity,
      (registryFor ask g r w).world.origin? g identity =
        if identity = r.identity then some x else w.origin? g identity := by
  rw [registryFor] at hok ⊢
  split at hok
  · next y hy =>
    cases hok
    refine ⟨by rw [origin?, hy]; rfl, fun identity => ?_⟩
    by_cases hsame : identity = r.identity
    · rw [if_pos hsame, hsame, origin?, hy]
      rfl
    · rw [if_neg hsame]
  · next hnone =>
    have hcourse := perform_course ask w (.registry g r .create)
    generalize w.perform ask (.registry g r .create) = outcome at hcourse hok ⊢
    cases hcourse with
    | refused hanswer => cases hok
    | accepted hanswer =>
      cases hok
      refine ⟨by rw [origin?, hnone]; rfl, fun identity => ?_⟩
      by_cases hsame : identity = r.identity
      · subst hsame
        simp [origin?, accept]
      · have hother : r.identity ≠ identity := fun h => hsame h.symm
        simp [origin?, accept, Std.ExtTreeMap.getElem?_insert, hsame, hother]

/-- After all registries of a list have been looked up, those that did not exist have been created
from the first of their configurations. -/
theorem origin?_prime {g : Nat} {registries : List RegistryConfig}
    (hok : (prime ask g registries w).result = .ok ()) (identity : String) :
    (prime ask g registries w).world.origin? g identity =
      (w.origin? g identity).or (registries.find? fun r => r.identity == identity) := by
  induction registries generalizing w with
  | nil => exact (Option.or_none).symm
  | cons r rs ih =>
    have hlooked := @origin?_registryFor σ ask w g r
    rw [prime] at hok ⊢
    generalize registryFor ask g r w = found at hlooked hok ⊢
    obtain ⟨result, w₁⟩ := found
    cases result with
    | error e => cases hok
    | ok x =>
      obtain ⟨rfl, hafter⟩ := hlooked rfl
      rw [ih w₁ hok, hafter identity]
      by_cases hsame : identity = r.identity
      · subst hsame
        cases w.origin? g r.identity <;> simp
      · have hother : r.identity ≠ identity := fun h => hsame h.symm
        rw [if_neg hsame, List.find?_cons_of_neg (by simpa using hother)]

/-- Other keys of a registry do not change where registries come from. -/
theorem origin?_modifyRegistry (w : World σ) (g' : Nat) (identity' : String)
    (f : List ServiceKey → List ServiceKey) (g : Nat) (identity : String) :
    (w.modifyRegistry g' identity' f).origin? g identity = w.origin? g identity := by
  rw [origin?, modifyRegistry, services_modifyServices]
  split
  · next hg =>
    subst hg
    simp only [Std.ExtTreeMap.getElem?_modify, Std.compare_eq_iff_eq, origin?]
    split
    · next hi =>
      subst hi
      rw [Option.map_map]
      rfl
    · rfl
  · rfl

/-- Only the creation of a registry changes where registries come from. -/
theorem origin?_perform (c : Call) (hc : ∀ g r, c ≠ .registry g r .create) (g : Nat)
    (identity : String) : (w.perform ask c).world.origin? g identity = w.origin? g identity := by
  have hcourse := perform_course ask w c
  generalize w.perform ask c = outcome at hcourse
  cases hcourse with
  | refused hanswer => rfl
  | accepted hanswer =>
    have hasked : (w.asked ask c).origin? g identity = w.origin? g identity := rfl
    rw [← hasked]
    generalize w.asked ask c = w'
    change (w'.accept c).origin? g identity = w'.origin? g identity
    cases c with
    | server s request => cases request <;> rfl
    | registry g' r request =>
      cases request with
      | create => exact absurd rfl (hc g' r)
      | init => rfl
      | start => rfl
      | register view =>
        rw [accept]
        exact origin?_modifyRegistry w' g' r.identity _ g identity
      | unregister view =>
        rw [accept]
        exact origin?_modifyRegistry w' g' r.identity _ g identity

theorem missing_cons (g : Nat) (r : RegistryConfig) (rs : List RegistryConfig) :
    w.missing g (r :: rs) =
      (if (w.services g).registries.contains r.identity then [] else [r]) ++
        (rs.filter fun x => !(x.identity == r.identity ||
          (w.services g).registries.contains x.identity)).eraseDupsBy
            fun x y => x.identity == y.identity := by
  rw [missing]
  split
  · next hfiled =>
    rw [List.filter_cons_of_neg (by simp [hfiled]), List.nil_append]
    have hsame (x : RegistryConfig) : (x.identity == r.identity ||
        (w.services g).registries.contains x.identity) =
          (w.services g).registries.contains x.identity := by
      by_cases hx : x.identity = r.identity
      · simp [hx, hfiled]
      · simp [hx]
    simp only [hsame]
  · next hfiled =>
    have hkept (x : RegistryConfig) : (decide ((x.identity == r.identity) = false) &&
        !(w.services g).registries.contains x.identity) =
          !(x.identity == r.identity || (w.services g).registries.contains x.identity) := by
      cases x.identity == r.identity <;> rfl
    rw [List.filter_cons_of_pos (by rw [eq_false_of_ne_true hfiled]; rfl),
      List.eraseDupsBy_cons, List.filter_filter]
    simp only [hkept, List.singleton_append]

theorem conducts_prime (g : Nat) (registries : List RegistryConfig) :
    Conducts w ((w.missing g registries).map fun r => .registry g r .create)
      (prime ask g registries w) := by
  induction registries generalizing w with
  | nil => exact .nothing w ()
  | cons r rs ih =>
    have hlooked := conducts_registryFor ask w g r
    have hfiled := @origin?_registryFor σ ask w g r
    have hfiling : w.filing g r = (if (w.services g).registries.contains r.identity then []
        else [r]).map fun r => .registry g r .create := by
      rw [filing]
      split <;> rfl
    rw [missing_cons, List.map_append, ← hfiling, prime]
    generalize registryFor ask g r w = found at hlooked hfiled ⊢
    obtain ⟨result, w₁⟩ := found
    cases result with
    | error e => exact hlooked.stopped _
    | ok x =>
      -- Of the other registries, those are still missing that were and are not this one.
      have hcontains (y : RegistryConfig) : (w₁.services g).registries.contains y.identity =
          (y.identity == r.identity || (w.services g).registries.contains y.identity) := by
        rw [contains_eq_isSome_origin?, contains_eq_isSome_origin?, (hfiled rfl).2]
        by_cases hsame : y.identity = r.identity <;> simp [hsame]
      have hrest := ih w₁
      simp only [missing, hcontains] at hrest
      exact hlooked.followed hrest

/-- A known registry is found as it is, and nobody is asked for it. -/
theorem registryFor_of_origin {g : Nat} {r x : RegistryConfig}
    (hx : w.origin? g r.identity = some x) : registryFor ask g r w = ⟨.ok x, w⟩ := by
  obtain ⟨y, hy, rfl⟩ := Option.map_eq_some_iff.1 hx
  rw [registryFor, hy]

theorem conducts_announceIn {p : Provider} {r x : RegistryConfig}
    (hx : w.origin? p.group r.identity = some x) :
    Conducts w (x.announcingCalls p.group (w.view p.config)) (announceIn ask p r w) := by
  have hinit := conducts_perform ask w (.registry p.group x .init)
  have hview := (@sameBooks_perform σ ask w (.registry p.group x .init)).view p.config
  rw [announceIn, registryFor_of_origin ask w hx, RegistryConfig.announcingCalls,
    ← List.singleton_append]
  dsimp only
  generalize w.perform ask (.registry p.group x .init) = init at hinit hview ⊢
  obtain ⟨result, w₁⟩ := init
  cases result with
  | error e => exact hinit.stopped _
  | ok u =>
    refine hinit.followed ?_
    have hstart := conducts_perform ask w₁ (.registry p.group x .start)
    have hview' :=
      (@sameBooks_perform σ ask w₁ (.registry p.group x .start)).view p.config
    dsimp only at hview ⊢
    rw [← hview, ← List.singleton_append]
    generalize w₁.perform ask (.registry p.group x .start) = start at hstart hview' ⊢
    obtain ⟨result, w₂⟩ := start
    cases result with
    | error e => exact hstart.stopped _
    | ok u =>
      refine hstart.followed ?_
      dsimp only at hview' ⊢
      rw [← hview']
      exact conducts_perform ask w₂ _

theorem conducts_retractFrom {p : Provider} {r x : RegistryConfig}
    (hx : w.origin? p.group r.identity = some x) :
    Conducts w [.registry p.group x (.unregister (w.view p.config))]
      (retractFrom ask p r w) := by
  rw [retractFrom, registryFor_of_origin ask w hx]
  exact conducts_perform ask w _

theorem conducts_unbindServer (c : ProviderConfig) (s : ServerConfig) :
    Conducts w (if w.servers.contains s.serial then
      [.server s (.unregister (w.view c) s.settings.autoStart)] else [])
      (unbindServer ask c s w) := by
  rw [unbindServer]
  split
  · exact conducts_perform ask w _
  · exact .nothing w ()

end World

end Steps

end ServicePublisher
