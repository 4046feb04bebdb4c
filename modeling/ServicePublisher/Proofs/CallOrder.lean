import ServicePublisher.Proofs.Traces

/-! The order of the calls of a publication and of a withdrawal. On the way out registries are
created, then servers bound, then the provider is announced; on the way back registries come before
servers; and nobody is started, or asked to list a provider, before having accepted what leads up to
it. -/
namespace ServicePublisher

open World

variable {σ α : Type}

namespace Call

/-- Where a call belongs: registries are created, servers bound, the provider announced; then it is
retracted from registries, and servers are unbound. -/
def stage : Call → Nat
  | .registry _ _ .create => 0
  | .server _ (.unregister ..) => 4
  | .server .. => 1
  | .registry _ _ (.unregister _) => 3
  | .registry .. => 2

/-- What must have been accepted right before a call is made. -/
def Ready (before : List Exchange) : Call → Prop
  | .server s .start => s.settings.autoStart = true ∧
      ∃ view v, [(.server s (.register view v), none)] <:+ before
  | .registry g r .start => [(.registry g r .init, none)] <:+ before
  | .registry g r (.register _) =>
    [(.registry g r .init, none), (.registry g r .start, none)] <:+ before
  | _ => True

theorem Ready.after {before : List Exchange} {c : Call} (h : c.Ready before)
    (earlier : List Exchange) : c.Ready (earlier ++ before) := by
  cases c with
  | server s request =>
    cases request with
    | start =>
      obtain ⟨hstart, view, v, hregistered⟩ := h
      exact ⟨hstart, view, v, hregistered.trans (List.suffix_append earlier before)⟩
    | _ => trivial
  | registry g r request =>
    cases request with
    | start => exact List.IsSuffix.trans h (List.suffix_append earlier before)
    | register view => exact List.IsSuffix.trans h (List.suffix_append earlier before)
    | _ => trivial

end Call

section Readiness

def AllReady (before : List Exchange) : List Exchange → Prop
  | [] => True
  | x :: made => x.1.Ready before ∧ AllReady (before ++ [x]) made

theorem AllReady.append {before made later : List Exchange} (h : AllReady before made)
    (hlater : AllReady (before ++ made) later) : AllReady before (made ++ later) := by
  induction made generalizing before with
  | nil => simpa using hlater
  | cons x made ih =>
    refine ⟨h.1, ih h.2 ?_⟩
    rwa [List.append_assoc]

theorem AllReady.after {before made : List Exchange} (h : AllReady before made)
    (earlier : List Exchange) : AllReady (earlier ++ before) made := by
  induction made generalizing before with
  | nil => trivial
  | cons x made ih =>
    refine ⟨h.1.after earlier, ?_⟩
    rw [List.append_assoc]
    exact ih h.2

theorem AllReady.ready {before made : List Exchange} (h : AllReady before made)
    {earlier later : List Exchange} {x : Exchange} (hmade : made = earlier ++ x :: later) :
    x.1.Ready (before ++ earlier) := by
  induction earlier generalizing before made with
  | nil =>
    subst hmade
    rw [List.append_nil]
    exact h.1
  | cons y earlier ih =>
    subst hmade
    have hrest := ih h.2 rfl
    rwa [List.append_assoc] at hrest

theorem allReady_of_forall {made : List Exchange} (h : ∀ x ∈ made, ∀ before, x.1.Ready before)
    (before : List Exchange) : AllReady before made := by
  induction made generalizing before with
  | nil => trivial
  | cons x made ih =>
    exact ⟨h x List.mem_cons_self before, ih (fun y hy => h y (List.mem_cons_of_mem x hy)) _⟩

theorem Along.allReady {visit : α → List Exchange → Prop}
    (hvisit : ∀ x here, visit x here → AllReady [] here) {xs : List α} {made : List Exchange}
    (h : Along visit xs made) (before : List Exchange) : AllReady before made := by
  induction h generalizing before with
  | nil => trivial
  | cons hx h ih =>
    have hhere := (hvisit _ _ hx).after before
    rw [List.append_nil] at hhere
    exact hhere.append (ih _)

end Readiness

section Visits

variable {p : Provider} {c : ProviderConfig} {v : Invoker} {made : List Exchange}

theorem stage_creatingVisit {g : Nat} {r : RegistryConfig} (h : CreatingVisit g r made) :
    ∀ x ∈ made, x.1.stage = 0 := by
  obtain rfl | h := h
  · simp
  · intro x hx
    rw [List.mem_singleton.1 (h.mem hx)]
    rfl

theorem stage_bindingVisit {s : ServerConfig} (h : BindingVisit c v s made) :
    ∀ x ∈ made, x.1.stage = 1 := by
  obtain ⟨view, -, h⟩ := h
  have hcalls : ∀ call ∈ .server s .create :: s.bindingCalls view v, call.stage = 1 := by
    rw [ServerConfig.bindingCalls]
    split <;> simp [Call.stage]
  intro x hx
  obtain h | h := h
  · exact hcalls x.1 (List.mem_cons_of_mem _ (h.mem hx))
  · exact hcalls x.1 (h.mem hx)

theorem stage_announcingVisit {r : RegistryConfig} (h : AnnouncingVisit p r made) :
    ∀ x ∈ made, x.1.stage = 2 := by
  obtain ⟨x, view, -, -, h⟩ := h
  intro y hy
  have hcall := h.mem hy
  simp only [List.mem_cons, List.not_mem_nil, or_false] at hcall
  obtain hcall | hcall | hcall := hcall <;> rw [hcall] <;> rfl

theorem stage_retractingVisit {r : RegistryConfig} (h : RetractingVisit p r made) :
    ∀ x ∈ made, x.1.stage = 3 := by
  obtain ⟨x, view, -, -, h⟩ := h
  intro y hy
  rw [List.mem_singleton.1 (h.mem hy)]
  rfl

theorem stage_unbindingVisit {s : ServerConfig} (h : UnbindingVisit c s made) :
    ∀ x ∈ made, x.1.stage = 4 := by
  obtain ⟨view, -, h⟩ := h
  intro x hx
  rw [List.mem_singleton.1 (h.mem hx)]
  rfl

theorem Call.ready_of_stage {call : Call}
    (h : call.stage = 0 ∨ call.stage = 3 ∨ call.stage = 4) (before : List Exchange) :
    call.Ready before := by
  cases call with
  | server s request => cases request <;> simp_all [Call.stage, Call.Ready]
  | registry g r request => cases request <;> simp_all [Call.stage, Call.Ready]

theorem allReady_bindingVisit {s : ServerConfig} (h : BindingVisit c v s made) :
    AllReady [] made := by
  obtain ⟨view, -, h⟩ := h
  -- Before the registration a server can only have been created, which asks for nothing.
  have hcalls {before made : List Exchange} (h : InTurn (s.bindingCalls view v) made) :
      AllReady before made := by
    rw [ServerConfig.bindingCalls] at h
    cases h with
    | refused call calls e => exact ⟨trivial, trivial⟩
    | accepted call h =>
      refine ⟨trivial, ?_⟩
      split at h
      · next hstart =>
        have hready : Call.Ready (before ++ [(.server s (.register view v), none)])
            (.server s .start) := ⟨hstart, view, v, List.suffix_append _ _⟩
        cases h with
        | refused call calls e => exact ⟨hready, trivial⟩
        | accepted call h => cases h; exact ⟨hready, trivial⟩
      · cases h; trivial
  obtain h | h := h
  · exact hcalls h
  · cases h with
    | refused call calls e => exact ⟨trivial, trivial⟩
    | accepted call h => exact ⟨trivial, hcalls h⟩

theorem allReady_announcingVisit {r : RegistryConfig} (h : AnnouncingVisit p r made) :
    AllReady [] made := by
  obtain ⟨x, view, -, -, h⟩ := h
  cases h with
  | refused call calls e => exact ⟨trivial, trivial⟩
  | accepted call h =>
    cases h with
    | refused call calls e => exact ⟨trivial, List.suffix_rfl, trivial⟩
    | accepted call h =>
      cases h with
      | refused call calls e => exact ⟨trivial, List.suffix_rfl, List.suffix_rfl, trivial⟩
      | accepted call h =>
        cases h
        exact ⟨trivial, List.suffix_rfl, List.suffix_rfl, trivial⟩

end Visits

section Order

variable {p : Provider} {v : Invoker} {made later : List Exchange}

/-- Calls come stage after stage, and each is made when it is ready. -/
structure InOrder (made : List Exchange) : Prop where
  stages : made.Pairwise fun x y => x.1.stage ≤ y.1.stage
  ready : ∀ before x after, made = before ++ x :: after → x.1.Ready before

/-- Calls of no later stage than the n-th, in order. -/
structure OrderedTo (n : Nat) (made : List Exchange) : Prop where
  stages : made.Pairwise fun x y => x.1.stage ≤ y.1.stage
  last : ∀ x ∈ made, x.1.stage ≤ n
  ready : AllReady [] made

theorem OrderedTo.inOrder {n : Nat} (h : OrderedTo n made) : InOrder made where
  stages := h.stages
  ready _ _ _ hmade := h.ready.ready hmade

theorem orderedTo_nil (n : Nat) : OrderedTo n [] := ⟨.nil, by simp, trivial⟩

/-- The calls of the next stage are added behind. -/
theorem OrderedTo.append {n m : Nat} (h : OrderedTo n made) (hnm : n ≤ m)
    (hstage : ∀ x ∈ later, x.1.stage = m) (hready : ∀ before, AllReady before later) :
    OrderedTo m (made ++ later) := by
  refine ⟨List.pairwise_append.2 ⟨h.stages, ?_, fun x hx y hy => ?_⟩, fun x hx => ?_,
    h.ready.append (hready _)⟩
  · exact List.pairwise_of_forall_mem_list fun x hx y hy => by
      exact Nat.le_of_eq (by rw [hstage x hx, hstage y hy])
  · rw [hstage y hy]
    exact Nat.le_trans (h.last x hx) hnm
  · obtain hx | hx := List.mem_append.1 hx
    · exact Nat.le_trans (h.last x hx) hnm
    · exact Nat.le_of_eq (hstage x hx)

/-- Nothing needs to be accepted before registries are created or bindings taken back. -/
theorem allReady_of_stage (h : ∀ x ∈ made, x.1.stage = 0 ∨ x.1.stage = 3 ∨ x.1.stage = 4)
    (before : List Exchange) : AllReady before made :=
  allReady_of_forall (fun x hx before => Call.ready_of_stage (h x hx) before) before

theorem AttemptTrace.Of.orderedTo {t : AttemptTrace} (h : t.Of p v) : OrderedTo 2 t.calls := by
  obtain ⟨registries, -, hcreated⟩ := h.created
  obtain ⟨servers, -, hbound⟩ := h.bound
  obtain ⟨told, -, hannounced⟩ := h.announced
  have hcreating := hcreated.forall fun _ _ h => stage_creatingVisit h
  have hfirst : OrderedTo 0 t.created := by
    simpa using (orderedTo_nil 0).append (Nat.le_refl 0) hcreating
      (allReady_of_stage fun x hx => .inl (hcreating x hx))
  have hsecond := hfirst.append (Nat.zero_le 1) (hbound.forall fun _ _ h => stage_bindingVisit h)
    (hbound.allReady fun _ _ h => allReady_bindingVisit h)
  exact hsecond.append (Nat.le_succ 1) (hannounced.forall fun _ _ h => stage_announcingVisit h)
    (hannounced.allReady fun _ _ h => allReady_announcingVisit h)

/-- The way back may follow calls of any earlier stage. -/
theorem ReleaseTrace.Of.orderedTo {t : ReleaseTrace} {registries : List RegistryConfig}
    {servers : List ServerConfig} (h : t.Of p registries servers) (hmade : OrderedTo 2 made) :
    OrderedTo 4 (made ++ t.calls) := by
  have hretracting := h.retracted.forall fun _ _ h => stage_retractingVisit h
  have hunbinding := h.unbound.forall fun _ _ h => stage_unbindingVisit h
  have hfirst := hmade.append (Nat.le_succ 2) hretracting
    (allReady_of_stage fun x hx => .inr (.inl (hretracting x hx)))
  rw [ReleaseTrace.calls, ← List.append_assoc]
  exact hfirst.append (Nat.le_succ 3) hunbinding
    (allReady_of_stage fun x hx => .inr (.inr (hunbinding x hx)))

end Order

/-- In every state that a run reaches, whatever the collaborators answer then, a publication makes
its calls in order: registries are created, servers bound and the provider announced, each in the
order of the configuration and the next not before all of the one before have been visited, and a
failed attempt takes bindings back from registries before servers; one that succeeds has visited
everybody. The withdrawal of a published provider addresses all registries of its configuration, and
then those of its servers that exist. -/
theorem calls_in_order {fleet : Fleet} (ask : Ask σ) (outside : σ) {ops : List Operation}
    (hops : ∀ op ∈ ops, op.Within fleet) {p : Provider} (hp : p ∈ fleet.members)
    (ask' : Ask σ) :
    let w := run ask ops (World.start outside)
    (∃ t : PublicationTrace, t.Of p (w.nextInvoker p) (w.publishNow ask' p).result ∧
      (w.isPublished p = false → (w.publishNow ask' p).result = .ok () →
        t.attempt.Complete p (w.nextInvoker p)) ∧
      (w.publishNow ask' p).world.exchanges = w.exchanges ++ t.calls ∧ InOrder t.calls) ∧
    (w.isPublished p = true → ∃ t : ReleaseTrace, t.Of p p.config.announcedIn
        (p.config.servers.filter fun s => w.servers.contains s.serial) ∧
      (w.withdraw ask' p).exchanges = w.exchanges ++ t.calls ∧ InOrder t.calls) := by
  intro w
  have hsupplied : Supplied fleet w := supplied_run ask outside hops
  constructor
  · obtain ⟨t, ht, hcomplete, hmade⟩ := publishNow_trace ask' hsupplied.filed p
    obtain ⟨registries, servers, -, -, hback⟩ := ht.back
    exact ⟨t, ht, hcomplete, hmade, (hback.orderedTo ht.attempt.orderedTo).inOrder⟩
  · intro hlive
    obtain ⟨t, ht, hmade⟩ :=
      withdraw_trace ask' hlive hsupplied.filed (hsupplied.stocked p hp hlive)
    refine ⟨t, ht, hmade, ?_⟩
    simpa using (ht.orderedTo (orderedTo_nil 2)).inOrder

/-- A provider is published again after a withdrawal, and the second of its registries ends the
attempt: the first is told to forget it, and then both servers. -/
theorem calls_in_order_refused :
    let registry (name : String) : RegistryConfig := ⟨⟨name, "mock", name⟩, ⟨"mock"⟩⟩
    let a := smallProvider 0 [smallServer 0, smallServer 1] [registry "first", registry "second"] 1
    let b := smallProvider 1 [smallServer 0] [] 1
    let fleet := Fleet.pair a b rfl (by decide)
    let ops : List Operation := [.publish a, .withdraw a]
    let ask : Ask Nat := fun _ n => (none, n + 1)
    let refuse : Ask Nat := fun c n =>
      (if c.name = "registry.register" ∧ c.id = "second" then some (.runtime "refused" none)
        else none, n + 1)
    let w := run ask ops (World.start 0)
    (∀ op ∈ ops, op.Within fleet) ∧ a ∈ fleet.members ∧
      ((w.publishNow refuse a).world.exchanges.drop w.exchanges.length).map (fun x => x.1.name) =
        ["server.register", "server.start", "server.register", "server.start",
          "registry.init", "registry.start", "registry.register",
          "registry.init", "registry.start", "registry.register",
          "registry.unregister", "server.unregister", "server.unregister"] ∧
      ∃ t : PublicationTrace, t.Of a (w.nextInvoker a) (w.publishNow refuse a).result ∧
        (w.publishNow refuse a).world.exchanges = w.exchanges ++ t.calls ∧ InOrder t.calls := by
  intro registry a b fleet ops ask refuse w
  have hops : ∀ op ∈ ops, op.Within fleet := by
    simp [ops, Operation.Within, fleet, Fleet.pair]
  have ha : a ∈ fleet.members := List.mem_cons_self
  obtain ⟨⟨t, ht, -, hmade, horder⟩, -⟩ := calls_in_order ask 0 hops ha refuse
  exact ⟨hops, ha, by decide +kernel, t, ht, hmade, horder⟩

end ServicePublisher
