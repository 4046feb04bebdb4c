import ServicePublisher.Proofs.Bindings
import ServicePublisher.Proofs.Rebooked

/-! What a publication or a withdrawal leaves at servers and registries. It writes the key of its
provider at those that accepted the provider, or at those the provider names, and nothing else. -/
namespace ServicePublisher.World

variable {σ : Type}

/-- The bindings of the second state are those of the first, but for the key of a provider at the
given servers and registries: they have the given invoker, and list the key if there is one. -/
structure Rebound (w w' : World σ) (p : Provider) (servers : List ServerConfig)
    (registries : List RegistryConfig) (v : Option Invoker) : Prop where
  processor : ∀ n k, w'.processor? n k =
    if ∃ s ∈ servers, s.serial = n ∧ p.config.key = k then v else w.processor? n k
  listed : ∀ g identity k, w'.listed g identity k =
    if ∃ r ∈ registries, p.group = g ∧ r.identity = identity ∧ p.config.key = k then v.isSome
    else w.listed g identity k
  filed : Filed w'

namespace Rebound

variable {w w' w'' : World σ} {p : Provider} {servers servers' : List ServerConfig}
  {registries registries' : List RegistryConfig} {v v' : Option Invoker}

theorem of_same (h : SameBindings w w') (hfiled : Filed w) : Rebound w w' p [] [] v where
  processor n k := by simpa using h.processor n k
  listed g identity k := by simpa using h.listed g identity k
  filed := h.filed hfiled

theorem trans_same (h : Rebound w w' p servers registries v) (h' : SameBindings w' w'') :
    Rebound w w'' p servers registries v where
  processor n k := by rw [h'.processor, h.processor]
  listed g identity k := by rw [h'.listed, h.listed]
  filed := h'.filed h.filed

theorem same_trans (h : SameBindings w w') (h' : Rebound w' w'' p servers registries v) :
    Rebound w w'' p servers registries v where
  processor n k := by rw [h'.processor, h.processor]
  listed g identity k := by rw [h'.listed, h.listed]
  filed := h'.filed

theorem append (h : Rebound w w' p servers registries v)
    (h' : Rebound w' w'' p servers' registries' v) :
    Rebound w w'' p (servers ++ servers') (registries ++ registries') v where
  processor n k := by
    rw [h'.processor, h.processor]
    simp only [List.mem_append, or_and_right, exists_or]
    split
    · next hlater => rw [if_pos (.inr hlater)]
    · next hlater => simp only [hlater, or_false]
  listed g identity k := by
    rw [h'.listed, h.listed]
    simp only [List.mem_append, or_and_right, exists_or]
    split
    · next hlater => rw [if_pos (.inr hlater)]
    · next hlater => simp only [hlater, or_false]
  filed := h'.filed

theorem overwrite (h : Rebound w w' p servers registries v)
    (h' : Rebound w' w'' p servers registries v') : Rebound w w'' p servers registries v' where
  processor n k := by
    rw [h'.processor, h.processor]
    split <;> rfl
  listed g identity k := by
    rw [h'.listed, h.listed]
    split <;> rfl
  filed := h'.filed

end Rebound

section Courses

variable {ask : Ask σ} {w : World σ} {p : Provider}

theorem rebound_bindServers (ask : Ask σ) (h : Filed w) (p : Provider) (v : Invoker) :
    Rebound w (w.bindServers ask p.config v).outcome.world p
      (w.bindServers ask p.config v).accepted [] (some v) where
  processor := processor?_bindServers w p.config v
  listed g identity k := by
    rw [listed_congr (services_bindServers w p.config v g)]
    simp
  filed g identity x hx := h g identity x (by rwa [services_bindServers] at hx)

theorem rebound_unbindServers (hreleases : ask.Releases) (h : Filed w) (p : Provider)
    (servers : List ServerConfig) :
    Rebound w (w.unbindServers ask p.config servers) p servers [] none where
  processor := processor?_unbindServers hreleases w p.config servers
  listed g identity k := by
    rw [listed_congr (services_unbindServers w p.config servers g)]
    simp
  filed g identity x hx := h g identity x (by rwa [services_unbindServers] at hx)

theorem servers_announce (ask : Ask σ) (w : World σ) (p : Provider) :
    (w.announce ask p).outcome.world.servers = w.servers :=
  announce_keeps (P := fun w' => w'.servers = w.servers)
    (fun w' _ _ _ h => (servers_perform_registry ask w' _ _ _).trans h) (fun _ _ _ h => h) rfl

theorem rebound_announce (ask : Ask σ) (h : Filed w) (p : Provider) (v : Invoker) :
    Rebound w (w.announce ask p).outcome.world p [] (w.announce ask p).accepted (some v) where
  processor n k := by
    rw [processor?, processor?, servers_announce]
    simp
  listed := listed_announce p h
  filed := announce_keeps (fun _ _ _ _ h => filed_perform h _) (fun _ _ _ h => h) h

theorem servers_retract (ask : Ask σ) (w : World σ) (p : Provider)
    (registries : List RegistryConfig) : (w.retract ask p registries).servers = w.servers :=
  retract_keeps (P := fun w' => w'.servers = w.servers)
    (fun w' _ _ _ h => (servers_perform_registry ask w' _ _ _).trans h) (fun _ _ _ h => h) rfl

theorem rebound_retract (hreleases : ask.Releases) (h : Filed w) (p : Provider)
    (registries : List RegistryConfig) :
    Rebound w (w.retract ask p registries) p [] registries none where
  processor n k := by
    rw [processor?, processor?, servers_retract]
    simp
  listed := listed_retract hreleases p registries h
  filed := retract_keeps (fun _ _ _ _ h => filed_perform h _) (fun _ _ _ h => h) h

theorem sameBindings_prime (ask : Ask σ) (w : World σ) (g : Nat)
    (registries : List RegistryConfig) :
    SameBindings w (prime ask g registries w).world := by
  induction registries generalizing w with
  | nil => exact .refl w
  | cons r rs ih =>
    have hfound := @sameBindings_registryFor σ ask w g r
    rw [prime]
    generalize registryFor ask g r w = found at hfound ⊢
    obtain ⟨result, w₁⟩ := found
    cases result with
    | error e => exact hfound
    | ok x => exact hfound.trans (ih w₁)

theorem rebound_attempt (ask : Ask σ) (h : Filed w) (p : Provider) :
    Rebound w (w.attempt ask p).outcome.world p (w.attempt ask p).servers
      (w.attempt ask p).registries (some (w.nextInvoker p)) := by
  have hopened : SameBindings w (w.openInvoker p) := .of_eq rfl fun _ => rfl
  have hprimed := hopened.trans (sameBindings_prime ask (w.openInvoker p) p.group
    p.config.announcedIn)
  have hcourse := attempt_course ask w p
  generalize w.attempt ask p = a at hcourse ⊢
  cases hcourse with
  | unprimed hprime =>
    rw [hprime] at hprimed
    exact .of_same hprimed h
  | unbound hprime hbound =>
    rw [hprime] at hprimed
    exact .same_trans hprimed (rebound_bindServers ask (hprimed.filed h) p _)
  | @announced w₁ hprime hbound =>
    rw [hprime] at hprimed
    have hbound := Rebound.same_trans hprimed
      (rebound_bindServers ask (hprimed.filed h) p (w.nextInvoker p))
    have hsame : SameBindings (w.boundAfter ask p w₁).outcome.world
        (listening p (w.boundAfter ask p w₁)) := .of_eq rfl fun _ => rfl
    have hlistening := hbound.trans_same hsame
    have hannounced := hlistening.append (rebound_announce ask hlistening.filed p (w.nextInvoker p))
    rw [List.append_nil, List.nil_append] at hannounced
    exact hannounced

theorem sameBindings_release (w : World σ) (g : Nat) (k : ServiceKey) :
    SameBindings w (w.release g k).2 :=
  sameBindings_modifyServices w g (f := fun t => { t with
    counts := ((w.services g).counts.release k).2 }) fun _ => rfl

/-- A failed attempt has counted its publication back before it looks at what remains. -/
theorem release_closed (w : World σ) (p : Provider) :
    (((w.setListener p.config none).closeInvoker p).release p.group p.config.key).1 =
        w.liveCount p - 1 ∧
      SameBindings w
        (((w.setListener p.config none).closeInvoker p).release p.group p.config.key).2 := by
  have hclosed : SameBindings w ((w.setListener p.config none).closeInvoker p) :=
    .of_eq rfl fun _ => rfl
  refine ⟨?_, hclosed.trans (sameBindings_release _ _ _)⟩
  rw [release, ExportCounts.fst_release]
  rfl

/-- While other publications of the key live, a failed attempt leaves its entries. -/
theorem sameBindings_discard (p : Provider) (a : Attempt σ) (hothers : 1 < w.liveCount p) :
    SameBindings w (w.discard ask p a) := by
  obtain ⟨hremaining, hsame⟩ := release_closed w p
  have hpositive : 0 < w.liveCount p - 1 := Nat.sub_pos_of_lt hothers
  rw [discard]
  dsimp only
  rw [hremaining, if_pos hpositive]
  exact hsame.trans (sameBindings_record _ _)

/-- Without any, it takes them back. -/
theorem rebound_discard (hreleases : ask.Releases) (h : Filed w) (p : Provider) (a : Attempt σ)
    (hlast : w.liveCount p ≤ 1) :
    Rebound w (w.discard ask p a) p a.servers a.registries none := by
  obtain ⟨hremaining, hsame⟩ := release_closed w p
  have hzero : w.liveCount p - 1 = 0 := Nat.sub_eq_zero_of_le hlast
  have hretracted := Rebound.same_trans hsame
    (rebound_retract hreleases (hsame.filed h) p a.registries)
  have hunbound := hretracted.append (rebound_unbindServers hreleases hretracted.filed p a.servers)
  rw [List.nil_append, List.append_nil] at hunbound
  rw [discard]
  dsimp only
  rw [hremaining, hzero, if_neg (Nat.lt_irrefl 0)]
  exact hunbound

theorem sameBindings_concluded (w : World σ) (p : Provider) : SameBindings w (w.concluded p) := by
  have hlistening : SameBindings w (w.setListener p.config none) := .of_eq rfl fun _ => rfl
  have hreleased := sameBindings_release (w.setListener p.config none) p.group p.config.key
  have hdelisted (w : World σ) : SameBindings w (w.delist p) :=
    sameBindings_modifyServices w p.group (f := fun t => { t with
      published := t.published.erase p.number }) fun _ => rfl
  exact ((hlistening.trans hreleased).trans (sameBindings_record _ _)).trans
    ((hdelisted _).trans (.of_eq rfl fun _ => rfl))

theorem rebound_withdraw (hreleases : ask.Releases) (h : Filed w)
    (hpublished : w.isPublished p = true) :
    Rebound w (w.withdraw ask p) p p.config.servers p.config.announcedIn none := by
  have hwithdrawing : SameBindings w (w.withdrawing p) := .of_eq rfl fun _ => rfl
  have hretracted := Rebound.same_trans hwithdrawing
    (rebound_retract hreleases (hwithdrawing.filed h) p p.config.announcedIn)
  have hclosed (w₁ : World σ) : SameBindings w₁ (w₁.closeInvoker p) := .of_eq rfl fun _ => rfl
  have hlinked := hretracted.trans_same (hclosed _)
  have hunlinked := hlinked.append
    (rebound_unbindServers hreleases hlinked.filed p p.config.servers)
  rw [List.nil_append, List.append_nil] at hunlinked
  rw [withdraw_published ask hpublished]
  exact hunlinked.trans_same (sameBindings_concluded _ p)

theorem liveCount_attempt {n : Nat} {counts : ExportCounts}
    (hlimit : (w.services p.group).counts.acquire p.config.key p.config.repeatLimit.toInt =
      .ok (n, counts)) :
    ((w.admitted p n counts).attempt ask p).outcome.world.liveCount p = w.liveCount p + 1 := by
  obtain ⟨-, hbooks⟩ | ⟨e, l, -, hbooks⟩ :=
    @rebooked_attempt σ ask w p _ _ _ _ _ (rebooked_admitted hlimit)
  · exact hbooks.liveCount_self
  · exact hbooks.liveCount_self

theorem rebound_admitted (ask : Ask σ) (h : Filed w) (p : Provider) (n : Nat)
    (counts : ExportCounts) :
    Rebound w ((w.admitted p n counts).attempt ask p).outcome.world p
      ((w.admitted p n counts).attempt ask p).servers
      ((w.admitted p n counts).attempt ask p).registries (some (w.nextInvoker p)) := by
  have hadmitted := sameBindings_admitted w p n counts
  rw [← nextInvoker_admitted w p n counts]
  exact .same_trans hadmitted (rebound_attempt ask (hadmitted.filed h) p)

/-- Beside other publications of its key, a failed publication leaves its entries. -/
theorem rebound_failed_beside (ask : Ask σ) (h : Filed w) {n : Nat} {counts : ExportCounts}
    (hlimit : (w.services p.group).counts.acquire p.config.key p.config.repeatLimit.toInt =
      .ok (n, counts)) (hothers : 0 < w.liveCount p) :
    Rebound w (((w.admitted p n counts).attempt ask p).outcome.world.discard ask p
        ((w.admitted p n counts).attempt ask p)) p
      ((w.admitted p n counts).attempt ask p).servers
      ((w.admitted p n counts).attempt ask p).registries (some (w.nextInvoker p)) := by
  have hattempt := rebound_admitted ask h p n counts
  have hcount := @liveCount_attempt σ ask w p n counts hlimit
  exact hattempt.trans_same (sameBindings_discard p _ (by omega))

/-- The entries of a failed publication are gone, unless other publications of the key live. -/
theorem rebound_failed (hreleases : ask.Releases) (h : Filed w) {n : Nat} {counts : ExportCounts}
    (hlimit : (w.services p.group).counts.acquire p.config.key p.config.repeatLimit.toInt =
      .ok (n, counts)) :
    Rebound w (((w.admitted p n counts).attempt ask p).outcome.world.discard ask p
        ((w.admitted p n counts).attempt ask p)) p
      ((w.admitted p n counts).attempt ask p).servers
      ((w.admitted p n counts).attempt ask p).registries
      (if w.liveCount p = 0 then none else some (w.nextInvoker p)) := by
  by_cases hzero : w.liveCount p = 0
  · have hattempt := rebound_admitted ask h p n counts
    have hcount := @liveCount_attempt σ ask w p n counts hlimit
    rw [if_pos hzero]
    exact hattempt.overwrite (rebound_discard hreleases hattempt.filed p _ (by omega))
  · rw [if_neg hzero]
    exact rebound_failed_beside ask h hlimit (by omega)

theorem rebound_done (ask : Ask σ) (h : Filed w) (p : Provider) (n : Nat) (counts : ExportCounts) :
    Rebound w ((((w.admitted p n counts).attempt ask p).outcome.world.enlist p).modifyProvider p
        fun s => { s with published := true }) p
      ((w.admitted p n counts).attempt ask p).servers
      ((w.admitted p n counts).attempt ask p).registries (some (w.nextInvoker p)) := by
  have hattempt := rebound_admitted ask h p n counts
  generalize (w.admitted p n counts).attempt ask p = a at hattempt ⊢
  have henlisted : SameBindings a.outcome.world (a.outcome.world.enlist p) :=
    sameBindings_modifyServices _ p.group (f := fun t => { t with
      published := t.published.insert p.number p }) fun _ => rfl
  exact hattempt.trans_same (henlisted.trans (.of_eq rfl fun _ => rfl))

end Courses

end ServicePublisher.World
