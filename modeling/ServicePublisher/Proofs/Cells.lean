import ServicePublisher.Proofs.Parallels
import ServicePublisher.Proofs.Replies

/-! The state cut into cells, the smallest parts that can change by themselves. Whatever is written
for a provider is written to cells of its own, and what is written depends on such cells only. -/
namespace ServicePublisher

open World

/-- A part of the state. The states of collaborators are told apart by whoever keeps them. -/
inductive Cell (ι : Type) where
  | provider (number : Nat)
  | config (serial : Nat)
  | count (group : Nat) (k : ServiceKey)
  | entry (group number : Nat)
  | registry (group : Nat) (identity : String)
  | args (group : Nat) (m : MethodId)
  | server (serial : Nat)
  | keeper (i : ι)
  | schedule (number : Nat)

variable {ι τ : Type}

abbrev Cell.Value (τ : Type) : Cell ι → Type
  | .provider _ => Option ProviderState
  | .config _ => Option ConfigState
  | .count .. => Nat
  | .entry .. => Option Provider
  | .registry .. => Option RegistryState
  | .args .. => Option (List String)
  | .server _ => Option Processors
  | .keeper _ => τ
  | .schedule _ => List Scheduled

def World.cell (w : World (ι → τ)) : (x : Cell ι) → x.Value τ
  | .provider n => w.providers[n]?
  | .config n => w.configs[n]?
  | .count g k => (w.services g).counts.count k
  | .entry g m => (w.services g).published[m]?
  | .registry g identity => (w.services g).registries[identity]?
  | .args g m => (w.services g).args.params[m]?
  | .server n => w.servers[n]?
  | .keeper i => w.outside i
  | .schedule n => w.scheduled.filter fun s => s.provider.number == n

/-- A call is answered from the state of its keeper, and no other state changes. -/
def AnswerPattern.askBy [DecidableEq ι] (a : AnswerPattern τ) (keeper : Call → ι) : Ask (ι → τ) :=
  fun c states => ((a c (states (keeper c))).1,
    Function.update states (keeper c) (a c (states (keeper c))).2)

def Cell.Of (p : Provider) (keeper : Call → ι) : Cell ι → Prop
  | .provider n => n = p.number
  | .config n => n = p.config.serial
  | .count g k => g = p.group ∧ k = p.config.key
  | .entry g m => g = p.group ∧ m = p.number
  | .registry g identity => g = p.group ∧ ∃ r ∈ p.config.announcedIn, r.identity = identity
  | .args g m => g = p.group ∧ m.interface = p.config.interface.id
  | .server n => ∃ s ∈ p.config.servers, s.serial = n
  | .keeper i => ∃ c : Call, c.For p ∧ keeper c = i
  | .schedule n => n = p.number

section Writes

variable {w w₁ : World (ι → τ)}

/-- Nothing is called, and only some cells change. -/
structure OnlyAt (changed : Cell ι → Prop) (w w₁ : World (ι → τ)) : Prop where
  cells : ∀ x, ¬changed x → w₁.cell x = w.cell x
  exchanges : w₁.exchanges = w.exchanges
  clock : w₁.clock = w.clock

variable (w)

theorem onlyAt_log (n : Notice) : OnlyAt (fun _ => False) w (w.log n) where
  cells x _ := by cases x <;> rfl
  exchanges := exchanges_log w n
  clock := rfl

theorem onlyAt_modifyProvider (p : Provider) (f : ProviderState → ProviderState) :
    OnlyAt (· = .provider p.number) w (w.modifyProvider p f) where
  cells x hx := by
    cases x with
    | provider n =>
      have hn : p.number ≠ n := fun hn => hx (by rw [hn])
      simp [World.cell, modifyProvider, Std.ExtTreeMap.getElem?_insert, hn]
    | _ => rfl
  exchanges := rfl
  clock := rfl

theorem onlyAt_modifyConfig (c : ProviderConfig) (f : ConfigState → ConfigState) :
    OnlyAt (· = .config c.serial) w (w.modifyConfig c f) where
  cells x hx := by
    cases x with
    | config n =>
      have hn : c.serial ≠ n := fun hn => hx (by rw [hn])
      simp [World.cell, modifyConfig, Std.ExtTreeMap.getElem?_insert, hn]
    | _ => rfl
  exchanges := rfl
  clock := rfl

theorem onlyAt_schedule {n : Nat} {scheduled : List Scheduled}
    (hothers : ∀ m ≠ n, (scheduled.filter fun s => s.provider.number == m) =
      w.scheduled.filter fun s => s.provider.number == m) :
    OnlyAt (· = .schedule n) w { w with scheduled } where
  cells x hx := by
    cases x with
    | schedule m => exact hothers m fun hm => hx (by rw [hm])
    | _ => rfl
  exchanges := rfl
  clock := rfl

theorem onlyAt_modifyServer (serial : Nat) (f : Processors → Processors) :
    OnlyAt (· = .server serial) w (w.modifyServer serial f) where
  cells x hx := by
    cases x with
    | server n =>
      have hn : serial ≠ n := fun hn => hx (by rw [hn])
      simp [World.cell, modifyServer, Std.ExtTreeMap.getElem?_modify, hn]
    | _ => rfl
  exchanges := rfl
  clock := rfl

/-- Other tables of a group: what changes in them changes in the cells of the group. -/
theorem onlyAt_modifyServices {changed : Cell ι → Prop} (g : Nat) (f : Services → Services)
    (hcount : ∀ k, ¬changed (.count g k) →
      (f (w.services g)).counts.count k = (w.services g).counts.count k)
    (hentry : ∀ m, ¬changed (.entry g m) →
      (f (w.services g)).published[m]? = (w.services g).published[m]?)
    (hregistry : ∀ identity, ¬changed (.registry g identity) →
      (f (w.services g)).registries[identity]? = (w.services g).registries[identity]?)
    (hargs : ∀ m, ¬changed (.args g m) →
      (f (w.services g)).args.params[m]? = (w.services g).args.params[m]?) :
    OnlyAt changed w (w.modifyServices g f) where
  cells x hx := by
    cases x with
    | count g' k =>
      simp only [World.cell, services_modifyServices]
      split
      · next hg => subst hg; exact hcount k hx
      · rfl
    | entry g' m =>
      simp only [World.cell, services_modifyServices]
      split
      · next hg => subst hg; exact hentry m hx
      · rfl
    | registry g' identity =>
      simp only [World.cell, services_modifyServices]
      split
      · next hg => subst hg; exact hregistry identity hx
      · rfl
    | args g' m =>
      simp only [World.cell, services_modifyServices]
      split
      · next hg => subst hg; exact hargs m hx
      · rfl
    | _ => rfl
  exchanges := rfl
  clock := rfl

theorem onlyAt_counts (g : Nat) (k : ServiceKey) {counts : ExportCounts}
    (hothers : ∀ k' ≠ k, counts.count k' = (w.services g).counts.count k') :
    OnlyAt (· = .count g k) w (w.modifyServices g fun t => { t with counts }) :=
  onlyAt_modifyServices w g _ (fun k' hk => hothers k' fun h => hk (by rw [h])) (fun _ _ => rfl)
    (fun _ _ => rfl) fun _ _ => rfl

theorem onlyAt_enlist (p : Provider) : OnlyAt (· = .entry p.group p.number) w (w.enlist p) := by
  refine onlyAt_modifyServices w p.group _ (fun _ _ => rfl) (fun m hm => ?_) (fun _ _ => rfl)
    fun _ _ => rfl
  have hne : p.number ≠ m := fun h => hm (by rw [h])
  simp [Std.ExtTreeMap.getElem?_insert, hne]

theorem onlyAt_delist (p : Provider) : OnlyAt (· = .entry p.group p.number) w (w.delist p) := by
  refine onlyAt_modifyServices w p.group _ (fun _ _ => rfl) (fun m hm => ?_) (fun _ _ => rfl)
    fun _ _ => rfl
  have hne : p.number ≠ m := fun h => hm (by rw [h])
  simp [Std.ExtTreeMap.getElem?_erase, hne]

theorem params_recordAll_of_ne (t : MethodArgs) {i : Interface} {m : MethodId}
    (hm : m.interface ≠ i.id) : (t.recordAll i).params[m]? = t.params[m]? := by
  rw [MethodArgs.recordAll]
  generalize i.methods = methods
  induction methods generalizing t with
  | nil => rfl
  | cons method rest ih =>
    have hfirst : (t.record i.id method).params[m]? = t.params[m]? := by
      have hne : (⟨i.id, method.name⟩ : MethodId) ≠ m := fun h => hm (by rw [← h])
      simp [MethodArgs.record, Std.ExtTreeMap.getElem?_insert, hne]
    exact (ih _).trans hfirst

/-- What is on record for a method of an interface depends on what was on record for it. -/
theorem params_recordAll_congr {t t' : MethodArgs} (i : Interface) {m : MethodId}
    (h : t'.params[m]? = t.params[m]?) :
    (t'.recordAll i).params[m]? = (t.recordAll i).params[m]? := by
  rw [MethodArgs.recordAll, MethodArgs.recordAll]
  generalize i.methods = methods
  induction methods generalizing t t' with
  | nil => exact h
  | cons method rest ih =>
    refine ih ?_
    simp only [MethodArgs.record, Std.ExtTreeMap.getElem?_insert]
    split
    · rfl
    · exact h

theorem onlyAt_recordAll (g : Nat) (i : Interface) :
    OnlyAt (fun x => ∃ m : MethodId, m.interface = i.id ∧ x = .args g m) w
      (w.modifyServices g fun t => { t with args := t.args.recordAll i }) := by
  refine onlyAt_modifyServices w g _ (fun _ _ => rfl) (fun _ _ => rfl) (fun _ _ => rfl)
    fun m hm => ?_
  exact params_recordAll_of_ne _ fun hown => hm ⟨m, hown, rfl⟩

/-- Two tables that count a key alike admit it alike. -/
theorem ExportCounts.acquire_alike (t : ExportCounts) {t' : ExportCounts} {k : ServiceKey}
    (h : t'.count k = t.count k) (limit : Int) :
    (∃ e, t.acquire k limit = .error e ∧ t'.acquire k limit = .error e) ∨
      ∃ n t₁ t₁', t.acquire k limit = .ok (n, t₁) ∧ t'.acquire k limit = .ok (n, t₁') ∧
        t₁'.count k = t₁.count k ∧ (∀ k' ≠ k, t₁.count k' = t.count k') ∧
        ∀ k' ≠ k, t₁'.count k' = t'.count k' := by
  by_cases hfull : 0 < limit ∧ limit < (t.count k + 1 : Nat)
  · exact .inl ⟨_, if_pos hfull, if_pos (by rwa [h])⟩
  · refine .inr ⟨t.count k + 1, _, _, if_neg hfull,
      acquire_eq_ok_iff.2 ⟨by omega, by rw [h], rfl⟩, ?_, fun k' hk => ?_, fun k' hk => ?_⟩
    · rw [count_put, count_put, if_pos rfl, if_pos rfl, h]
    · rw [count_put, if_neg (Ne.symm hk)]
    · rw [count_put, if_neg (Ne.symm hk)]

end Writes

section Calls

/-- The cell of the server or registry that a call addresses. -/
def Call.cell : Call → Cell ι
  | .server s _ => .server s.serial
  | .registry g r _ => .registry g r.identity

theorem Call.For.of_cell {c : Call} {p : Provider} (hc : c.For p) (keeper : Call → ι) :
    (c.cell : Cell ι).Of p keeper := by
  cases c with
  | server s request => exact ⟨s, hc, rfl⟩
  | registry g r request => exact hc

variable (w w' : World (ι → τ))

theorem onlyAt_modifyRegistry (g : Nat) (identity : String)
    (f : List ServiceKey → List ServiceKey) :
    OnlyAt (· = .registry g identity) w (w.modifyRegistry g identity f) := by
  refine onlyAt_modifyServices w g _ (fun _ _ => rfl) (fun _ _ => rfl) (fun identity' hx => ?_)
    fun _ _ => rfl
  have hne : identity ≠ identity' := fun h => hx (by rw [h])
  simp [Std.ExtTreeMap.getElem?_modify, hne]

/-- The effect of a call is confined to whom it addresses. -/
theorem onlyAt_accept (c : Call) : OnlyAt (· = c.cell) w (w.accept c) := by
  have hrefl : OnlyAt (· = c.cell) w w := ⟨fun _ _ => rfl, rfl, rfl⟩
  cases c with
  | server s request =>
    cases request with
    | create =>
      refine ⟨fun x hx => ?_, rfl, rfl⟩
      cases x with
      | server n =>
        have hn : s.serial ≠ n := fun hn => hx (by rw [← hn]; rfl)
        simp [World.cell, accept, Std.ExtTreeMap.getElem?_insert, hn]
      | _ => rfl
    | register view v => exact onlyAt_modifyServer w s.serial _
    | start => exact hrefl
    | unregister view close => exact onlyAt_modifyServer w s.serial _
  | registry g r request =>
    cases request with
    | create =>
      refine onlyAt_modifyServices w g
        (fun t => { t with registries := t.registries.insert r.identity ⟨r, []⟩ })
        (fun _ _ => rfl) (fun _ _ => rfl) (fun identity hx => ?_) fun _ _ => rfl
      have hne : r.identity ≠ identity := fun h => hx (by rw [← h]; rfl)
      simp [Std.ExtTreeMap.getElem?_insert, hne]
    | init => exact hrefl
    | start => exact hrefl
    | register view =>
      rw [accept]
      exact onlyAt_modifyRegistry w g r.identity _
    | unregister view =>
      rw [accept]
      exact onlyAt_modifyRegistry w g r.identity _

variable {w w'}

theorem cell_modifyRegistry_congr {g : Nat} {identity : String}
    (f : List ServiceKey → List ServiceKey)
    (h : w'.cell (.registry g identity) = w.cell (.registry g identity)) :
    (w'.modifyRegistry g identity f).cell (.registry g identity) =
      (w.modifyRegistry g identity f).cell (.registry g identity) := by
  simp only [World.cell] at h
  simp [World.cell, modifyRegistry, h]

theorem cell_modifyServer_congr {n : Nat} (f : Processors → Processors)
    (h : w'.cell (.server n) = w.cell (.server n)) :
    (w'.modifyServer n f).cell (.server n) = (w.modifyServer n f).cell (.server n) := by
  simp only [World.cell] at h
  simp [World.cell, modifyServer, h]

/-- What a call does to whom it addresses depends on nobody else. -/
theorem cell_accept_congr {c : Call} (h : w'.cell c.cell = w.cell c.cell) :
    (w'.accept c).cell c.cell = (w.accept c).cell c.cell := by
  cases c with
  | server s request =>
    cases request with
    | create => simp [World.cell, accept, Call.cell]
    | register view v => exact cell_modifyServer_congr _ h
    | start => exact h
    | unregister view close => exact cell_modifyServer_congr _ h
  | registry g r request =>
    cases request with
    | create => simp [World.cell, accept, Call.cell]
    | init => exact h
    | start => exact h
    | register view =>
      rw [accept, accept]
      exact cell_modifyRegistry_congr _ h
    | unregister view =>
      rw [accept, accept]
      exact cell_modifyRegistry_congr _ h

variable [DecidableEq ι] (a : AnswerPattern τ) (keeper : Call → ι) (c : Call)

theorem cell_asked_of_ne {x : Cell ι} (hx : x ≠ .keeper (keeper c)) :
    (w.asked (a.askBy keeper) c).cell x = w.cell x := by
  cases x with
  | keeper i => exact Function.update_of_ne (fun h => hx (by rw [h])) ..
  | _ => rfl

theorem cell_asked_keeper :
    (w.asked (a.askBy keeper) c).cell (.keeper (keeper c)) = (a c (w.outside (keeper c))).2 :=
  Function.update_self ..

end Calls

end ServicePublisher
