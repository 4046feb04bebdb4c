import ServicePublisher.Proofs.Cells
import ServicePublisher.Proofs.Stock

/-! Providers that have nothing in common. What one does reads and writes its own cells only, so two
that share no cell can act in either order: both orders give the same results, show every
collaborator the same calls, and end in the same state. -/
namespace ServicePublisher

open World

variable {ι τ : Type}

section Turns

variable {α : Type} {f g : α → Bool}

theorem getElem?_findIdxNth (xs : List α) (n : Nat) :
    xs[xs.findIdxNth f n]? = (xs.filter f)[n]? := by
  induction xs generalizing n with
  | nil => rfl
  | cons x xs ih =>
    cases hx : f x with
    | false => rw [List.findIdxNth_cons_of_neg hx, List.getElem?_cons_succ, ih]; simp [hx]
    | true =>
      rw [List.findIdxNth_cons_of_pos hx, List.filter_cons_of_pos hx]
      cases n with
      | zero => rfl
      | succ n => simpa using ih n

theorem filter_eraseIdx_findIdxNth (xs : List α) (n : Nat) :
    (xs.eraseIdx (xs.findIdxNth f n)).filter f = (xs.filter f).eraseIdx n := by
  induction xs generalizing n with
  | nil => rfl
  | cons x xs ih =>
    cases hx : f x with
    | false =>
      rw [List.findIdxNth_cons_of_neg hx, List.eraseIdx_cons_succ, List.filter_cons, hx, ih]
      simp [hx]
    | true =>
      rw [List.findIdxNth_cons_of_pos hx, List.filter_cons_of_pos hx]
      cases n with
      | zero => rfl
      | succ n => simpa [hx] using ih n

theorem filter_eraseIdx_findIdxNth_of_disjoint (hdisjoint : ∀ x, f x = true → g x = false)
    (xs : List α) (n : Nat) : (xs.eraseIdx (xs.findIdxNth f n)).filter g = xs.filter g := by
  induction xs generalizing n with
  | nil => rfl
  | cons x xs ih =>
    cases hx : f x with
    | false =>
      rw [List.findIdxNth_cons_of_neg hx, List.eraseIdx_cons_succ, List.filter_cons, ih,
        List.filter_cons]
    | true =>
      rw [List.findIdxNth_cons_of_pos hx, List.filter_cons_of_neg (by simp [hdisjoint x hx])]
      cases n with
      | zero => rfl
      | succ n =>
        have hrest : ((x :: xs.eraseIdx (xs.findIdxNth f n)).filter g) = xs.filter g := by
          rw [List.filter_cons_of_neg (by simp [hdisjoint x hx]), ih]
        simpa using hrest

end Turns

section Abreast

variable {p : Provider} {keeper : Call → ι} {v v' w w' w₁ w₁' : World (ι → τ)}
  {changed : Cell ι → Prop}

/-- Two states that one provider has reached from two others by doing the same: its own cells agree,
all others are as they were, and the calls made since are the same calls, to collaborators that the
provider names. -/
structure Abreast (p : Provider) (keeper : Call → ι) (v v' w w' : World (ι → τ)) : Prop where
  own : ∀ x, Cell.Of p keeper x → w'.cell x = w.cell x
  left : ∀ x, ¬Cell.Of p keeper x → w.cell x = v.cell x
  right : ∀ x, ¬Cell.Of p keeper x → w'.cell x = v'.cell x
  clock : w'.clock = w.clock
  clock_left : w.clock = v.clock
  made : ∃ made, Makes v w made ∧ Makes v' w' made ∧ ∀ x ∈ made, x.1.For p
  filed : Filed w
  scheduled : ∀ s ∈ w.cell (.schedule p.number), s.provider = p

namespace Abreast

/-- What is written to own cells, the same on both sides. -/
theorem write (h : Abreast p keeper v v' w w') (hchanged : ∀ x, changed x → Cell.Of p keeper x)
    (hw : OnlyAt changed w w₁) (hw' : OnlyAt changed w' w₁')
    (hsame : ∀ x, changed x → w₁'.cell x = w₁.cell x) (hfiled : Filed w₁)
    (hscheduled : ∀ s ∈ w₁.cell (.schedule p.number), s.provider = p) :
    Abreast p keeper v v' w₁ w₁' where
  own x hx := by
    by_cases hc : changed x
    · exact hsame x hc
    · rw [hw'.cells x hc, hw.cells x hc, h.own x hx]
  left x hx := by rw [hw.cells x fun hc => hx (hchanged x hc), h.left x hx]
  right x hx := by rw [hw'.cells x fun hc => hx (hchanged x hc), h.right x hx]
  clock := by rw [hw'.clock, hw.clock, h.clock]
  clock_left := by rw [hw.clock, h.clock_left]
  made := by
    obtain ⟨made, hmade, hmade', hfor⟩ := h.made
    exact ⟨made, hmade.trans_eq hw.exchanges, hmade'.trans_eq hw'.exchanges, hfor⟩
  filed := hfiled
  scheduled := hscheduled

/-- What is written neither to registries nor to the schedule. -/
theorem note (h : Abreast p keeper v v' w w') (hchanged : ∀ x, changed x → Cell.Of p keeper x)
    (hw : OnlyAt changed w w₁) (hw' : OnlyAt changed w' w₁')
    (hsame : ∀ x, changed x → w₁'.cell x = w₁.cell x)
    (hregistries : ∀ g identity, ¬changed (.registry g identity))
    (hschedule : ∀ n, ¬changed (.schedule n)) : Abreast p keeper v v' w₁ w₁' := by
  refine h.write hchanged hw hw' hsame (fun g identity y hy => ?_) fun s hs => ?_
  · have hcell := hw.cells _ (hregistries g identity)
    exact h.filed g identity y (hcell.symm.trans hy)
  · rw [hw.cells _ (hschedule p.number)] at hs
    exact h.scheduled s hs

theorem log (h : Abreast p keeper v v' w w') (n : Notice) :
    Abreast p keeper v v' (w.log n) (w'.log n) :=
  h.note (fun _ => False.elim) (onlyAt_log w n) (onlyAt_log w' n) (fun _ => False.elim)
    (fun _ _ => id) fun _ => id

theorem provider (h : Abreast p keeper v v' w w') : w'.provider p = w.provider p :=
  congrArg (fun s : Option ProviderState => s.getD {}) (h.own (.provider p.number) rfl)

theorem config (h : Abreast p keeper v v' w w') : w'.config p.config = w.config p.config :=
  congrArg (fun s : Option ConfigState => s.getD { attributes := p.config.attributes })
    (h.own (.config p.config.serial) rfl)

theorem count (h : Abreast p keeper v v' w w') :
    (w'.services p.group).counts.count p.config.key =
      (w.services p.group).counts.count p.config.key :=
  h.own (.count p.group p.config.key) ⟨rfl, rfl⟩

theorem registry (h : Abreast p keeper v v' w w') {r : RegistryConfig}
    (hr : r ∈ p.config.announcedIn) :
    (w'.services p.group).registries[r.identity]? = (w.services p.group).registries[r.identity]? :=
  h.own (.registry p.group r.identity) ⟨rfl, r, hr, rfl⟩

theorem schedule (h : Abreast p keeper v v' w w') :
    (w'.scheduled.filter fun s => s.provider.number == p.number) =
      w.scheduled.filter fun s => s.provider.number == p.number :=
  h.own (.schedule p.number) rfl

theorem modifyProvider (h : Abreast p keeper v v' w w') (f : ProviderState → ProviderState) :
    Abreast p keeper v v' (w.modifyProvider p f) (w'.modifyProvider p f) := by
  refine h.note ?_ (onlyAt_modifyProvider w p f) (onlyAt_modifyProvider w' p f) ?_
    (fun _ _ => nofun) fun _ => nofun
  · rintro _ rfl
    rfl
  · rintro _ rfl
    simp [World.cell, World.modifyProvider, h.provider]

theorem modifyConfig (h : Abreast p keeper v v' w w') (f : ConfigState → ConfigState) :
    Abreast p keeper v v' (w.modifyConfig p.config f) (w'.modifyConfig p.config f) := by
  refine h.note ?_ (onlyAt_modifyConfig w p.config f) (onlyAt_modifyConfig w' p.config f) ?_
    (fun _ _ => nofun) fun _ => nofun
  · rintro _ rfl
    rfl
  · rintro _ rfl
    simp [World.cell, World.modifyConfig, h.config]

theorem recordArgs (h : Abreast p keeper v v' w w') :
    Abreast p keeper v v'
      (w.modifyServices p.group fun t => { t with args := t.args.recordAll p.config.interface })
      (w'.modifyServices p.group fun t =>
        { t with args := t.args.recordAll p.config.interface }) := by
  refine h.note ?_ (onlyAt_recordAll w p.group p.config.interface)
    (onlyAt_recordAll w' p.group p.config.interface) ?_ ?_ ?_
  · rintro _ ⟨m, hm, rfl⟩
    exact ⟨rfl, hm⟩
  · rintro _ ⟨m, hm, rfl⟩
    have hargs : (w'.services p.group).args.params[m]? = (w.services p.group).args.params[m]? :=
      h.own (.args p.group m) ⟨rfl, hm⟩
    simpa [World.cell] using params_recordAll_congr p.config.interface hargs
  · rintro g identity ⟨m, -, hx⟩
    cases hx
  · rintro n ⟨m, -, hx⟩
    cases hx

/-- Another count of the key of the provider, the same on both sides. -/
theorem recount (h : Abreast p keeper v v' w w') {counts counts' : ExportCounts}
    (hothers : ∀ k ≠ p.config.key, counts.count k = (w.services p.group).counts.count k)
    (hothers' : ∀ k ≠ p.config.key, counts'.count k = (w'.services p.group).counts.count k)
    (hsame : counts'.count p.config.key = counts.count p.config.key) :
    Abreast p keeper v v' (w.modifyServices p.group fun t => { t with counts })
      (w'.modifyServices p.group fun t => { t with counts := counts' }) := by
  refine h.note ?_ (onlyAt_counts w p.group p.config.key hothers)
    (onlyAt_counts w' p.group p.config.key hothers') ?_ (fun _ _ => nofun) fun _ => nofun
  · rintro _ rfl
    exact ⟨rfl, rfl⟩
  · rintro _ rfl
    simpa [World.cell] using hsame

theorem acquire (h : Abreast p keeper v v' w w') (limit : Int) :
    (w.acquire p.group p.config.key limit).Paired (Abreast p keeper v v')
      (w'.acquire p.group p.config.key limit) := by
  have hcourses := (w.services p.group).counts.acquire_alike h.count limit
  rw [World.acquire, World.acquire]
  obtain ⟨e, herror, herror'⟩ | ⟨n, t, t', hok, hok', hsame, hothers, hothers'⟩ := hcourses
  · rw [herror, herror']
    exact .mk _ h
  · rw [hok, hok']
    exact .mk _ (h.recount hothers hothers' hsame)

theorem release (h : Abreast p keeper v v' w w') :
    (w'.release p.group p.config.key).1 = (w.release p.group p.config.key).1 ∧
      Abreast p keeper v v' (w.release p.group p.config.key).2
        (w'.release p.group p.config.key).2 := by
  constructor
  · rw [World.release, World.release, ExportCounts.fst_release, ExportCounts.fst_release, h.count]
  · refine h.recount (fun k hk => ?_) (fun k hk => ?_) ?_
    · rw [ExportCounts.count_release, if_neg (Ne.symm hk)]
    · rw [ExportCounts.count_release, if_neg (Ne.symm hk)]
    · rw [ExportCounts.count_release, ExportCounts.count_release, if_pos rfl, if_pos rfl, h.count]

theorem enlist (h : Abreast p keeper v v' w w') :
    Abreast p keeper v v' (w.enlist p) (w'.enlist p) := by
  refine h.note ?_ (onlyAt_enlist w p) (onlyAt_enlist w' p) ?_ (fun _ _ => nofun) fun _ => nofun
  · rintro _ rfl
    exact ⟨rfl, rfl⟩
  · rintro _ rfl
    simp [World.cell, World.enlist]

theorem delist (h : Abreast p keeper v v' w w') :
    Abreast p keeper v v' (w.delist p) (w'.delist p) := by
  refine h.note ?_ (onlyAt_delist w p) (onlyAt_delist w' p) ?_ (fun _ _ => nofun) fun _ => nofun
  · rintro _ rfl
    exact ⟨rfl, rfl⟩
  · rintro _ rfl
    simp [World.cell, World.delist]

theorem enrolled (h : Abreast p keeper v v' w w') :
    Abreast p keeper v v' (w.enrolled p) (w'.enrolled p) := by
  have hothers (w : World (ι → τ)) : OnlyAt (· = .schedule p.number) w (w.enrolled p) := by
    refine onlyAt_schedule w fun m hm => ?_
    rw [List.filter_append, List.filter_cons_of_neg (by simpa using Ne.symm hm)]
    simp
  refine h.write ?_ (hothers w) (hothers w') ?_ h.filed ?_
  · rintro _ rfl
    rfl
  · rintro _ rfl
    simp [World.cell, World.enrolled, h.schedule, h.provider, h.clock]
  · intro s hs
    obtain ⟨hs, hnumber⟩ := List.mem_filter.1 hs
    obtain hs | hs := List.mem_append.1 hs
    · exact h.scheduled s (List.mem_filter.2 ⟨hs, hnumber⟩)
    · rw [List.mem_singleton.1 hs]

/-- The publication at a turn of the provider is in its own cell. -/
theorem getElem?_turn (w : World (ι → τ)) (p : Provider) (n : Nat) :
    w.scheduled[w.turn p n]? = (w.cell (.schedule p.number))[n]? :=
  getElem?_findIdxNth _ n

theorem unscheduled (h : Abreast p keeper v v' w w') (n : Nat) :
    Abreast p keeper v v' (w.unscheduled (w.turn p n)) (w'.unscheduled (w'.turn p n)) := by
  have hothers (w : World (ι → τ)) :
      OnlyAt (· = .schedule p.number) w (w.unscheduled (w.turn p n)) := by
    refine onlyAt_schedule w fun m hm => ?_
    refine filter_eraseIdx_findIdxNth_of_disjoint (fun s hs => ?_) _ n
    rw [eq_of_beq hs]
    simpa using Ne.symm hm
  have hown (w : World (ι → τ)) : (w.unscheduled (w.turn p n)).cell (.schedule p.number) =
      (w.cell (.schedule p.number)).eraseIdx n := filter_eraseIdx_findIdxNth _ n
  refine h.write ?_ (hothers w) (hothers w') ?_ h.filed ?_
  · rintro _ rfl
    rfl
  · rintro _ rfl
    rw [hown, hown, h.own (.schedule p.number) rfl]
  · intro s hs
    rw [hown] at hs
    exact h.scheduled s (List.mem_of_mem_eraseIdx hs)

theorem alive (h : Abreast p keeper v v' w w') : w'.isAlive p = w.isAlive p := by
  have hany (w : World (ι → τ)) : w.scheduled.any (·.provider.number == p.number) =
      !(w.cell (.schedule p.number)).isEmpty := by
    rw [World.cell]
    generalize w.scheduled = scheduled
    induction scheduled with
    | nil => rfl
    | cons s rest ih =>
      rw [List.any_cons, ih, List.filter_cons]
      split <;> simp_all
  have hentry : (w'.services p.group).published[p.number]? =
      (w.services p.group).published[p.number]? := h.own (.entry p.group p.number) ⟨rfl, rfl⟩
  rw [isAlive, isAlive, h.provider, hany, hany, h.own (.schedule p.number) rfl,
    Std.ExtTreeMap.contains_eq_isSome_getElem?, Std.ExtTreeMap.contains_eq_isSome_getElem?, hentry]

variable [DecidableEq ι] (a : AnswerPattern τ)

/-- A call to a collaborator of the provider is answered the same, and has the same effect. -/
theorem call (h : Abreast p keeper v v' w w') {c : Call} (hc : c.For p) :
    (w.perform (a.askBy keeper) c).Paired (Abreast p keeper v v')
      (w'.perform (a.askBy keeper) c) := by
  have hkeeper : Cell.Of p keeper (.keeper (keeper c)) := ⟨c, hc, rfl⟩
  have hstate : w'.outside (keeper c) = w.outside (keeper c) := h.own (.keeper (keeper c)) hkeeper
  have hanswer : (a.askBy keeper c w'.outside).1 = (a.askBy keeper c w.outside).1 :=
    congrArg (fun s => (a c s).1) hstate
  -- To answer changes the state of the keeper only, which is a cell of the provider.
  have hasked : Abreast p keeper v v' (w.asked (a.askBy keeper) c)
      (w'.asked (a.askBy keeper) c) := by
    refine ⟨fun x hx => ?_, fun x hx => ?_, fun x hx => ?_, h.clock, h.clock_left, ?_, h.filed,
      h.scheduled⟩
    · by_cases hxk : x = .keeper (keeper c)
      · subst hxk
        rw [cell_asked_keeper, cell_asked_keeper, hstate]
      · rw [cell_asked_of_ne a keeper c hxk, cell_asked_of_ne a keeper c hxk, h.own x hx]
    · have hxk : x ≠ .keeper (keeper c) := fun hxk => hx (by rwa [hxk])
      rw [cell_asked_of_ne a keeper c hxk, h.left x hx]
    · have hxk : x ≠ .keeper (keeper c) := fun hxk => hx (by rwa [hxk])
      rw [cell_asked_of_ne a keeper c hxk, h.right x hx]
    · obtain ⟨made, hmade, hmade', hfor⟩ := h.made
      refine ⟨made ++ [(c, (a.askBy keeper c w.outside).1)], hmade.trans (exchanges_asked ..), ?_,
        fun x hx => ?_⟩
      · rw [← hanswer]
        exact hmade'.trans (exchanges_asked ..)
      · obtain hx | hx := List.mem_append.1 hx
        · exact hfor x hx
        · rw [List.mem_singleton.1 hx]
          exact hc
  have hfiled := @filed_perform (ι → τ) (a.askBy keeper) w h.filed c
  have hcourse := perform_course (a.askBy keeper) w c
  have hcourse' := perform_course (a.askBy keeper) w' c
  generalize w.perform (a.askBy keeper) c = o at hcourse hfiled ⊢
  generalize w'.perform (a.askBy keeper) c = o' at hcourse' ⊢
  cases hcourse with
  | accepted hok =>
    cases hcourse' with
    | accepted hok' =>
      refine .mk _ (hasked.write ?_ (onlyAt_accept _ c) (onlyAt_accept _ c) ?_ hfiled ?_)
      · rintro _ rfl
        exact hc.of_cell keeper
      · rintro _ rfl
        exact cell_accept_congr (hasked.own _ (hc.of_cell keeper))
      · intro s hs
        refine h.scheduled s ?_
        rwa [World.cell, (sameBooks_accept _ c).scheduled] at hs
    | refused herror' => simp [hanswer, hok] at herror'
  | refused herror =>
    cases hcourse' with
    | accepted hok' => simp [hanswer, herror] at hok'
    | refused herror' =>
      rw [hanswer, herror] at herror'
      cases herror'
      exact .mk _ hasked

theorem parallel (p : Provider) (keeper : Call → ι) (v v' : World (ι → τ)) :
    ParallelInTime (a.askBy keeper) p (Abreast p keeper v v') where
  provider h := h.provider
  config h := h.config
  built h s hs := by
    have hserver := h.own (.server s.serial) ⟨s, hs, rfl⟩
    simp only [World.cell] at hserver
    rw [Std.ExtTreeMap.contains_eq_isSome_getElem?, Std.ExtTreeMap.contains_eq_isSome_getElem?,
      hserver]
  origin h r hr := by rw [origin?, origin?, h.registry hr]
  filed h := h.filed
  log h n := h.log n
  call h c hc _ := h.call a hc
  modifyProvider h f := h.modifyProvider f
  modifyConfig h f := h.modifyConfig f
  recordArgs h := h.recordArgs
  acquire h limit := h.acquire limit
  release h := h.release
  enlist h := h.enlist
  delist h := h.delist
  alive h := h.alive
  enrolled h := h.enrolled
  scheduled h n := by
    rw [getElem?_turn, getElem?_turn, h.own (.schedule p.number) rfl]
    exact ⟨rfl, fun s hs => h.scheduled s (List.mem_of_getElem? hs)⟩
  unscheduled h n := h.unscheduled n

end Abreast

end Abreast

section Deeds

/-- What can be asked of a provider, or befall it: one of the publications scheduled for it, told by
its turn among them, can come due. -/
inductive Deed where
  | publish
  | withdraw
  | notify (change : Change)
  | fire (turn : Nat)

def World.does {σ : Type} (ask : Ask σ) (p : Provider) : Deed → World σ → Outcome σ Unit
  | .publish, w => w.publish ask p
  | .withdraw, w => ⟨.ok (), w.withdraw ask p⟩
  | .notify change, w => w.notify ask p.config change
  | .fire n, w => ⟨.ok (), w.fire ask (w.turn p n)⟩

theorem ParallelInTime.does {σ : Type} {ask : Ask σ} {p : Provider} {R : World σ → World σ → Prop}
    {w w' : World σ} (h : ParallelInTime ask p R) (hw : R w w') (deed : Deed)
    (hlistener : ∀ l, (w.config p.config).listener = some l → l = .republish p) :
    (w.does ask p deed).Paired R (w'.does ask p deed) := by
  cases deed with
  | publish => exact h.publish hw
  | withdraw => exact .mk _ (h.withdraw hw)
  | notify change => exact h.notify hw change hlistener
  | fire n => exact .mk _ (h.fire hw n)

end Deeds

section Independence

variable {fleet : Fleet} {keeper : Call → ι} {a b p : Provider}

/-- Two members that have a configuration each for itself, no name in common, and no
collaborator. -/
structure Fleet.Independent (fleet : Fleet) (keeper : Call → ι) (a b : Provider) : Prop where
  different : a ≠ b
  left : a ∈ fleet.members ∧ fleet.Owns a
  right : b ∈ fleet.members ∧ fleet.Owns b
  key : a.config.key ≠ b.config.key
  interface : a.config.interface.id ≠ b.config.interface.id
  places : ∀ place : Place, place.UsedBy a → ¬place.UsedBy b
  keepers : ∀ c c' : Call, c.For a → c'.For b → keeper c ≠ keeper c'

theorem Fleet.Independent.symm (h : fleet.Independent keeper a b) :
    fleet.Independent keeper b a where
  different := h.different.symm
  left := h.right
  right := h.left
  key := h.key.symm
  interface := h.interface.symm
  places place hb ha := h.places place ha hb
  keepers c c' hb ha := (h.keepers c' c ha hb).symm

/-- Independent providers have no cell in common. -/
theorem Fleet.Independent.cell (h : fleet.Independent keeper a b) {x : Cell ι}
    (hx : x.Of a keeper) : ¬x.Of b keeper := by
  have hnumber : a.number ≠ b.number := fleet.number_ne h.left.1 h.right.1 h.different.symm
  have hserial : a.config.serial ≠ b.config.serial := by
    intro hserial
    exact h.different (h.right.2 a h.left.1 hserial)
  intro hb
  cases x with
  | provider n => exact hnumber (hx.symm.trans hb)
  | config n => exact hserial (hx.symm.trans hb)
  | count g k => exact h.key (hx.2.symm.trans hb.2)
  | entry g m => exact hnumber (hx.2.symm.trans hb.2)
  | registry g identity =>
    exact h.places (.registry g identity) ⟨hx.1.symm, hx.2⟩ ⟨hb.1.symm, hb.2⟩
  | args g m => exact h.interface (hx.2.symm.trans hb.2)
  | server n => exact h.places (.server n) hx hb
  | keeper i =>
    obtain ⟨c, hc, rfl⟩ := hx
    obtain ⟨c', hc', hsame⟩ := hb
    exact h.keepers c c' hc hc' hsame.symm
  | schedule n => exact hnumber (hx.symm.trans hb)

theorem Call.For.usedBy {c : Call} (hc : c.For p) : c.receiver.UsedBy p := by
  cases c with
  | server s request => exact ⟨s, hc, rfl⟩
  | registry g r request => exact ⟨hc.1.symm, hc.2⟩

/-- Two states whose cells hold the same are the same but for the log. -/
structure SameCells (w w' : World (ι → τ)) : Prop where
  providers : w'.providers = w.providers
  configs : w'.configs = w.configs
  services : ∀ g, w'.services g = w.services g
  servers : w'.servers = w.servers
  outside : w'.outside = w.outside
  scheduled : ∀ q : Provider, (w'.scheduled.filter fun s => s.provider.number == q.number) =
    w.scheduled.filter fun s => s.provider.number == q.number

theorem sameCells {w w' : World (ι → τ)} (h : ∀ x, w'.cell x = w.cell x) : SameCells w w' where
  providers := Std.ExtTreeMap.ext_getElem? fun n => h (.provider n)
  configs := Std.ExtTreeMap.ext_getElem? fun n => h (.config n)
  services g := by
    have hcounts : (w'.services g).counts = (w.services g).counts :=
      ExportCounts.ext_count fun k => h (.count g k)
    have hregistries : (w'.services g).registries = (w.services g).registries :=
      Std.ExtTreeMap.ext_getElem? fun identity => h (.registry g identity)
    have hpublished : (w'.services g).published = (w.services g).published :=
      Std.ExtTreeMap.ext_getElem? fun m => h (.entry g m)
    have hparams : (w'.services g).args.params = (w.services g).args.params :=
      Std.ExtTreeMap.ext_getElem? fun m => h (.args g m)
    cases hw : w.services g with
    | mk counts registries published args =>
      cases hw' : w'.services g with
      | mk counts' registries' published' args' =>
        obtain ⟨params⟩ := args
        obtain ⟨params'⟩ := args'
        simp_all
  servers := Std.ExtTreeMap.ext_getElem? fun n => h (.server n)
  outside := funext fun i => h (.keeper i)
  scheduled q := h (.schedule q.number)

/-- Nothing has been done yet in two states that hold the same for a provider. -/
theorem abreast_start {w w' : World (ι → τ)}
    (hsame : ∀ x, Cell.Of p keeper x → w'.cell x = w.cell x)
    (hclock : w'.clock = w.clock) (hfiled : Filed w)
    (hscheduled : ∀ s ∈ w.cell (.schedule p.number), s.provider = p) :
    Abreast p keeper w w' w w' where
  own := hsame
  left _ _ := rfl
  right _ _ := rfl
  clock := hclock
  clock_left := rfl
  made := ⟨[], .refl w, .refl w', fun _ hx => by cases hx⟩
  filed := hfiled
  scheduled := hscheduled

theorem Standing.scheduled_own {w : World (ι → τ)} (h : Standing fleet w) (hp : p ∈ fleet.members) :
    ∀ s ∈ w.cell (.schedule p.number), s.provider = p := by
  intro s hs
  obtain ⟨hs, hnumber⟩ := List.mem_filter.1 hs
  exact fleet.eq_of_number (h.scheduled s hs) hp (eq_of_beq hnumber)

theorem Standing.listener_own {w : World (ι → τ)} (h : Standing fleet w) (hp : p ∈ fleet.members)
    (howns : fleet.Owns p) (l : Listener) (hl : (w.config p.config).listener = some l) :
    l = .republish p := by
  rw [listener_config, h.listener p hp howns] at hl
  split at hl <;> cases hl
  rfl

variable [DecidableEq ι]

/-- What one of two independent providers does leads abreast from before and after what the other
does, and the results are the same. -/
theorem Fleet.Independent.abreast {w : World (ι → τ)} (h : fleet.Independent keeper a b)
    (hw : Standing fleet w) (answers : AnswerPattern τ) (first second : Deed) :
    (w.does (answers.askBy keeper) a first).Paired
      (Abreast a keeper w (w.does (answers.askBy keeper) b second).world)
      ((w.does (answers.askBy keeper) b second).world.does (answers.askBy keeper) a first) := by
  have hstill : Abreast b keeper w w (w.does (answers.askBy keeper) b second).world
      (w.does (answers.askBy keeper) b second).world :=
    ((Abreast.parallel answers b keeper w w).does
      (abreast_start (fun _ _ => rfl) rfl hw.filed (hw.scheduled_own h.right.1)) second
      (hw.listener_own h.right.1 h.right.2)).world
  exact (Abreast.parallel answers a keeper _ _).does
    (abreast_start (fun x hx => hstill.left x (h.cell hx)) hstill.clock_left hw.filed
      (hw.scheduled_own h.left.1)) first (hw.listener_own h.left.1 h.left.2)

/-- Whoever hears of one provider at most hears the same in either order. -/
theorem heardBy_swapped {first second : List Exchange} {place : Place}
    (hplaces : place.UsedBy a → ¬place.UsedBy b) (hfirst : ∀ x ∈ first, x.1.For a)
    (hsecond : ∀ x ∈ second, x.1.For b) :
    heardBy place (first ++ second) = heardBy place (second ++ first) := by
  have hnothing {p : Provider} {made : List Exchange} (hmade : ∀ x ∈ made, x.1.For p)
      (hp : ¬place.UsedBy p) : heardBy place made = [] :=
    heardBy_eq_nil fun x hx hplace => hp (hplace ▸ (hmade x hx).usedBy)
  rw [heardBy_append, heardBy_append]
  by_cases ha : place.UsedBy a
  · rw [hnothing hsecond (hplaces ha)]
    simp
  · rw [hnothing hfirst ha]
    simp

/-- Two independent providers of a fleet, in a state that a run reaches with any collaborators at
all, while everybody now answers from what it has been asked itself: whatever each of the two does,
either order gives the same results, lets every server and every registry hear the same calls with
the same answers in the same order, and ends with the same in all tables, configurations, servers
and providers, and with the same scheduled for each. -/
theorem independent_commute (h : fleet.Independent keeper a b) (before : Ask (ι → τ))
    (outside : ι → τ) {ops : List Operation} (hops : ∀ op ∈ ops, op.Within fleet)
    (answers : AnswerPattern τ) (first second : Deed) :
    let ask := answers.askBy keeper
    let w := run before ops (World.start outside)
    let ab := (w.does ask a first).world.does ask b second
    let ba := (w.does ask b second).world.does ask a first
    ba.result = (w.does ask a first).result ∧ ab.result = (w.does ask b second).result ∧
      (∀ place, heardBy place ab.world.exchanges = heardBy place ba.world.exchanges) ∧
      SameCells ba.world ab.world ∧ ab.world.clock = ba.world.clock := by
  intro ask w ab ba
  have hw : Standing fleet w := standing_run before outside hops
  have hfirst := h.abreast hw answers first second
  have hsecond := h.symm.abreast hw answers second first
  have ha := hfirst.world
  have hb := hsecond.world
  refine ⟨hfirst.result, hsecond.result, fun place => ?_, sameCells fun x => ?_, ?_⟩
  · obtain ⟨made, hmade, hmade', hfor⟩ := ha.made
    obtain ⟨later, hlater, hlater', hfor'⟩ := hb.made
    have hab : ab.world.exchanges = w.exchanges ++ (made ++ later) := hmade.trans hlater'
    have hba : ba.world.exchanges = w.exchanges ++ (later ++ made) := hlater.trans hmade'
    rw [hab, hba, heardBy_append, heardBy_swapped (h.places place) hfor hfor', ← heardBy_append]
  · by_cases hxa : x.Of a keeper
    · exact (hb.right x (h.cell hxa)).trans (ha.own x hxa).symm
    · by_cases hxb : x.Of b keeper
      · exact (hb.own x hxb).trans (ha.right x hxa).symm
      · rw [hb.right x hxb, ha.left x hxa, ha.right x hxa, hb.left x hxb]
  · exact (hb.clock.trans hb.clock_left).trans (ha.clock.trans ha.clock_left).symm

/-- A provider that has been published is withdrawn, and another one is published: the first server
refuses its second call, the other one none. -/
theorem independent_commute_pair :
    let a := smallProvider 0 [smallServer 0] [] 1
    let b : Provider := ⟨1, 0, { (smallProvider 1 [smallServer 1] [] 1).config with
      interface := ⟨"demo.Clock", "Clock", []⟩
      implementation := some ⟨"Clock"⟩ }⟩
    let fleet := Fleet.pair a b rfl (by decide)
    let ops : List Operation := [.publish a]
    let answers : AnswerPattern Nat := fun _ n =>
      (if n = 2 then some (.runtime "refused" none) else none, n + 1)
    let ask := answers.askBy Call.receiver
    let w := run ask ops (World.start fun _ => 0)
    (∀ op ∈ ops, op.Within fleet) ∧ fleet.Independent Call.receiver a b ∧
      ((w.does ask b .publish).world.does ask a .withdraw).world.isPublished b =
        ((w.does ask a .withdraw).world.does ask b .publish).world.isPublished b := by
  intro a b fleet ops answers ask w
  have hops : ∀ op ∈ ops, op.Within fleet := by
    simp [ops, Operation.Within, fleet, Fleet.pair]
  have hserial : a.config.serial ≠ b.config.serial := by decide
  have hplaces : ∀ place : Place, place.UsedBy a → ¬place.UsedBy b := by
    rintro (n | ⟨g, identity⟩) ha hb
    · simp [Place.UsedBy, Place.Among, a, b, smallProvider, smallServer] at ha hb
      omega
    · simp [Place.UsedBy, Place.Among, a, smallProvider, ProviderConfig.announcedIn] at ha
  have hkeepers : ∀ c c' : Call, c.For a → c'.For b → c.receiver ≠ c'.receiver :=
    fun c c' hc hc' hsame => hplaces c.receiver hc.usedBy (hsame ▸ hc'.usedBy)
  have h : fleet.Independent Call.receiver a b :=
    ⟨fun heq => absurd (congrArg Provider.number heq) (by decide),
      ⟨List.mem_cons_self, Fleet.owns_pair a b rfl (by decide) hserial List.mem_cons_self⟩,
      ⟨List.mem_cons_of_mem a List.mem_cons_self, Fleet.owns_pair a b rfl (by decide) hserial
        (List.mem_cons_of_mem a List.mem_cons_self)⟩, by decide, by decide, hplaces, hkeepers⟩
  obtain ⟨-, -, -, hcells, -⟩ :=
    independent_commute h ask (fun _ => 0) hops answers .withdraw .publish
  refine ⟨hops, h, ?_⟩
  rw [isPublished, isPublished, provider, provider, hcells.providers]

end Independence

end ServicePublisher
