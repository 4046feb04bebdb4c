import Mathlib.Data.Finset.Card
import Mathlib.Data.List.Dedup
import ServicePublisher.Proofs.Access
import ServicePublisher.Proofs.ByteOrder

/-! Decisions on the methods of an interface, in which names may be declared more than once. The
first declaration of a name decides, every further one is warned of, and the last one says what
parameters the method takes. -/
namespace ServicePublisher

/-- A name is declared for the second time at a position. -/
def SecondAt (names : List String) (name : String) (j : Nat) : Prop :=
  names[j]? = some name ∧ (names.take j).count name = 1

/-- The first name is declared for the second time before the second name is. -/
def SecondsBefore (names : List String) (a b : String) : Prop :=
  ∃ j k, SecondAt names a j ∧ SecondAt names b k ∧ j < k

/-- The names declared more than once, in the order of their second declarations. -/
structure Overloads (names overloaded : List String) : Prop where
  mem : ∀ m, m ∈ overloaded ↔ 1 < names.count m
  nodup : overloaded.Nodup
  placed : ∀ m ∈ overloaded, ∃ j, SecondAt names m j
  ordered : overloaded.Pairwise (SecondsBefore names)

section Overloading

variable {names overloaded : List String} {name a b : String} {j : Nat}

theorem SecondAt.lt (h : SecondAt names name j) : j < names.length :=
  (List.getElem?_eq_some_iff.1 h.1).1

theorem SecondAt.append (h : SecondAt names name j) (more : List String) :
    SecondAt (names ++ more) name j := by
  refine ⟨?_, ?_⟩
  · rw [List.getElem?_append_left h.lt, h.1]
  · rw [List.take_append_of_le_length (Nat.le_of_lt h.lt), h.2]

theorem secondAt_concat (h : names.count name = 1) :
    SecondAt (names ++ [name]) name names.length := by
  refine ⟨List.getElem?_concat_length, ?_⟩
  rw [List.take_left, h]

theorem SecondsBefore.append (h : SecondsBefore names a b) (more : List String) :
    SecondsBefore (names ++ more) a b := by
  obtain ⟨j, k, hj, hk, hlt⟩ := h
  exact ⟨j, k, hj.append more, hk.append more, hlt⟩

theorem count_concat (names : List String) (name m : String) :
    (names ++ [name]).count m = names.count m + if name = m then 1 else 0 := by
  rw [List.count_append, List.count_singleton]
  simp only [beq_iff_eq]

theorem Overloads.nil : Overloads [] [] := ⟨fun m => by simp, .nil, nofun, .nil⟩

/-- A name that is new, or counts as overloaded already, adds none. -/
theorem Overloads.keep (h : Overloads names overloaded)
    (hname : name ∉ names ∨ name ∈ overloaded) : Overloads (names ++ [name]) overloaded where
  mem m := by
    rw [h.mem, count_concat]
    split
    · next hm =>
      subst hm
      obtain hnew | hold := hname
      · simp [List.count_eq_zero_of_not_mem hnew]
      · have hmany := (h.mem name).1 hold
        omega
    · rfl
  nodup := h.nodup
  placed m hm := by
    obtain ⟨j, hj⟩ := h.placed m hm
    exact ⟨j, hj.append [name]⟩
  ordered := h.ordered.imp fun hab => hab.append [name]

/-- A name declared for the second time is the last of the overloaded names. -/
theorem Overloads.concat (h : Overloads names overloaded) (hname : name ∈ names)
    (hnew : name ∉ overloaded) : Overloads (names ++ [name]) (overloaded ++ [name]) := by
  have honce : names.count name = 1 := by
    have hpos := List.count_pos_iff.2 hname
    have hfew := mt (h.mem name).2 hnew
    omega
  have hsecond := secondAt_concat honce
  refine ⟨fun m => ?_, ?_, fun m hm => ?_, ?_⟩
  · rw [List.mem_append, List.mem_singleton, h.mem, count_concat]
    split
    · next hm =>
      subst hm
      exact iff_of_true (.inr rfl) (by omega)
    · next hm => simp [Ne.symm hm]
  · rw [← List.concat_eq_append]
    exact h.nodup.concat hnew
  · obtain hm | hm := List.mem_append.1 hm
    · obtain ⟨j, hj⟩ := h.placed m hm
      exact ⟨j, hj.append [name]⟩
    · obtain rfl := List.mem_singleton.1 hm
      exact ⟨_, hsecond⟩
  · refine List.pairwise_append.2 ⟨h.ordered.imp fun hab => hab.append [name],
      List.pairwise_singleton _ _, fun m hm x hx => ?_⟩
    obtain rfl := List.mem_singleton.1 hx
    obtain ⟨j, hj⟩ := h.placed m hm
    exact ⟨j, names.length, hj.append [x], hsecond, hj.lt⟩

end Overloading

namespace MethodPolicy

section Resolution

variable (decide : String → Bool)

theorem contains_foldl_meet (names : List String) (m : String) :
    (names.foldl (meet decide) ∅).decisions.contains m = true ↔ m ∈ names := by
  rw [Std.ExtTreeMap.contains_eq_isSome_getElem?, decisions_foldl_meet, decisions_empty,
    Option.none_or]
  split <;> simp_all

theorem overloads_foldl_meet (names : List String) :
    Overloads names (names.foldl (meet decide) ∅).overloaded := by
  induction names using List.reverseRecOn with
  | nil => exact .nil
  | append_singleton names name ih =>
    have hknown := contains_foldl_meet decide names name
    rw [List.foldl_append, List.foldl_cons, List.foldl_nil]
    generalize names.foldl (meet decide) ∅ = p at ih hknown ⊢
    rw [meet]
    by_cases hname : name ∈ names
    · rw [if_pos (hknown.2 hname)]
      by_cases hagain : name ∈ p.overloaded
      · rw [if_pos (List.contains_iff_mem.2 hagain)]
        exact ih.keep (.inr hagain)
      · rw [if_neg (mt List.contains_iff_mem.1 hagain)]
        exact ih.concat hname hagain
    · rw [if_neg (mt hknown.1 hname)]
      exact ih.keep (.inl hname)

end Resolution

variable {i j : Interface} {included excluded m : String}

theorem decisions_resolve (i : Interface) (included excluded m : String) :
    (resolve i included excluded).decisions[m]? =
      if m ∈ i.names then some (inList included excluded m) else none := by
  rw [resolve, decisions_foldl_meet, decisions_empty, Option.none_or]

theorem size_resolve (i : Interface) (included excluded : String) :
    (resolve i included excluded).size = i.names.dedup.length := by
  have hkeys : (resolve i included excluded).decisions.keys.toFinset = i.names.toFinset := by
    ext m
    rw [List.mem_toFinset, List.mem_toFinset, Std.ExtTreeMap.mem_keys,
      ← Std.ExtTreeMap.contains_iff_mem]
    exact contains_foldl_meet _ _ m
  rw [size, ← Std.ExtTreeMap.length_keys,
    ← List.toFinset_card_of_nodup Std.ExtTreeMap.nodup_keys, hkeys, List.card_toFinset]

theorem mem_allowed (p : MethodPolicy) : m ∈ p.allowed ↔ p.allows m = true := by
  have hentry : m ∈ p.allowed ↔ p.decisions[m]? = some true := by
    rw [← Std.ExtTreeMap.mem_toList_iff_getElem?_eq_some, allowed, List.mem_map]
    constructor
    · rintro ⟨⟨m, b⟩, hmem, rfl⟩
      obtain ⟨hmem, rfl⟩ := List.mem_filter.1 hmem
      exact hmem
    · exact fun hmem => ⟨(m, true), List.mem_filter.2 ⟨hmem, rfl⟩, rfl⟩
  rw [hentry, allows]
  cases p.decisions[m]? <;> simp

theorem pairwise_allowed (p : MethodPolicy) : p.allowed.Pairwise (· < ·) := by
  refine List.pairwise_map.2 (List.Pairwise.filter _ ?_)
  exact Std.ExtTreeMap.ordered_keys_toList.imp compare_lt_iff_lt.1

/-- The order of the declarations makes no difference to the decisions. -/
theorem decisions_resolve_perm (h : j.methods.Perm i.methods) :
    (resolve j included excluded).decisions = (resolve i included excluded).decisions := by
  refine Std.ExtTreeMap.ext_getElem? fun m => ?_
  have hnames : m ∈ j.names ↔ m ∈ i.names := (h.map Method.name).mem_iff
  rw [decisions_resolve, decisions_resolve]
  simp only [hnames]

end MethodPolicy

section Records

variable {i : Interface} {t : MethodArgs}

/-- Of several declarations of a name the last one is on record, and nothing else has changed. -/
structure Recorded (t t' : MethodArgs) (id : String) (methods : List Method) : Prop where
  last : ∀ name ∈ methods.map Method.name, ∃ before m after, methods = before ++ m :: after ∧
    m.name = name ∧ (∀ x ∈ after, x.name ≠ name) ∧ t'.get? id name = some m.params
  others : ∀ id' name, ¬(id' = id ∧ name ∈ methods.map Method.name) →
    t'.get? id' name = t.get? id' name

theorem recorded_foldl (t : MethodArgs) (id : String) (methods : List Method) :
    Recorded t (methods.foldl (fun t m => t.record id m) t) id methods := by
  induction methods using List.reverseRecOn with
  | nil => exact ⟨nofun, fun _ _ _ => rfl⟩
  | append_singleton methods m ih =>
    rw [List.foldl_append, List.foldl_cons, List.foldl_nil]
    generalize methods.foldl (fun t m => t.record id m) t = t' at ih ⊢
    refine ⟨fun name hname => ?_, fun id' name hother => ?_⟩
    · by_cases hm : m.name = name
      · refine ⟨methods, m, [], rfl, hm, nofun, ?_⟩
        rw [MethodArgs.get?_record, if_pos ⟨rfl, hm⟩]
      · have hbefore : name ∈ methods.map Method.name := by
          simpa [Ne.symm hm] using hname
        obtain ⟨before, x, after, rfl, hx, hafter, hparams⟩ := ih.last name hbefore
        refine ⟨before, x, after ++ [m], by simp, hx, fun y hy => ?_, ?_⟩
        · obtain hy | hy := List.mem_append.1 hy
          · exact hafter y hy
          · rwa [List.mem_singleton.1 hy]
        · rw [MethodArgs.get?_record, if_neg fun h => hm h.2, hparams]
    · simp only [List.map_append, List.map_cons, List.map_nil, List.mem_append,
        List.mem_singleton] at hother
      rw [MethodArgs.get?_record, if_neg fun h => hother ⟨h.1.symm, .inr h.2.symm⟩]
      exact ih.others id' name fun h => hother ⟨h.1, .inl h.2⟩

end Records

section Warnings

/-- Names met before, and further ones, are all the names there are. -/
theorem length_repeats (seen names : List String) :
    (repeats seen names).length + (names.toFinset \ seen.toFinset).card = names.length := by
  induction names generalizing seen with
  | nil => simp [repeats]
  | cons name names ih =>
    rw [repeats, List.toFinset_cons]
    split
    · next hseen =>
      have hsame : insert name names.toFinset \ seen.toFinset = names.toFinset \ seen.toFinset :=
        Finset.insert_sdiff_of_mem _ (List.mem_toFinset.2 hseen)
      rw [hsame, List.length_cons, List.length_cons, ← ih seen]
      omega
    · next hnew =>
      have hone : insert name names.toFinset \ seen.toFinset =
          insert name (names.toFinset \ (name :: seen).toFinset) := by
        ext x
        by_cases hx : x = name <;> simp [hx, hnew]
      have hnot : name ∉ names.toFinset \ (name :: seen).toFinset := by simp
      rw [hone, Finset.card_insert_of_notMem hnot, List.length_cons, ← ih (name :: seen)]
      omega

theorem Interface.length_repeated (i : Interface) :
    i.repeated.length = i.methods.length - i.names.dedup.length := by
  have hall := length_repeats [] i.names
  rw [List.toFinset_nil, Finset.sdiff_empty, List.card_toFinset] at hall
  have hnames : i.names.length = i.methods.length := List.length_map _
  rw [Interface.repeated]
  omega

end Warnings

/-- What a policy is to say of the methods of an interface under two lists of names. -/
structure MethodPolicy.Settles (policy : MethodPolicy) (i : Interface)
    (included excluded : String) : Prop where
  allows : ∀ m, policy.allows m = true ↔ m ∈ i.names ∧ inList included excluded m = true
  size : policy.size = i.names.dedup.length
  allowed : ∀ m, m ∈ policy.allowed ↔ policy.allows m = true
  ascending : policy.allowed.Pairwise fun a b => Text.bytes a < Text.bytes b
  overloads : Overloads i.names policy.overloaded

theorem MethodPolicy.settles_resolve (i : Interface) (included excluded : String) :
    (resolve i included excluded).Settles i included excluded where
  allows := allows_resolve_iff i included excluded
  size := size_resolve i included excluded
  allowed _ := mem_allowed _
  ascending := (pairwise_allowed _).imp Text.bytes_lt_bytes.2
  overloads := overloads_foldl_meet _ i.names

/-- The methods of a provider are decided on. Each name is decided once, by the lists; each further
declaration of a name is warned of; the parameters of a name are those of its last declaration, and
those of other names stay on record. The order of the declarations makes no difference to what is
allowed. -/
theorem methods_decided {σ : Type} (w : World σ) (p : Provider) :
    let i := p.config.interface
    let w' := w.decideMethods p
    ∃ (policy : MethodPolicy) (warnings : List Notice),
      (w'.config p.config).policy = some policy ∧
      policy.Settles i p.config.included p.config.excluded ∧
      w'.events = w.events ++ warnings.map Event.notice ∧
      (∀ n ∈ warnings, n.level = .warn ∧ ∃ m, n = .repeatedMethod p.config.appName i.id m) ∧
      warnings.length = i.methods.length - i.names.dedup.length ∧
      Recorded (w.services p.group).args (w'.services p.group).args i.id i.methods ∧
      ∀ j : Interface, j.methods.Perm i.methods →
        let permuted := MethodPolicy.resolve j p.config.included p.config.excluded
        (∀ m, permuted.allows m = policy.allows m) ∧ permuted.allowed = policy.allowed := by
  intro i w'
  refine ⟨p.config.policy,
    i.repeated.map (Notice.repeatedMethod p.config.appName i.id), ?_,
    MethodPolicy.settles_resolve i _ _, ?_, fun n hn => ?_, ?_, ?_, fun j hperm => ?_⟩
  · rw [World.config_decideMethods, if_pos rfl]
  · rw [World.events_decideMethods, World.methodNotices, List.map_map]
    rfl
  · obtain ⟨m, -, rfl⟩ := List.mem_map.1 hn
    exact ⟨rfl, m, rfl⟩
  · rw [List.length_map, i.length_repeated]
  · have hargs : ((w.decideMethods p).services p.group).args =
        (w.services p.group).args.recordAll i := by
      rw [World.decideMethods_eq, World.services_modifyConfig, World.services_modifyServices,
        if_pos rfl]
      rfl
    exact hargs ▸ recorded_foldl _ _ _
  · have hsame : (MethodPolicy.resolve j p.config.included p.config.excluded).decisions =
        p.config.policy.decisions := MethodPolicy.decisions_resolve_perm hperm
    exact ⟨fun m => by rw [MethodPolicy.allows, hsame, MethodPolicy.allows],
      by rw [MethodPolicy.allowed, hsame, MethodPolicy.allowed]⟩

/-- Of two names one is declared three times and the other twice; the methods may as well be
declared in the reverse order. -/
theorem methods_decided_overloaded :
    let methods : List Method :=
      [⟨"say", ["i32"]⟩, ⟨"ping", []⟩, ⟨"say", ["i64"]⟩, ⟨"ping", ["u8"]⟩, ⟨"say", ["String"]⟩]
    let small := smallProvider 0 [smallServer 0] [] 1
    let p : Provider := { small with config := { small.config with
      interface := ⟨"demo.Echo", "Echo", methods⟩, excluded := "ping" } }
    let w := (World.start false).decideMethods p
    let reversed : Interface := ⟨"demo.Echo", "Echo", methods.reverse⟩
    p.config.policy.overloaded = ["say", "ping"] ∧ p.config.policy.size = 2 ∧
      w.events.length = 3 ∧ (w.services p.group).args.get? "demo.Echo" "ping" = some ["u8"] ∧
      reversed.methods.Perm p.config.interface.methods ∧
      ∃ policy, (w.config p.config).policy = some policy ∧
        ∀ m, (MethodPolicy.resolve reversed p.config.included p.config.excluded).allows m =
          policy.allows m := by
  intro methods small p w reversed
  have hperm : reversed.methods.Perm p.config.interface.methods := List.reverse_perm methods
  obtain ⟨policy, -, hpolicy, -, -, -, -, -, hpermuted⟩ := methods_decided (World.start false) p
  exact ⟨by decide +kernel, by decide +kernel, by decide +kernel, by decide +kernel, hperm, policy,
    hpolicy, (hpermuted reversed hperm).1⟩

end ServicePublisher
