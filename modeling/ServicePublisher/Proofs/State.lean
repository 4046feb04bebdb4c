import ServicePublisher.Lifecycle

/-! How an update of the state shows in its parts. An update changes the part that it is named for
and leaves the others as they are. -/
namespace ServicePublisher.World

variable {σ : Type} (w : World σ)

@[simp] theorem config_record (e : Event) (c : ProviderConfig) :
    (w.record e).config c = w.config c := rfl

@[simp] theorem provider_record (e : Event) (p : Provider) :
    (w.record e).provider p = w.provider p := rfl

@[simp] theorem services_record (e : Event) (g : Nat) :
    (w.record e).services g = w.services g := rfl

@[simp] theorem log_eq_record (n : Notice) : w.log n = w.record (.notice n) := rfl

@[simp] theorem report_eq_record (c : ProviderConfig) (n : ProviderNotice) :
    w.report c n = w.record (.notice (.ofProvider c.appName c.key n)) := rfl

section Updates

variable (g : Nat) (k : Services → Services)

@[simp] theorem services_modifyConfig (c : ProviderConfig) (f : ConfigState → ConfigState) :
    (w.modifyConfig c f).services g = w.services g := rfl

@[simp] theorem provider_modifyServices (q : Provider) :
    (w.modifyServices g k).provider q = w.provider q := rfl

theorem modifyServices_keeps {β : Type} {part : Services → β} (hk : ∀ t, part (k t) = part t)
    (g' : Nat) : part ((w.modifyServices g k).services g') = part (w.services g') := by
  rw [services_modifyServices]
  split
  · next hg => rw [hk, hg]
  · rfl

end Updates

/-- The log lines of a new decision on the methods of a provider. -/
def methodNotices (c : ProviderConfig) : List Event :=
  c.interface.repeated.map fun n => .notice (.repeatedMethod c.appName c.interface.id n)

theorem foldl_log {α : Type} (line : α → Notice) (xs : List α) (w : World σ) :
    xs.foldl (fun w x => w.log (line x)) w =
      { w with events := w.events ++ xs.map fun x => Event.notice (line x) } := by
  induction xs generalizing w with
  | nil => simp
  | cons x xs ih => rw [List.foldl_cons, ih]; simp [record]

/-- A decision on the methods is logged, recorded with the parameter types, and kept with the
configuration. -/
theorem decideMethods_eq (p : Provider) :
    w.decideMethods p =
      (({ w with events := w.events ++ methodNotices p.config }).modifyServices p.group fun t =>
        { t with args := t.args.recordAll p.config.interface }).modifyConfig p.config fun s =>
          { s with policy := some p.config.policy } := by
  rw [decideMethods, foldl_log]
  rfl

@[simp] theorem provider_decideMethods (p q : Provider) :
    (w.decideMethods p).provider q = w.provider q := by
  rw [decideMethods_eq]; rfl

@[simp] theorem servers_decideMethods (p : Provider) :
    (w.decideMethods p).servers = w.servers := by
  rw [decideMethods_eq]; rfl

@[simp] theorem events_decideMethods (p : Provider) :
    (w.decideMethods p).events = w.events ++ methodNotices p.config := by
  rw [decideMethods_eq]; rfl

/-- The tables but the parameter types stay as they are. -/
theorem decideMethods_keeps {β : Type} {part : Services → β}
    (hpart : ∀ t a, part { t with args := a } = part t) (p : Provider) (g : Nat) :
    part ((w.decideMethods p).services g) = part (w.services g) := by
  rw [decideMethods_eq, services_modifyConfig]
  exact modifyServices_keeps _ _ _ (fun t => hpart t _) g

theorem config_decideMethods (p : Provider) (c : ProviderConfig) :
    (w.decideMethods p).config c =
      if p.config.serial = c.serial then
        { w.config p.config with policy := some p.config.policy }
      else w.config c := by
  rw [decideMethods_eq, config_modifyConfig]
  rfl

end ServicePublisher.World
