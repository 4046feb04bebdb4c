import ServicePublisher.Manifest.Source
import ServicePublisher.Proofs.Forms

/-! Manifests read back. Whatever writes a manifest, with its fields in any order and those left out
that have their defaults, is read as that manifest; and once something in it is wrong, nothing is
read. -/
namespace ServicePublisher.Manifest

open Toml (Value)

def portForm : Form UInt16 := .number 0 65535 fun p => p.toNat

def delayForm : Form UInt64 := .number 0 18446744073709551615 fun d => d.toNat

def limitForm : Form Int32 := .number (-2147483648) 2147483647 Int32.toInt

def serverForm : Form ServerSettings := .record [
  .required "id" ServerSettings.id .text,
  .defaulted "protocol" ServerSettings.protocol "bolt" .text,
  .defaulted "host" ServerSettings.host "0.0.0.0" .text,
  .defaulted "port" ServerSettings.port 0 portForm,
  .defaulted "auto_start" ServerSettings.autoStart true .flag]

def registryForm : Form RegistrySettings := .record [
  .required "id" RegistrySettings.id .text,
  .required "protocol" RegistrySettings.protocol .text,
  .required "address" RegistrySettings.address .text]

def providerForm : Form ProviderSettings := .record [
  .required "interface" ProviderSettings.interface .text,
  .defaulted "id" ProviderSettings.id none Form.text.given,
  .defaulted "unique_id" ProviderSettings.uniqueId none Form.text.given,
  .defaulted "app_name" ProviderSettings.appName none Form.text.given,
  .defaulted "include" ProviderSettings.included "*" .text,
  .defaulted "exclude" ProviderSettings.excluded "" .text,
  .defaulted "delay_ms" ProviderSettings.delayMs 0 delayForm,
  .defaulted "repeated_export_limit" ProviderSettings.repeatLimit 1 limitForm,
  .defaulted "register" ProviderSettings.register true .flag,
  .defaulted "servers" ProviderSettings.servers [] Form.text.list,
  .defaulted "registries" ProviderSettings.registries [] Form.text.list,
  .defaulted "attributes" ProviderSettings.attributes ∅ .texts]

def manifestForm : Form Manifest := .record [
  .required "provider" Manifest.provider providerForm,
  .defaulted "server" Manifest.servers [] serverForm.list,
  .defaulted "registry" Manifest.registries [] registryForm.list]

section Reading

theorem portForm_readBy : portForm.ReadBy asPort := by
  refine Form.number_readBy (g := fun n => UInt16.ofNat n.toNat) (fun p => ?_) fun p => ?_
  · have hbound := p.toNat_lt
    omega
  · simp

theorem delayForm_readBy : delayForm.ReadBy asDelay := by
  refine Form.number_readBy (g := fun n => UInt64.ofNat n.toNat) (fun d => ?_) fun d => ?_
  · have hbound := d.toNat_lt
    omega
  · simp

theorem limitForm_readBy : limitForm.ReadBy asLimit := by
  refine Form.number_readBy (fun n => ?_) fun n => n.ofInt_toInt
  have hlow := n.le_toInt
  have hhigh := n.toInt_lt
  omega

theorem defaulted_eq {α : Type} (fields : List (String × Value)) (name : String)
    (read : Value → Option α) (default : α) :
    defaulted fields name read default = (fields.lookup name).elim (some default) read := by
  rw [defaulted]
  cases fields.lookup name <;> rfl

/-- As an arrow this rewrites a step before the steps after it, so long readers stay cheap. -/
theorem bind_eq_some_iff {α β : Type} {x : Option α} {f : α → Option β} {b : β} :
    (x >>= f) = some b ↔ ∃ a, x = some a ∧ f a = some b := Option.bind_eq_some_iff

theorem asFields_table_eq_some_iff {names : List String} {entries fields : List (String × Value)} :
    asFields names (.table entries) = some fields ↔
      (∀ e ∈ entries, e.1 ∈ names) ∧ entries = fields := by
  have hnames : (entries.all (names.contains ·.1)) = true ↔ ∀ e ∈ entries, e.1 ∈ names := by
    simp [List.all_eq_true]
  rw [asFields]
  constructor
  · intro h
    split at h
    · next hknown =>
      cases h
      exact ⟨hnames.1 hknown, rfl⟩
    · cases h
  · rintro ⟨hknown, rfl⟩
    exact if_pos (hnames.2 hknown)

theorem serverForm_readBy : serverForm.ReadBy asServer := by
  refine Form.record_readBy (.cons (Form.text_readBy.required _ _) <|
    .cons (Form.text_readBy.defaulted _ _ _) <| .cons (Form.text_readBy.defaulted _ _ _) <|
    .cons (portForm_readBy.defaulted _ _ _) <| .cons (Form.flag_readBy.defaulted _ _ _) .nil)
    (by decide) fun entries s => ?_
  simp only [asServer, defaulted_eq, ↓bind_eq_some_iff, Option.pure_def, Option.some.injEq,
    asFields_table_eq_some_iff, List.forall₂_cons, List.Forall₂.nil, and_true]
  constructor
  · rintro ⟨_, ⟨hknown, rfl⟩, id, hid, protocol, hprotocol, host, hhost, port, hport, autoStart,
      hautoStart, rfl⟩
    exact ⟨hknown, hid, hprotocol, hhost, hport, hautoStart⟩
  · rintro ⟨hknown, hid, hprotocol, hhost, hport, hautoStart⟩
    exact ⟨_, ⟨hknown, rfl⟩, _, hid, _, hprotocol, _, hhost, _, hport, _, hautoStart, rfl⟩

theorem registryForm_readBy : registryForm.ReadBy asRegistry := by
  refine Form.record_readBy (.cons (Form.text_readBy.required _ _) <|
    .cons (Form.text_readBy.required _ _) <| .cons (Form.text_readBy.required _ _) .nil)
    (by decide) fun entries r => ?_
  simp only [asRegistry, ↓bind_eq_some_iff, Option.pure_def, Option.some.injEq,
    asFields_table_eq_some_iff, List.forall₂_cons, List.Forall₂.nil, and_true]
  constructor
  · rintro ⟨_, ⟨hknown, rfl⟩, id, hid, protocol, hprotocol, address, haddress, rfl⟩
    exact ⟨hknown, hid, hprotocol, haddress⟩
  · rintro ⟨hknown, hid, hprotocol, haddress⟩
    exact ⟨_, ⟨hknown, rfl⟩, _, hid, _, hprotocol, _, haddress, rfl⟩

theorem providerForm_readBy : providerForm.ReadBy asProvider := by
  refine Form.record_readBy (.cons (Form.text_readBy.required _ _) <|
    .cons (Form.text_readBy.given.defaulted _ _ _) <|
    .cons (Form.text_readBy.given.defaulted _ _ _) <|
    .cons (Form.text_readBy.given.defaulted _ _ _) <|
    .cons (Form.text_readBy.defaulted _ _ _) <| .cons (Form.text_readBy.defaulted _ _ _) <|
    .cons (delayForm_readBy.defaulted _ _ _) <| .cons (limitForm_readBy.defaulted _ _ _) <|
    .cons (Form.flag_readBy.defaulted _ _ _) <| .cons (Form.text_readBy.list.defaulted _ _ _) <|
    .cons (Form.text_readBy.list.defaulted _ _ _) <|
    .cons (Form.texts_readBy.defaulted _ _ _) .nil)
    (by decide) fun entries p => ?_
  simp only [asProvider, defaulted_eq, ↓bind_eq_some_iff, Option.pure_def, Option.some.injEq,
    asFields_table_eq_some_iff, List.forall₂_cons, List.Forall₂.nil, and_true]
  constructor
  · rintro ⟨_, ⟨hknown, rfl⟩, interface, hinterface, id, hid, uniqueId, huniqueId, appName,
      happName, included, hincluded, excluded, hexcluded, delayMs, hdelayMs, repeatLimit,
      hrepeatLimit, register, hregister, servers, hservers, registries, hregistries, attributes,
      hattributes, rfl⟩
    exact ⟨hknown, hinterface, hid, huniqueId, happName, hincluded, hexcluded, hdelayMs,
      hrepeatLimit, hregister, hservers, hregistries, hattributes⟩
  · rintro ⟨hknown, hinterface, hid, huniqueId, happName, hincluded, hexcluded, hdelayMs,
      hrepeatLimit, hregister, hservers, hregistries, hattributes⟩
    exact ⟨_, ⟨hknown, rfl⟩, _, hinterface, _, hid, _, huniqueId, _, happName, _, hincluded, _,
      hexcluded, _, hdelayMs, _, hrepeatLimit, _, hregister, _, hservers, _, hregistries, _,
      hattributes, rfl⟩

theorem manifestForm_readBy : manifestForm.ReadBy ofValue? := by
  refine Form.record_readBy (.cons (providerForm_readBy.required _ _) <|
    .cons (serverForm_readBy.list.defaulted _ _ _) <|
    .cons (registryForm_readBy.list.defaulted _ _ _) .nil) (by decide) fun entries m => ?_
  simp only [ofValue?, defaulted_eq, ↓bind_eq_some_iff, Option.pure_def, Option.some.injEq,
    asFields_table_eq_some_iff, List.forall₂_cons, List.Forall₂.nil, and_true]
  constructor
  · rintro ⟨_, ⟨hknown, rfl⟩, provider, hprovider, servers, hservers, registries, hregistries, rfl⟩
    exact ⟨hknown, hprovider, hservers, hregistries⟩
  · rintro ⟨hknown, hprovider, hservers, hregistries⟩
    exact ⟨_, ⟨hknown, rfl⟩, _, hprovider, _, hservers, _, hregistries, rfl⟩

end Reading

section Writing

theorem text_total : Form.text.Total := fun _ => ⟨_, rfl⟩

theorem serverForm_total : serverForm.Total := by
  refine Form.record_total (by decide) ?_
  simp only [List.forall_mem_cons]
  exact ⟨text_total.required _ _, text_total.defaulted _ _ _, text_total.defaulted _ _ _,
    fun _ => .inr ⟨_, rfl⟩, fun _ => .inr ⟨_, rfl⟩, nofun⟩

theorem registryForm_total : registryForm.Total := by
  refine Form.record_total (by decide) ?_
  simp only [List.forall_mem_cons]
  exact ⟨text_total.required _ _, text_total.required _ _, text_total.required _ _, nofun⟩

theorem providerForm_total : providerForm.Total := by
  refine Form.record_total (by decide) ?_
  simp only [List.forall_mem_cons]
  exact ⟨text_total.required _ _, text_total.given _ _, text_total.given _ _, text_total.given _ _,
    text_total.defaulted _ _ _, text_total.defaulted _ _ _, fun _ => .inr ⟨_, rfl⟩,
    fun _ => .inr ⟨_, rfl⟩, fun _ => .inr ⟨_, rfl⟩, text_total.list.defaulted _ _ _,
    text_total.list.defaulted _ _ _, Form.texts_total.defaulted _ _ _, nofun⟩

theorem manifestForm_total : manifestForm.Total := by
  refine Form.record_total (by decide) ?_
  simp only [List.forall_mem_cons]
  exact ⟨providerForm_total.required _ _, serverForm_total.list.defaulted _ _ _,
    registryForm_total.list.defaulted _ _ _, nofun⟩

end Writing

/-- Every manifest can be written. However that is done, with its fields in any order and any of
those left out that have their defaults, it is read back as it was; and when one thing in what is
written is spoiled, it is refused. -/
theorem manifests_read_back (m : Manifest) :
    (∃ v, manifestForm.writes m v) ∧ ∀ v, manifestForm.writes m v →
      (ofValue? v = some m ∧ ∀ text entries, Toml.document? text = some entries →
        v = .table entries → ofText text = .ok m) ∧
      ∀ v', manifestForm.spoils v v' → ofValue? v' = none ∧
        ∀ text entries, Toml.document? text = some entries → v' = .table entries →
          ∃ detail, ofText text = .error (.configuration "manifest" "<toml>" detail) := by
  refine ⟨manifestForm_total m, fun v hv => ⟨⟨manifestForm_readBy.written hv, ?_⟩, ?_⟩⟩
  · rintro text entries htext rfl
    rw [ofText, htext, Option.bind_some, manifestForm_readBy.written hv]
  · intro v' hspoiled
    have hnone := manifestForm_readBy.spoiled hv hspoiled
    refine ⟨hnone, ?_⟩
    rintro text entries htext rfl
    rw [ofText, htext, Option.bind_some, hnone]
    exact ⟨_, rfl⟩

/-- A manifest with one server, the fields of which are in another order than usual, and whose port
is then too great. -/
theorem manifests_read_back_small :
    let m : Manifest := {
      provider := { interface := "demo.Echo", servers := ["bolt"] }
      servers := [{ id := "bolt", port := 12200 }] }
    let tree (port : Int) : List (String × Value) :=
      [("provider",
          .table [("servers", .array [.string "bolt"]), ("interface", .string "demo.Echo")]),
        ("server", .array [.table [("port", .integer port), ("id", .string "bolt")]])]
    let text (port : String) := "[provider]\nservers = [\"bolt\"]\ninterface = \"demo.Echo\"\n" ++
      "[[server]]\nport = " ++ port ++ "\nid = \"bolt\"\n"
    manifestForm.writes m (.table (tree 12200)) ∧
      Toml.document? (text "12200") = some (tree 12200) ∧ ofText (text "12200") = .ok m ∧
      manifestForm.spoils (.table (tree 12200)) (.table (tree 65536)) ∧
      Toml.document? (text "65536") = some (tree 65536) ∧
      ∃ detail, ofText (text "65536") = .error (.configuration "manifest" "<toml>" detail) := by
  intro m tree text
  have htext : Toml.document? (text "12200") = some (tree 12200) := by decide +kernel
  have htext' : Toml.document? (text "65536") = some (tree 65536) := by decide +kernel
  have hserver : serverForm.writes { id := "bolt", port := 12200 }
      (.table [("port", .integer 12200), ("id", .string "bolt")]) := by
    refine ⟨_, rfl, by decide, ?_, ?_⟩
    · simp only [List.forall_mem_cons]
      exact ⟨⟨_, .tail _ (.tail _ (.tail _ (.head _))), rfl, rfl⟩, ⟨_, .head _, rfl, rfl⟩, nofun⟩
    · simp only [List.forall_mem_cons]
      exact ⟨.inl (by decide), .inr rfl, .inr rfl, .inl (by decide), .inr rfl, nofun⟩
  have hprovider : providerForm.writes m.provider
      (.table [("servers", .array [.string "bolt"]), ("interface", .string "demo.Echo")]) := by
    have hservers : Form.text.list.writes ["bolt"] (.array [.string "bolt"]) :=
      ⟨_, rfl, .cons rfl .nil⟩
    refine ⟨_, rfl, by decide, ?_, ?_⟩
    · simp only [List.forall_mem_cons]
      exact ⟨⟨.defaulted "servers" ProviderSettings.servers [] Form.text.list, by simp, rfl,
        hservers⟩, ⟨_, .head _, rfl, rfl⟩, nofun⟩
    · simp only [List.forall_mem_cons]
      exact ⟨.inl (by decide), .inr rfl, .inr rfl, .inr rfl, .inr rfl, .inr rfl, .inr rfl, .inr rfl,
        .inr rfl, .inl (by decide), .inr rfl, .inr rfl, nofun⟩
  have hwrites : manifestForm.writes m (.table (tree 12200)) := by
    refine ⟨_, rfl, by decide, ?_, ?_⟩
    · simp only [tree, List.forall_mem_cons]
      exact ⟨⟨_, .head _, rfl, hprovider⟩,
        ⟨_, .tail _ (.head _), rfl, _, rfl, .cons hserver .nil⟩, nofun⟩
    · simp only [List.forall_mem_cons]
      exact ⟨.inl (by decide), .inl (by decide), .inr rfl, nofun⟩
  have hport : serverForm.spoils (.table [("port", .integer 12200), ("id", .string "bolt")])
      (.table [("port", .integer 65536), ("id", .string "bolt")]) :=
    @Spoiled.replaced _ _ [] _ _ _ _ (.tail _ (.tail _ (.tail _ (.head _))))
      (.inl ⟨65536, rfl, by decide⟩)
  have hspoiled : manifestForm.spoils (.table (tree 12200)) (.table (tree 65536)) :=
    @Spoiled.replaced _ _ [_] [] _ _ _ (.tail _ (.head _)) ⟨[], _, _, [], rfl, rfl, hport⟩
  obtain ⟨-, hread⟩ := manifests_read_back m
  obtain ⟨⟨-, hback⟩, hrefused⟩ := hread _ hwrites
  exact ⟨hwrites, htext, hback _ _ htext rfl, hspoiled, htext',
    (hrefused _ hspoiled).2 _ _ htext' rfl⟩

end ServicePublisher.Manifest
