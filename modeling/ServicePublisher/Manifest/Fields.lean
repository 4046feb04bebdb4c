import ServicePublisher.Settings
import ServicePublisher.Toml.Value

/-! How the fields of a manifest are read from values. Every field has one type, no other fields are
known, and a record may be written as a table or, in the order of its fields, as an array. -/
namespace ServicePublisher.Manifest

open Toml (Value)

def asText : Value → Option String
  | .string s => some s
  | _ => none

def asBool : Value → Option Bool
  | .boolean b => some b
  | _ => none

def asInteger (low high : Int) : Value → Option Int
  | .integer n => if low ≤ n ∧ n ≤ high then some n else none
  | _ => none

def asPort (v : Value) : Option UInt16 :=
  (asInteger 0 0xFFFF v).map fun n => UInt16.ofNat n.toNat

def asDelay (v : Value) : Option UInt64 :=
  (asInteger 0 0xFFFFFFFFFFFFFFFF v).map fun n => UInt64.ofNat n.toNat

def asLimit (v : Value) : Option Int32 :=
  (asInteger (-0x80000000) 0x7FFFFFFF v).map Int32.ofInt

def asList {α : Type} (read : Value → Option α) : Value → Option (List α)
  | .array vs => vs.mapM read
  | _ => none

/-- The key under which the text of a date stands where a table of texts is expected. -/
def dateKey : String := "$__toml_private_datetime"

/-- A table of texts; a date counts as a table with its text under a key of its own. -/
def asTexts : Value → Option Attributes
  | .table entries =>
    (entries.mapM fun (e : String × Value) => (asText e.2).map fun s => (e.1, s)).map
      fun pairs => pairs.foldl (fun a e => a.insert e.1 e.2) ∅
  | .datetime d => some ((∅ : Attributes).insert dateKey d.text)
  | _ => none

/-- The fields of a record by name. Names that are not known are refused; an array gives values to
the names in their order, and more values than names are of no effect. -/
def asFields (names : List String) : Value → Option (List (String × Value))
  | .table entries => if entries.all (names.contains ·.1) then some entries else none
  | .array vs => some (names.zip vs)
  | _ => none

def required {α : Type} (fields : List (String × Value)) (name : String)
    (read : Value → Option α) : Option α :=
  (fields.lookup name).bind read

def defaulted {α : Type} (fields : List (String × Value)) (name : String)
    (read : Value → Option α) (default : α) : Option α :=
  match fields.lookup name with
  | none => some default
  | some v => read v

def serverFields : List String := ["id", "protocol", "host", "port", "auto_start"]

def asServer (v : Value) : Option ServerSettings := do
  let fields ← asFields serverFields v
  let id ← required fields "id" asText
  let unset : ServerSettings := { id }
  return {
    id
    protocol := ← defaulted fields "protocol" asText unset.protocol
    host := ← defaulted fields "host" asText unset.host
    port := ← defaulted fields "port" asPort unset.port
    autoStart := ← defaulted fields "auto_start" asBool unset.autoStart }

def registryFields : List String := ["id", "protocol", "address"]

def asRegistry (v : Value) : Option RegistrySettings := do
  let fields ← asFields registryFields v
  return {
    id := ← required fields "id" asText
    protocol := ← required fields "protocol" asText
    address := ← required fields "address" asText }

def providerFields : List String :=
  ["interface", "id", "unique_id", "app_name", "include", "exclude", "delay_ms",
    "repeated_export_limit", "register", "servers", "registries", "attributes"]

def asProvider (v : Value) : Option ProviderSettings := do
  let fields ← asFields providerFields v
  let interface ← required fields "interface" asText
  let unset : ProviderSettings := { interface }
  return {
    interface
    id := ← defaulted fields "id" (fun v => (asText v).map some) unset.id
    uniqueId := ← defaulted fields "unique_id" (fun v => (asText v).map some) unset.uniqueId
    appName := ← defaulted fields "app_name" (fun v => (asText v).map some) unset.appName
    included := ← defaulted fields "include" asText unset.included
    excluded := ← defaulted fields "exclude" asText unset.excluded
    delayMs := ← defaulted fields "delay_ms" asDelay unset.delayMs
    repeatLimit := ← defaulted fields "repeated_export_limit" asLimit unset.repeatLimit
    register := ← defaulted fields "register" asBool unset.register
    servers := ← defaulted fields "servers" (asList asText) unset.servers
    registries := ← defaulted fields "registries" (asList asText) unset.registries
    attributes := ← defaulted fields "attributes" asTexts unset.attributes }

def manifestFields : List String := ["provider", "server", "registry"]

def ofValue? (v : Value) : Option Manifest := do
  let fields ← asFields manifestFields v
  return {
    provider := ← required fields "provider" asProvider
    servers := ← defaulted fields "server" (asList asServer) []
    registries := ← defaulted fields "registry" (asList asRegistry) [] }

end ServicePublisher.Manifest
