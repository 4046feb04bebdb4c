import ServicePublisher.World
import ServicePublisher.Text.Record

/-! Diagnostic descriptions of configurations, providers and tables. -/
namespace ServicePublisher

/-- The digits of a fraction of thousandths, without zeros at the end. -/
def thousandths (n : Nat) : String :=
  let digits := (toString (1000 + n)).toList.drop 1
  String.ofList (digits.reverse.dropWhile (· = '0')).reverse

/-- A duration in milliseconds: in seconds from one second on, else in milliseconds. -/
def shownDuration (ms : Nat) : String :=
  if ms = 0 then "0ns"
  else if ms < 1000 then toString ms ++ "ms"
  else if ms % 1000 = 0 then toString (ms / 1000) ++ "s"
  else toString (ms / 1000) ++ "." ++ thousandths (ms % 1000) ++ "s"

def ServerSettings.shown (s : ServerSettings) : String :=
  Text.shownRecord "ServerSettings"
    [("id", Text.quoted s.id), ("protocol", Text.quoted s.protocol), ("host", Text.quoted s.host),
      ("port", toString s.port.toNat), ("auto_start", Text.shownBool s.autoStart)]

def RegistrySettings.shown (s : RegistrySettings) : String :=
  Text.shownRecord "RegistrySettings"
    [("id", Text.quoted s.id), ("protocol", Text.quoted s.protocol),
      ("address", Text.quoted s.address)]

def RegistryConfig.shown (c : RegistryConfig) : String :=
  Text.shownPart "RegistryConfig" [("settings", c.settings.shown)]

def ProviderConfig.shown (c : ProviderConfig) : String :=
  Text.shownPart "ProviderConfig"
    [("identity", c.key.shown), ("app_name", Text.quoted c.appName),
      ("servers", toString c.servers.length), ("registries", toString c.registries.length),
      ("include", Text.quoted c.included), ("exclude", Text.quoted c.excluded),
      ("delay", shownDuration c.delayMs), ("repeated_export_limit", toString c.repeatLimit.toInt),
      ("register", Text.shownBool c.register)]

def Services.shownRegistries (t : Services) : String :=
  Text.shownRecord "RegistryRepository" [("registries", Text.quotedList t.registries.keys)]

namespace World

variable {σ : Type}

def shownServer (w : World σ) (c : ServerConfig) : String :=
  Text.shownRecord "ServerConfig"
    [("settings", c.settings.shown), ("built", Text.shownBool (w.servers.contains c.serial))]

def shownProvider (w : World σ) (p : Provider) (number : String) : String :=
  Text.shownPart "ProviderBootstrap"
    [("instance_id", number), ("identity", p.config.key.shown),
      ("exported", Text.shownBool (w.isPublished p))]

end World

end ServicePublisher
