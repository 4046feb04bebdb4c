import ServicePublisher.Config
import ServicePublisher.Text.Integer
import ServicePublisher.Text.Split

/-! Attributes of a provider: which keys there are, and how values are read and written. A key names
a property of the whole provider, or after a dot a method and a property of that method. -/
namespace ServicePublisher

inductive AttributeKey where
  | plain (property : String)
  | ofMethod (method property : String)
deriving DecidableEq, Repr

def numericProperties : List String := ["weight", "concurrents", "timeout"]

def tagsAttribute : String := "tags"

namespace AttributeKey

def property : AttributeKey → String
  | .plain p => p
  | .ofMethod _ p => p

def isNumeric (k : AttributeKey) : Bool := numericProperties.contains k.property

end AttributeKey

namespace ProviderConfig

/-- What a key stands for. A key is not blank, and a method that it names is one of the
interface. -/
def attributeKey (c : ProviderConfig) (key : String) : Except ProviderError AttributeKey :=
  if (Text.trimmed key.toList).isEmpty then
    .error (.configuration "attribute" key
      s!"attribute key of provider {c.key.text} must not be blank")
  else
    match key.toList with
    | '.' :: rest =>
      match Text.cut? '.' rest with
      | some (m :: ms, p :: ps) =>
        let method := String.ofList (m :: ms)
        if c.interface.declares method then .ok (.ofMethod method (String.ofList (p :: ps)))
        else
          .error (.configuration "attribute" key
            s!"method \"{method}\" is not declared by interface {c.interface.id}")
      | _ =>
        .error (.configuration "attribute" key
          "method scoped attribute must look like \".<method>.<property>\"")
    | _ => .ok (.plain key)

def isInteger (value : Option String) : Bool :=
  value.all fun v => (Text.int64? (Text.trimmed v.toList)).isSome

def query (c : ProviderConfig) (a : Attributes) (key : String) :
    Except ProviderError (Option String) :=
  (c.attributeKey key).map fun _ => a[key]?

def Attributes.put (a : Attributes) (key : String) : Option String → Attributes
  | some v => a.insert key v
  | none => a.erase key

/-- A value written or removed, and whether the attributes were touched. A numeric property takes
only integers, and an equal value may be left alone. -/
def update (c : ProviderConfig) (a : Attributes) (key : String) (value : Option String)
    (ignoreIfSame : Bool) : Except ProviderError (Bool × Attributes) :=
  match c.attributeKey key with
  | .error e => .error e
  | .ok k =>
    if k.isNumeric && !isInteger value then
      .error (.configuration key (value.getD "")
        s!"attribute \"{key}\" of provider {c.key.text} must be an integer")
    else if ignoreIfSame && a[key]? == value then .ok (false, a)
    else .ok (true, Attributes.put a key value)

end ProviderConfig

end ServicePublisher
