import ServicePublisher.Error
import ServicePublisher.Manifest.Fields
import ServicePublisher.Toml.Document

/-! Where manifests come from: a text, or the content of a file. -/
namespace ServicePublisher.Manifest

def ofText (text : String) : Except ProviderError Manifest :=
  match (Toml.document? text).bind fun entries => ofValue? (.table entries) with
  | some m => .ok m
  | none => .error (.configuration "manifest" "<toml>" "the text is not a manifest")

/-- Reads a manifest from the content of the file at a path; there is none if the file cannot be
read. The content must be UTF-8. -/
def ofFile (path : String) (content : Option ByteArray) : Except ProviderError Manifest :=
  match content.bind String.fromUTF8? with
  | some text => ofText text
  | none => .error (.configuration "manifest" path "the file cannot be read as text")

end ServicePublisher.Manifest
