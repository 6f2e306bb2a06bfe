import FogNetwork.Config.Basic
import FogNetwork.Quantity
import FogNetwork.Toml.Document

/-! Run configurations as documents. Settings that a document leaves out have standard values, and
keys that are no settings are passed over. -/

namespace FogNetwork
namespace Config

def setting? (entries : Toml.Entries) (name : Setting) (standard : Nat) : Option Nat :=
  match Toml.find? name.name entries with
  | none => some standard
  | some (.value (.integer (.ofNat value))) => some value
  | some _ => none

def ofDocument? (entries : Toml.Entries) : Option Config := do
  return ⟨← setting? entries .controlInterval defaultControlInterval,
    ← setting? entries .runLength defaultRunLength⟩

def read (text : String) : Except Rejection Config :=
  match (Toml.parse? text).bind ofDocument? with
  | none => .error .malformedConfiguration
  | some config => config.validate.map fun _ => config

def ofFile (contents? : Option ByteArray) : Except Rejection Config :=
  match contents?.bind String.fromUTF8? with
  | none => .error .unreadableFile
  | some text => read text

end Config
end FogNetwork
