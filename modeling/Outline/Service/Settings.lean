import Outline.Settings

namespace Outline.Service

structure Settings where
  -- The size of the longest document, in units of 1024 characters.
  documentSize : Int
  host         : String
  port         : Int
  -- Does the service start again when its own files change?
  reload       : Bool
  -- Hosts that schemas may be fetched from, in ascending order.
  allowlist    : List String
  deriving DecidableEq, Repr

namespace Settings

def default : Settings := ⟨1024, "127.0.0.1", 8000, false, []⟩

def characterLimit (s : Settings) : Int := s.documentSize * 1024

open Outline.Settings (Environment readVariable)

def ofEnvironment (env : Environment) : Except Number.Error Settings := do
  let documentSize ←
    readVariable env "DOCSCHEMA_MAX_DOCUMENT_SIZE_KB" default.documentSize Number.readInt
  let port ← readVariable env "DOCSCHEMA_PORT" default.port Number.readInt
  return {
    documentSize := documentSize
    host         := (env "DOCSCHEMA_HOST").getD default.host
    port         := port
    reload       := Text.small ((env "DOCSCHEMA_RELOAD").getD "false") = "true"
    allowlist    :=
      Fit.sortTexts ((Text.items ((env "DOCSCHEMA_SCHEMA_URL_ALLOWLIST").getD "")).map Text.small) }

end Settings
end Outline.Service
