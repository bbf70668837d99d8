import TemplateServer.Json.Shape

/-!
Settings that a client sends. They stand under the key `lg` of what it sends; a missing part takes
its default, and a group of settings may be given as an object or as an array of its parts.
-/

namespace TemplateServer

structure ValidationSettings where
  /-- How long, in milliseconds, a document must rest before it is validated. -/
  debounceMs : UInt64 := 500
deriving DecidableEq

structure Settings where
  validation : ValidationSettings := {}
deriving DecidableEq

def ValidationSettings.shape : Shape :=
  Shape.record "ValidationConfig" [Shape.defaults "debounceMs" (Shape.ofReader Decode.word)]

def Settings.shape : Shape :=
  Shape.record "LgServerConfig" [Shape.defaults "validation" ValidationSettings.shape]

def ValidationSettings.ofJson (value : Json) : Decoded ValidationSettings := do
  let normal ← ValidationSettings.shape .alone value
  let debounceMs ← Decode.optional normal "debounceMs" Decode.word
  pure ((debounceMs.map ValidationSettings.mk).getD {})

def Settings.ofJson (value : Json) : Decoded Settings := do
  let normal ← Settings.shape .alone value
  let validation ← Decode.optional normal "validation" ValidationSettings.ofJson
  pure ((validation.map Settings.mk).getD {})

def Settings.ofClient? (sent : Json) : Option (Decoded Settings) :=
  (sent.member? "lg").map Settings.ofJson

end TemplateServer
