import Gatehouse.Config.Settings
import Gatehouse.Yaml.Decode

namespace Gatehouse.Config

/-!
# Settings files

* `Settings.ofText` — reads settings from a YAML text;
* `Settings.ofFile` — reads them from a file.
-/

open Yaml (Decoded Mismatch Spot)

/-! ### The parts of a settings file -/

/-- The names of the protocols. -/
def Protocol.names : List (String × Protocol) :=
  [("http", .http), ("https", .https), ("ajp", .ajp)]

/-- The names of the ways to ask for client certificates. -/
def ClientAuth.names : List (String × ClientAuth) :=
  [("not_requested", .notRequested), ("requested", .requested), ("required", .required)]

/-- The greatest port. -/
def maxPort : Nat := 65535

/-- A file name. -/
def readPath (s : Spot) : Decoded String := s.text "path string"

/-- A size, or a number of buffers or threads. -/
def readSize (s : Spot) : Decoded Nat := s.natural Yaml.maxWord "usize"

/-- A field that has to be there. -/
def required {α : Type} (name : String) (value : Option α) : Except Mismatch α :=
  match value with
  | some a => .ok a
  | none => .error (.missingField name)

/-! ### TLS material -/

/-- The fields of TLS material read so far. -/
structure SecurityFields where
  cert : Option String
  key : Option String
  caCert : Option (Option String)
  clientAuth : Option ClientAuth

namespace SecurityFields

/-- The names of the fields. -/
def names : List String := ["cert", "key", "ca_cert", "client_auth"]

/-- Takes one field. -/
def set (name : String) (s : Spot) (f : SecurityFields) : Decoded SecurityFields := do
  if name = "cert" then return { f with cert := some (← readPath s) }
  else if name = "key" then return { f with key := some (← readPath s) }
  else if name = "ca_cert" then return { f with caCert := some (← s.optional readPath) }
  else return { f with clientAuth := some (← s.choice ClientAuth.names) }

/-- The material, once all fields are read. -/
def finish (f : SecurityFields) : Except Mismatch SecuritySettings := do
  let cert ← required "cert" f.cert
  let key ← required "key" f.key
  return ⟨cert, key, f.caCert.join, f.clientAuth.getD .notRequested⟩

/-- Reads TLS material. -/
def read : Spot → Decoded SecuritySettings :=
  Spot.record "SecuritySettings" names ⟨none, none, none, none⟩ set finish

end SecurityFields

/-! ### Listeners -/

/-- The fields of a listener read so far. -/
structure ListenerFields where
  protocol : Option Protocol
  host : Option String
  port : Option Nat
  security : Option (Option SecuritySettings)

namespace ListenerFields

/-- The names of the fields. -/
def names : List String := ["protocol", "host", "port", "security"]

/-- Takes one field. -/
def set (name : String) (s : Spot) (f : ListenerFields) : Decoded ListenerFields := do
  if name = "protocol" then return { f with protocol := some (← s.choice Protocol.names) }
  else if name = "host" then return { f with host := some (← s.text "a string") }
  else if name = "port" then return { f with port := some (← s.natural maxPort "u16") }
  else return { f with security := some (← s.optional SecurityFields.read) }

/-- The listener, once all fields are read. Without a protocol it speaks HTTP, and without a host
    it listens everywhere. -/
def finish (f : ListenerFields) : Except Mismatch ListenerSettings := do
  let port ← required "port" f.port
  return ⟨f.protocol.getD .http, f.host.getD "0.0.0.0", port, f.security.join⟩

/-- Reads a listener. -/
def read : Spot → Decoded ListenerSettings :=
  Spot.record "ListenerSettings" names ⟨none, none, none, none⟩ set finish

end ListenerFields

/-! ### Whole files -/

namespace Settings

/-- The names of the settings. -/
def names : List String :=
  ["max_memory", "buffer_size", "buffers_per_region", "io_threads", "worker_threads",
    "direct_buffers", "listeners"]

/-- Takes one setting. -/
def set (name : String) (s : Spot) (f : Settings) : Decoded Settings := do
  if name = "max_memory" then
    return { f with maxMemory := ← s.optional (·.natural Yaml.maxWord "u64") }
  else if name = "buffer_size" then return { f with bufferSize := ← s.optional readSize }
  else if name = "buffers_per_region" then return { f with perRegion := ← s.optional readSize }
  else if name = "io_threads" then return { f with ioThreads := ← s.optional readSize }
  else if name = "worker_threads" then return { f with workerThreads := ← s.optional readSize }
  else if name = "direct_buffers" then return { f with direct := ← s.optional Spot.flag }
  else return { f with listeners := ← s.sequence ListenerFields.read }

/-- Reads settings. -/
def read : Spot → Decoded Settings := Spot.record "ServerSettings" names .empty set .ok

/-- Reads settings from a text. -/
def ofText (text : List Char) : Except ServerError Settings :=
  (Yaml.decode read text).mapError fun f => .config (.settings f.message)

/-- A settings file that cannot be read. -/
def unreadable (path reason : String) : ServerError :=
  .config (.settings ("Cannot read " ++ path ++ ": " ++ reason))

/-- Reads settings from a file. -/
def ofFile (files : FileTree) (path : String) : Except ServerError Settings :=
  match files.read path with
  | .error fault => .error (unreadable path fault.message)
  | .ok bytes =>
    match Utf8.decode? bytes with
    | some text => ofText text
    | none => .error (unreadable path "stream did not contain valid UTF-8")

end Settings

end Gatehouse.Config
