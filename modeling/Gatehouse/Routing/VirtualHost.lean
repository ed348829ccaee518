import Gatehouse.Handler
import Gatehouse.Routing.PathTable
import Gatehouse.Text.Quoted

namespace Gatehouse.Routing

/-!
# Virtual hosts

A virtual host groups the names it answers to, a table of path handlers, an ordered list of
wrappers, and the handler used when no path matches. Edits never fail; the registry is checked as
a whole before it is used.

* `VirtualHost` with `addName`, `addPath`, `setFallback`, `addWrapper`, `pathHandler?`;
* `Registry` — the hosts in order, the default host first when made by `Registry.start`;
* `Registry.check` — the rules a registry has to satisfy, with `RegistryFault` for each breach.
-/

/-- A handler under the label it was registered with; built-in handlers have none. -/
structure Endpoint where
  label : Option String
  handler : Handler

/-- The endpoint that answers `404 Not Found`. -/
def Endpoint.notFound : Endpoint := ⟨none, notFoundHandler⟩

/-- The key a path is filed under. The empty path stays empty, so that the check can refuse it. -/
def pathKey (path : String) : String :=
  if path.isEmpty then path else String.ofList (normalize path.toList)

/-- A host with its names, paths, wrappers and fallback. -/
structure VirtualHost where
  names : List String
  paths : List (String × Endpoint)
  wrappers : List Wrapper
  isDefault : Bool
  fallback : Endpoint

namespace VirtualHost

/-- A host reachable through its names only. -/
def named : VirtualHost := ⟨[], [], [], false, .notFound⟩

/-- The host used when no other host matches. -/
def catchAll : VirtualHost := ⟨[], [], [], true, .notFound⟩

/-- Adds a name. -/
def addName (h : VirtualHost) (name : String) : VirtualHost := { h with names := h.names ++ [name] }

/-- Registers an endpoint for every path below `path`. The last registration of a key keeps it. -/
def addPath (h : VirtualHost) (path : String) (e : Endpoint) : VirtualHost :=
  { h with paths := putEntry (pathKey path) e h.paths }

/-- Replaces the endpoint used when no path matches. -/
def setFallback (h : VirtualHost) (e : Endpoint) : VirtualHost := { h with fallback := e }

/-- Appends a wrapper; the first one ends up outermost. -/
def addWrapper (h : VirtualHost) (w : Wrapper) : VirtualHost :=
  { h with wrappers := h.wrappers ++ [w] }

/-- The endpoint registered under the key of a path. -/
def pathHandler? (h : VirtualHost) (path : String) : Option Endpoint :=
  (h.paths.find? (·.1 = pathKey path)).map (·.2)

/-- The diagnostic rendering; paths appear in order of their text. -/
def debug (h : VirtualHost) : String :=
  Text.record "VirtualHost"
    [("host_names", Text.list (h.names.map Text.quote)),
     ("paths", Text.list (((h.paths.map (·.1)).mergeSort (· ≤ ·)).map Text.quote)),
     ("wrappers", toString h.wrappers.length),
     ("default_host", Text.truth h.isDefault)]

@[simp] theorem names_addName (h : VirtualHost) (n : String) :
    (h.addName n).names = h.names ++ [n] := rfl

@[simp] theorem wrappers_addWrapper (h : VirtualHost) (w : Wrapper) :
    (h.addWrapper w).wrappers = h.wrappers ++ [w] := rfl

@[simp] theorem fallback_setFallback (h : VirtualHost) (e : Endpoint) :
    (h.setFallback e).fallback = e := rfl

end VirtualHost

/-! ### Registry -/

/-- The virtual hosts of a server, in order. -/
structure Registry where
  hosts : List VirtualHost

/-- What is wrong with a registry. -/
inductive RegistryFault where
  | defaultHosts (count : Nat)
  | unreachableHost
  | blankName
  | emptyPath (names : List String)
  deriving DecidableEq, Repr

/-- The wording of a registry fault. -/
def RegistryFault.message : RegistryFault → String
  | .defaultHosts count => "expected exactly one default host, found " ++ toString count
  | .unreachableHost => "virtual host without host names"
  | .blankName => "host name is empty"
  | .emptyPath names => "empty path registered on " ++ Text.list (names.map Text.quote)

/-- A registry fault as an error of the server. -/
def RegistryFault.error (f : RegistryFault) : ServerError := .config (.virtualHost f.message)

namespace VirtualHost

/-- The first rule a single host breaks. -/
def check (h : VirtualHost) : Except RegistryFault Unit :=
  if !h.isDefault && h.names.isEmpty then .error .unreachableHost
  else if h.names.any Text.isBlankText then .error .blankName
  else if h.paths.any (·.1.isEmpty) then .error (.emptyPath h.names)
  else .ok ()

end VirtualHost

namespace Registry

/-- The registry that holds an untouched default host. -/
def start : Registry := ⟨[.catchAll]⟩

/-- Appends a host as it is. -/
def push (r : Registry) (h : VirtualHost) : Registry := ⟨r.hosts ++ [h]⟩

/-- Edits the first host. -/
def editFirst (r : Registry) (edit : VirtualHost → VirtualHost) : Registry :=
  match r.hosts with
  | [] => r
  | h :: hs => ⟨edit h :: hs⟩

/-- The first rule the registry breaks: exactly one default host, every other host named, no blank
    name, no empty path. -/
def check (r : Registry) : Except RegistryFault Unit :=
  let defaults := (r.hosts.filter (·.isDefault)).length
  if defaults ≠ 1 then .error (.defaultHosts defaults)
  else r.hosts.forM VirtualHost.check

/-- The diagnostic rendering. -/
def debug (r : Registry) : String :=
  Text.record "HostRegistry" [("hosts", Text.list (r.hosts.map VirtualHost.debug))]

@[simp] theorem hosts_push (r : Registry) (h : VirtualHost) :
    (r.push h).hosts = r.hosts ++ [h] := rfl

end Registry

end Gatehouse.Routing
