import Gatehouse.Routing.VirtualHost
import Gatehouse.Stage.Cookies
import Gatehouse.Stage.Forms
import Gatehouse.Stage.Framing

namespace Gatehouse.Routing

open Http

/-!
# Dispatch

From a registry to the handler that serves every request: the host decides on a virtual host, its
wrappers surround its path table, and the common stages surround the choice of host.

* `HostTable` — values by host name, letter case aside, with a fallback;
* `pathHandler`, `hostHandler` — one virtual host as a handler;
* `dispatch` — the choice of host; `root` — dispatch within the common stages;
* `build` — the root handler of a registry that passes its check.
-/

/-- Values by host name in lower case; a later entry of a name stands before an earlier one. -/
structure HostTable (α : Type) where
  byName : List (String × α)
  fallback : α

namespace HostTable

variable {α : Type}

/-- The form in which host names are compared. -/
def key (name : String) : String := String.ofList (Text.lower name.toList)

/-- A table without names. -/
def ofFallback (fallback : α) : HostTable α := ⟨[], fallback⟩

/-- Files a value under a name; the last one filed is found. -/
def add (t : HostTable α) (name : String) (value : α) : HostTable α :=
  { t with byName := (key name, value) :: t.byName }

/-- Replaces the fallback. -/
def setFallback (t : HostTable α) (value : α) : HostTable α := { t with fallback := value }

/-- The value of a name, or the fallback when there is no name or it is unknown. -/
def resolve (t : HostTable α) (host : Option String) : α :=
  match host with
  | none => t.fallback
  | some name => ((t.byName.find? (·.1 = key name)).map (·.2)).getD t.fallback

@[simp] theorem resolve_none (t : HostTable α) : t.resolve none = t.fallback := rfl

theorem resolve_add_self (t : HostTable α) (name : String) (value : α) :
    (t.add name value).resolve (some name) = value := by
  simp [resolve, add]

theorem resolve_add_of_ne (t : HostTable α) {name other : String} (value : α)
    (h : key name ≠ key other) :
    (t.add name value).resolve (some other) = t.resolve (some other) := by
  simp [resolve, add, h]

end HostTable

/-! ### One host -/

/-- The path table of a host. -/
def pathTable (h : VirtualHost) : PathTable Handler :=
  h.paths.foldl (fun t p => t.add p.1 p.2.handler) .empty

/-- Records the path a request was routed on. -/
def withResolved (request : Request) (key : List Char) : Request :=
  let relative := relativePart request.target.path.toList key
  { request with resolved := some ⟨String.ofList key, String.ofList relative⟩ }

/-- Routes by path, to the fallback when no prefix covers it. -/
def pathHandler (t : PathTable Handler) (fallback : Handler) : Handler := fun request =>
  match t.resolve? request.target.path with
  | some (key, handler) => handler (withResolved request key)
  | none => fallback request

/-- A host as a handler: its wrappers around its paths, the first wrapper outermost. -/
def hostHandler (h : VirtualHost) : Handler :=
  h.wrappers.foldr (fun w inner => w inner) (pathHandler (pathTable h) h.fallback.handler)

/-! ### All hosts -/

/-- Files one host under its names, and as the fallback if it is the default host. -/
def addHost (t : HostTable Handler) (h : VirtualHost) : HostTable Handler :=
  let handler := hostHandler h
  h.names.foldl (fun t name => t.add name handler)
    (if h.isDefault then t.setFallback handler else t)

/-- The hosts of a registry by name. -/
def hostTable (r : Registry) : HostTable Handler :=
  r.hosts.foldl addHost (.ofFallback notFoundHandler)

/-- Serves a request by the host it is addressed to. -/
def dispatch (t : HostTable Handler) : Handler := fun request => t.resolve request.host request

/-- The common stages around a handler: cookies outermost, then forms, then error pages. -/
def root (inner : Handler) : Handler := Stage.cookies (Stage.forms (Stage.errorPages inner))

/-- The handler that serves a registry, once the registry passes its check. -/
def build (r : Registry) : Except RegistryFault Handler := do
  r.check
  return root (dispatch (hostTable r))

end Gatehouse.Routing
