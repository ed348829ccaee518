import Gatehouse.Text.Quoted

namespace Gatehouse

/-!
# Errors

Every fallible operation of the server reports a `ServerError`. The nested types narrow down the
stage that failed: configuration, start, lifecycle, or the data of a TLS session.

* `ServerError` — all errors; `ServerError.message` — its wording; `ServerError.debug` — its
  diagnostic rendering;
* `ConfigFault`, `StartFault`, `LifecycleFault`, `SslFault`, `CertificateFault` — the families.
-/

/-- What is wrong with a configuration. -/
inductive ConfigFault where
  | validation (reason : String)
  | listener (reason : String)
  | virtualHost (reason : String)
  | security (reason : String)
  | settings (reason : String)
  deriving DecidableEq, Repr

/-- What kept the server from starting, binding aside. -/
inductive StartFault where
  | tls (reason : String)
  | worker (reason : String)
  deriving DecidableEq, Repr

/-- A transition that the lifecycle does not allow. -/
inductive LifecycleFault where
  | alreadyRunning
  | alreadyStopped
  | concurrentTransition
  | workerShutdown
  deriving DecidableEq, Repr

/-- Why a certificate cannot be decoded: its text form, or its contents. -/
inductive CertificateFault where
  | encoding (reason : String)
  | x509 (reason : String)
  deriving DecidableEq, Repr

/-- What is wrong with the data of a TLS session. -/
inductive SslFault where
  | peerUnverified
  | certificate (fault : CertificateFault)
  | sessionId (reason : String)
  deriving DecidableEq, Repr

/-- Every error of the server. -/
inductive ServerError where
  | config (fault : ConfigFault)
  | bind (reason : String)
  | start (fault : StartFault)
  | stop (reason : String)
  | handler (reason : String)
  | lifecycle (fault : LifecycleFault)
  | ssl (fault : SslFault)
  | codec (reason : String)
  deriving DecidableEq, Repr

/-! ### Wording -/

/-- The wording of a configuration fault. -/
def ConfigFault.message : ConfigFault → String
  | .validation reason => "Invalid server config: " ++ reason
  | .listener reason => "Invalid listener config: " ++ reason
  | .virtualHost reason => "Invalid virtual host config: " ++ reason
  | .security reason => "Invalid security config: " ++ reason
  | .settings reason => "Invalid settings: " ++ reason

/-- The wording of a start fault. -/
def StartFault.message : StartFault → String
  | .tls reason => "Tls initialization: " ++ reason
  | .worker reason => "Worker initialization: " ++ reason

/-- The wording of a lifecycle fault. -/
def LifecycleFault.message : LifecycleFault → String
  | .alreadyRunning => "Server is already running"
  | .alreadyStopped => "Server has been stopped and cannot be restarted"
  | .concurrentTransition => "Another lifecycle transition is in progress"
  | .workerShutdown => "Worker has been shut down"

/-- The wording of a certificate fault. -/
def CertificateFault.message : CertificateFault → String
  | .encoding reason => "Invalid certificate encoding: " ++ reason
  | .x509 reason => "Invalid X.509 certificate: " ++ reason

/-- The wording of a session fault. -/
def SslFault.message : SslFault → String
  | .peerUnverified => "Peer unverified"
  | .certificate fault => "Certificate decoding: " ++ fault.message
  | .sessionId reason => "Invalid session id: " ++ reason

/-- The wording of an error, from the outside in. -/
def ServerError.message : ServerError → String
  | .config fault => "Configuration error: " ++ fault.message
  | .bind reason => "Failed to bind to address: " ++ reason
  | .start fault => "Failed to start server: " ++ fault.message
  | .stop reason => "Failed to stop server: " ++ reason
  | .handler reason => "Handler error: " ++ reason
  | .lifecycle fault => "Lifecycle error: " ++ fault.message
  | .ssl fault => "Ssl error: " ++ fault.message
  | .codec reason => "Codec error: " ++ reason

/-! ### Diagnostic rendering -/

open Text (applied quote)

/-- The diagnostic rendering of a configuration fault. -/
def ConfigFault.debug : ConfigFault → String
  | .validation reason => applied "Validation" (quote reason)
  | .listener reason => applied "Listener" (quote reason)
  | .virtualHost reason => applied "VirtualHost" (quote reason)
  | .security reason => applied "Security" (quote reason)
  | .settings reason => applied "Settings" (quote reason)

/-- The diagnostic rendering of a start fault. -/
def StartFault.debug : StartFault → String
  | .tls reason => applied "Tls" (quote reason)
  | .worker reason => applied "Worker" (quote reason)

/-- The diagnostic rendering of a lifecycle fault. -/
def LifecycleFault.debug : LifecycleFault → String
  | .alreadyRunning => "AlreadyRunning"
  | .alreadyStopped => "AlreadyStopped"
  | .concurrentTransition => "ConcurrentTransition"
  | .workerShutdown => "WorkerShutdown"

/-- The diagnostic rendering of a certificate fault. -/
def CertificateFault.debug : CertificateFault → String
  | .encoding reason => applied "Encoding" (quote reason)
  | .x509 reason => applied "X509" (quote reason)

/-- The diagnostic rendering of a session fault. -/
def SslFault.debug : SslFault → String
  | .peerUnverified => "PeerUnverified"
  | .certificate fault => applied "Certificate" fault.debug
  | .sessionId reason => applied "SessionId" (quote reason)

/-- The diagnostic rendering of an error: its constructors applied to quoted texts. -/
def ServerError.debug : ServerError → String
  | .config fault => applied "Config" fault.debug
  | .bind reason => applied "Bind" (quote reason)
  | .start fault => applied "Start" fault.debug
  | .stop reason => applied "Stop" (quote reason)
  | .handler reason => applied "Handler" (quote reason)
  | .lifecycle fault => applied "Lifecycle" fault.debug
  | .ssl fault => applied "Ssl" fault.debug
  | .codec reason => applied "Codec" (quote reason)

end Gatehouse
