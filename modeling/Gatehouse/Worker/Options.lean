import Gatehouse.Text.Quoted

namespace Gatehouse.Worker

/-!
# Worker options

* `Options` — thread counts, water marks and how connections are written;
* `SocketOptions` — one listening socket.
-/

/-- How a worker runs. -/
structure Options where
  ioThreads : Nat
  workerThreads : Nat
  highWater : Nat
  lowWater : Nat
  noDelay : Bool
  cork : Bool
  deriving DecidableEq, Repr, Inhabited

/-- How one listening socket is set up. -/
structure SocketOptions where
  acceptThreads : Nat
  noDelay : Bool
  reuseAddress : Bool
  backlog : Nat
  deriving DecidableEq, Repr, Inhabited

namespace Options

/-- Both water marks, unless set otherwise. -/
def standardMark : Nat := 1000000

/-- Options with the given thread counts. -/
def ofThreads (io worker : Nat) : Options := ⟨io, worker, standardMark, standardMark, true, true⟩

/-- The diagnostic rendering. -/
def debug (o : Options) : String :=
  Text.record "WorkerOptions"
    [("io_threads", toString o.ioThreads),
     ("worker_threads", toString o.workerThreads),
     ("connection_high_water", toString o.highWater),
     ("connection_low_water", toString o.lowWater),
     ("tcp_nodelay", Text.truth o.noDelay),
     ("cork", Text.truth o.cork)]

end Options

namespace SocketOptions

/-- Connections that may wait to be accepted. -/
def standardBacklog : Nat := 1024

/-- Options with the given number of accept loops. -/
def ofThreads (n : Nat) : SocketOptions := ⟨n, true, true, standardBacklog⟩

/-- The diagnostic rendering. -/
def debug (o : SocketOptions) : String :=
  Text.record "SocketOptions"
    [("accept_threads", toString o.acceptThreads),
     ("tcp_nodelay", Text.truth o.noDelay),
     ("reuse_address", Text.truth o.reuseAddress),
     ("backlog", toString o.backlog)]

end SocketOptions

end Gatehouse.Worker
