import Gatehouse.Worker.Basic

namespace Gatehouse.Worker

/-!
# Listening channels

A bound socket whose accept loops run on a worker.

* `Channel.listen` — binds the socket; nothing is accepted yet;
* `Channel.resume` — starts the accept loops;
* `Channel.close` — gives the socket back and tells the accept loops to end; those that do not end
  in time go on holding the socket.
-/

/-- A bound listening socket. -/
structure Channel where
  socket : Net.Socket
  options : SocketOptions
  isOpen : Bool
  isAccepting : Bool
  deriving DecidableEq, Repr, Inhabited

namespace Channel

/-- The address that was bound. -/
def address (c : Channel) : Net.SocketAddress := c.socket.address

/-- Binds an address for a worker that still runs. -/
def listen (m : Net.Machine) (w : Worker) (a : Net.SocketAddress) (o : SocketOptions) :
    Except ServerError Channel × Net.Machine :=
  match w.handle with
  | .error e => (.error e, m)
  | .ok _ =>
    let (bound, m) := m.bind a
    match bound with
    | .error fault => (.error (.bind (a.text ++ ": " ++ fault.message)), m)
    | .ok socket => (.ok ⟨socket, o, true, false⟩, m)

/-- Starts the accept loops, unless the channel is closed. -/
def resume (c : Channel) : Channel := if c.isOpen then { c with isAccepting := true } else c

/-- The error of a channel whose accept loops went on for too long. -/
def lingering (c : Channel) : ServerError :=
  .stop ("accept loop on " ++ c.address.text ++ " did not stop in time")

/-- The channel once it has given its socket back. -/
def closed (c : Channel) : Channel := { c with isOpen := false, isAccepting := false }

/-- Gives the socket back and waits for the accept loops, if any were started. The channel is closed
    whether or not they end in time. Closing twice does nothing. -/
def close (m : Net.Machine) (c : Channel) : Except ServerError Unit × Channel × Net.Machine :=
  if !c.isOpen then (.ok (), c, m)
  else if !c.isAccepting then (.ok (), c.closed, m.release c.socket)
  else
    let (inTime, m) := m.awaitLoops c.socket
    (if inTime then .ok () else .error c.lingering, c.closed, m)

@[simp] theorem isOpen_close (m : Net.Machine) (c : Channel) : (c.close m).2.1.isOpen = false := by
  unfold close
  split
  · simp_all
  · split <;> rfl

end Channel

end Gatehouse.Worker
