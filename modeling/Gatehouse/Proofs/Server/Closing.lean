import Gatehouse.Proofs.Server.Opening

namespace Gatehouse.Server

open Config Net Worker

/-!
# Closing listeners

Channels are closed in order. Whether the accept loops of one of them end in time has no influence
on the others: every channel is closed and gives its socket back. A socket is released then, unless
loops go on with it.

* `IsUp` — a channel is open and accepts connections;
* `late` — the channels whose accept loops do not end in time, in order; `overdue` — their errors;
* `Closes` — channels are closed, and only the sockets of the late ones are left to their loops;
* `closes_of_isUp` — this is what closing does;
* `Breaks.closes` — and so a start that fails leaves nothing open.
-/

/-- A channel is open and accepts connections. -/
structure IsUp (channel : Channel) : Prop where
  isOpen : channel.isOpen = true
  isAccepting : channel.isAccepting = true

theorem Serves.isUp {names : Nat → Names} {l : Listener} {channel : Channel}
    (h : Serves names l channel) : IsUp channel := ⟨h.isOpen, h.isAccepting⟩

/-- Channels that serve listeners are up. -/
theorem isUp_of_serves {names : Nat → Names} {ls : List Listener} {channels : List Channel}
    (h : List.Forall₂ (Serves names) ls channels) : ∀ channel ∈ channels, IsUp channel := by
  induction h with
  | nil => exact fun channel hmem => absurd hmem List.not_mem_nil
  | cons first later ih =>
    intro channel hmem
    rcases List.mem_cons.1 hmem with rfl | hlater
    · exact first.isUp
    · exact ih channel hlater

/-- The channels whose accept loops do not end in time, when each channel in turn is the subject of
    one request, with the numbers of these requests. -/
def late (m : Machine) (channels : List Channel) : List (Channel × Nat) :=
  (channels.zipIdx m.requests).filter fun p => m.lingers p.2

/-- The errors of the channels whose accept loops do not end in time. -/
def overdue (m : Machine) (channels : List Channel) : List ServerError :=
  (late m channels).map fun p => p.1.lingering

/-- The sockets that the accept loops of channels go on with. -/
def leftover (m : Machine) (channels : List Channel) : List Lingering :=
  (late m channels).map fun p => ⟨p.1.socket, p.2⟩

/-- Channels are closed, whichever of them close late. -/
structure Closes (m : Machine) (channels : List Channel) (m' : Machine) : Prop where
  /-- Every channel is closed; the errors are those of the late ones, in order. -/
  closed : closeAll m channels = (overdue m channels, channels.map Channel.closed, m')
  /-- Every channel has given its socket back. -/
  sockets : m.sockets = m'.sockets ++ channels.map (·.socket)
  /-- Accept loops go on with the sockets of the late channels. -/
  lingering : m'.lingering = m.lingering ++ leftover m channels
  /-- The socket of a channel that closed in time is not bound any more. -/
  released : ∀ channel ∈ channels, channel ∉ (late m channels).map (·.1) →
    channel.socket ∉ m'.bound
  later : m.Later m'

section Closing

variable {m : Machine} {channel : Channel} {channels : List Channel}

theorem close_eq (h : IsUp channel) :
    channel.close m
      = (if m.lingers m.requests then .error channel.lingering else .ok (), channel.closed,
          (m.awaitLoops channel.socket).2) := by
  rw [Channel.close, h.isOpen, h.isAccepting]
  cases hlingers : m.lingers m.requests <;> simp [Machine.awaitLoops, hlingers]

theorem late_cons (m : Machine) (channel : Channel) (channels : List Channel) :
    late m (channel :: channels)
      = (if m.lingers m.requests then [(channel, m.requests)] else [])
          ++ late (m.awaitLoops channel.socket).2 channels := by
  rw [late, late, List.zipIdx_cons, List.filter_cons, Machine.requests_awaitLoops,
    Machine.lingers_awaitLoops]
  cases m.lingers m.requests <;> rfl

theorem closeAll_cons (h : IsUp channel) :
    closeAll m (channel :: channels)
      = ((if m.lingers m.requests then [channel.lingering] else [])
          ++ (closeAll (m.awaitLoops channel.socket).2 channels).1,
          channel.closed :: (closeAll (m.awaitLoops channel.socket).2 channels).2.1,
          (closeAll (m.awaitLoops channel.socket).2 channels).2.2) := by
  rw [closeAll, close_eq h]
  cases m.lingers m.requests <;> rfl

/-- Closing reports the channels whose accept loops do not end in time, all of them and in order. -/
theorem errors_closeAll (h : ∀ channel ∈ channels, IsUp channel) :
    (closeAll m channels).1 = overdue m channels := by
  induction channels generalizing m with
  | nil => rfl
  | cons channel channels ih =>
    obtain ⟨hfirst, hlater⟩ := List.forall_mem_cons.1 h
    rw [closeAll_cons hfirst, ih hlater, overdue, overdue, late_cons]
    cases m.lingers m.requests <;> rfl

/-- Closing leaves every channel closed. -/
theorem channels_closeAll (h : ∀ channel ∈ channels, IsUp channel) :
    (closeAll m channels).2.1 = channels.map Channel.closed := by
  induction channels generalizing m with
  | nil => rfl
  | cons channel channels ih =>
    obtain ⟨hfirst, hlater⟩ := List.forall_mem_cons.1 h
    rw [closeAll_cons hfirst, List.map_cons, ← ih hlater]

theorem later_closeAll (h : ∀ channel ∈ channels, IsUp channel) :
    m.Later (closeAll m channels).2.2 := by
  induction channels generalizing m with
  | nil => exact .refl m
  | cons channel channels ih =>
    obtain ⟨hfirst, hlater⟩ := List.forall_mem_cons.1 h
    rw [closeAll_cons hfirst]
    exact (Machine.later_awaitLoops m channel.socket).trans (ih hlater)

/-- Closing leaves the sockets of the late channels to their accept loops. -/
theorem lingering_closeAll (h : ∀ channel ∈ channels, IsUp channel) :
    (closeAll m channels).2.2.lingering = m.lingering ++ leftover m channels := by
  induction channels generalizing m with
  | nil => exact (List.append_nil _).symm
  | cons channel channels ih =>
    obtain ⟨hfirst, hlater⟩ := List.forall_mem_cons.1 h
    rw [closeAll_cons hfirst, ih hlater, Machine.lingering_awaitLoops, leftover, leftover,
      late_cons, List.map_append, List.append_assoc]
    cases m.lingers m.requests <;> rfl

variable {others : List Socket}

/-- Closing gives back the socket of every channel, and no other socket. -/
theorem givesBack_closeAll (h : ∀ channel ∈ channels, IsUp channel) (hm : m.WellNumbered)
    (hsockets : m.sockets = others ++ channels.map (·.socket)) :
    (closeAll m channels).2.2.sockets = others ∧ (closeAll m channels).2.2.WellNumbered := by
  induction channels generalizing m with
  | nil => exact ⟨by rw [closeAll, hsockets, List.map_nil, List.append_nil], hm⟩
  | cons channel channels ih =>
    obtain ⟨hfirst, hlater⟩ := List.forall_mem_cons.1 h
    rw [closeAll_cons hfirst]
    refine ih hlater (hm.awaitLoops hsockets) ?_
    rw [Machine.sockets_awaitLoops]
    exact Machine.sockets_release hm hsockets

/-- Channels that are up are closed, and what their loops go on with is left over. -/
theorem closes_of_isUp (h : ∀ channel ∈ channels, IsUp channel) (hm : m.WellNumbered)
    (hsockets : m.sockets = others ++ channels.map (·.socket)) :
    Closes m channels (closeAll m channels).2.2 where
  closed := by rw [← errors_closeAll h, ← channels_closeAll h]
  sockets := by rw [(givesBack_closeAll h hm hsockets).1, hsockets]
  lingering := lingering_closeAll h
  released := by
    intro channel hmem hinTime hbound
    have hnodup : (others ++ channels.map (·.socket) ++ m.lingering.map (·.socket)).Nodup := by
      rw [← hsockets]
      exact hm.nodup.of_map _
    obtain ⟨hsplit, -, hold⟩ := List.nodup_append.1 hnodup
    obtain ⟨-, hchannels, hothers⟩ := List.nodup_append.1 hsplit
    have hsocket : channel.socket ∈ channels.map (·.socket) := List.mem_map_of_mem hmem
    -- What is bound belongs to somebody else, was left over before, or is left over now.
    have hcases := Machine.mem_unreleased_of_bound hbound
    rw [Machine.unreleased, (givesBack_closeAll h hm hsockets).1, lingering_closeAll h,
      List.map_append, List.mem_append, List.mem_append] at hcases
    rcases hcases with hother | hbefore | hleft
    · exact hothers _ hother _ hsocket rfl
    · exact hold _ (List.mem_append_right _ hsocket) _ hbefore rfl
    · rw [leftover, List.map_map] at hleft
      obtain ⟨p, hp, hsame⟩ := List.mem_map.1 hleft
      have hin : p.1 ∈ channels := List.fst_mem_of_mem_zipIdx (List.mem_filter.1 hp).1
      obtain rfl := List.inj_on_of_nodup_map hchannels hin hmem hsame
      exact hinTime (List.mem_map_of_mem hp)
  later := later_closeAll h

/-- The machine that closing leaves behind. -/
theorem Closes.machine {m' : Machine} (h : Closes m channels m') :
    (closeAll m channels).2.2 = m' := by
  rw [h.closed]

end Closing

/-! ### What a start leaves behind -/

section Start

variable {c : ServerConfig} {m m' : Machine}

/-- A successful start leaves a running worker. -/
theorem Starts.isRunning {set : ListenerSet} (h : Starts m c set m') :
    set.worker.isRunning = true := by
  obtain ⟨handlers, threads, opened⟩ := h
  exact isRunning_of_create threads

/-- A successful start opens a channel for each listener, in order. -/
theorem Starts.serves {set : ListenerSet} (h : Starts m c set m') :
    List.Forall₂ (Serves m.names) c.listeners set.channels := by
  obtain ⟨handlers, threads, opened⟩ := h
  rw [← (adds_of_create threads).later.names]
  exact opened.serves

/-- A successful start adds the sockets of its channels. -/
theorem Starts.adds {set : ListenerSet} (h : Starts m c set m') :
    m.Adds (set.channels.map (·.socket)) m' := by
  obtain ⟨handlers, threads, opened⟩ := h
  exact (adds_of_create threads).trans opened.adds

/-- When a start breaks off, the channels open by then are up. -/
theorem Breaks.isUp {channels : List Channel} {e : ServerError} (h : Breaks m c channels e m') :
    ∀ channel ∈ channels, IsUp channel := by
  cases h with
  | handlers handlers => exact fun _ h => absurd h List.not_mem_nil
  | threads handlers threads => exact fun _ h => absurd h List.not_mem_nil
  | listener handlers threads failed =>
    obtain ⟨-, opened, -⟩ := failed
    exact isUp_of_serves opened.serves

/-- When a start breaks off, the sockets of the channels open by then are added. -/
theorem Breaks.adds {channels : List Channel} {e : ServerError} (h : Breaks m c channels e m') :
    m.Adds (channels.map (·.socket)) m' := by
  cases h with
  | handlers handlers => exact .refl m
  | threads handlers threads => exact adds_of_create threads
  | listener handlers threads failed => exact (adds_of_create threads).trans failed.adds

/-- When a start breaks off, the channels open by then are closed, and the sockets that have an
    owner are those of before. -/
theorem Breaks.closes {channels : List Channel} {e : ServerError} (hm : m.WellNumbered)
    (h : Breaks m c channels e m') :
    Closes m' channels (closeAll m' channels).2.2 ∧
      (closeAll m' channels).2.2.sockets = m.sockets := by
  have hbroken := h.adds.wellNumbered hm
  exact ⟨closes_of_isUp h.isUp hbroken h.adds.sockets,
    (givesBack_closeAll h.isUp hbroken h.adds.sockets).1⟩

end Start

end Gatehouse.Server
