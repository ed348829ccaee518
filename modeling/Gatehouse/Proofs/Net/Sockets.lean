import Gatehouse.Net.Machine
import Mathlib.Data.List.Nodup

namespace Gatehouse.Net.Machine

/-!
# Sockets of a machine

What requests do to the listening sockets of a machine, and what no request changes.

* `WellNumbered` — no two sockets have the same number, and a new one gets a number of its own;
* `Later` — a machine after some requests: what it has in store for further requests is the same,
  and the sockets left to accept loops meanwhile are those of waits that took too long;
* `Adds` — a machine after requests that added some sockets, and took none away;
* `adds_of_bind`, `adds_of_bind_error` — a granted and a refused request to bind;
* `sockets_release` — a socket that is given back is gone, and no other is;
* `later_awaitLoops`, `WellNumbered.awaitLoops` — a socket that is given back while loops share it.
-/

/-- The sockets that were bound and not released in time: those with an owner and those that were
    left to accept loops. -/
def unreleased (m : Machine) : List Socket := m.sockets ++ m.lingering.map (·.socket)

/-- Sockets have numbers of their own, all of them numbers of requests made so far. -/
structure WellNumbered (m : Machine) : Prop where
  nodup : (m.unreleased.map (·.number)).Nodup
  lt : ∀ s ∈ m.unreleased, s.number < m.requests

/-- A machine without sockets has none with the same number. -/
theorem wellNumbered_of_nil {m : Machine} (hsockets : m.sockets = [])
    (hlingering : m.lingering = []) : m.WellNumbered := by
  have hnone : m.unreleased = [] := by
    rw [unreleased, hsockets, hlingering, List.map_nil, List.append_nil]
  refine ⟨?_, fun s hs => ?_⟩
  · rw [hnone]
    exact List.nodup_nil
  · rw [hnone] at hs
    exact absurd hs List.not_mem_nil

/-- A machine after some requests. Sockets were left to accept loops only by requests among these
    whose wait took too long. -/
structure Later (m m' : Machine) : Prop where
  names : m'.names = m.names
  lingers : m'.lingers = m.lingers
  letGoBy : m'.letGoBy = m.letGoBy
  requests : m.requests ≤ m'.requests
  left : ∃ left, m'.lingering = m.lingering ++ left ∧
    ∀ l ∈ left, m.requests ≤ l.wait ∧ l.wait < m'.requests ∧ m.lingers l.wait = true

/-- Requests after which no more sockets are left to accept loops than before. -/
theorem Later.of_lingering {m m' : Machine} (hlingering : m'.lingering = m.lingering)
    (hrequests : m.requests ≤ m'.requests) (hnames : m'.names = m.names)
    (hlingers : m'.lingers = m.lingers) (hletGoBy : m'.letGoBy = m.letGoBy) : m.Later m' :=
  ⟨hnames, hlingers, hletGoBy, hrequests, [], by rw [hlingering, List.append_nil], nofun⟩

theorem Later.refl (m : Machine) : m.Later m := .of_lingering rfl (Nat.le_refl _) rfl rfl rfl

theorem Later.trans {m m' m'' : Machine} (h : m.Later m') (h' : m'.Later m'') : m.Later m'' := by
  obtain ⟨left, hleft, hwaits⟩ := h.left
  obtain ⟨left', hleft', hwaits'⟩ := h'.left
  refine ⟨h'.names.trans h.names, h'.lingers.trans h.lingers, h'.letGoBy.trans h.letGoBy,
    Nat.le_trans h.requests h'.requests, left ++ left', ?_, fun l hl => ?_⟩
  · rw [hleft', hleft, List.append_assoc]
  · rcases List.mem_append.1 hl with hold | hnew
    · obtain ⟨hfrom, hto, hlate⟩ := hwaits l hold
      exact ⟨hfrom, Nat.lt_of_lt_of_le hto h'.requests, hlate⟩
    · obtain ⟨hfrom, hto, hlate⟩ := hwaits' l hnew
      exact ⟨Nat.le_trans h.requests hfrom, hto, h.lingers ▸ hlate⟩

/-- A machine after requests that added some sockets. -/
structure Adds (m : Machine) (added : List Socket) (m' : Machine) : Prop where
  sockets : m'.sockets = m.sockets ++ added
  lingering : m'.lingering = m.lingering
  later : m.Later m'
  wellNumbered : m.WellNumbered → m'.WellNumbered

theorem Adds.refl (m : Machine) : m.Adds [] m := ⟨(List.append_nil _).symm, rfl, .refl m, id⟩

theorem Adds.trans {m m' m'' : Machine} {added added' : List Socket} (h : m.Adds added m')
    (h' : m'.Adds added' m'') : m.Adds (added ++ added') m'' := by
  refine ⟨?_, h'.lingering.trans h.lingering, h.later.trans h'.later,
    fun hm => h'.wellNumbered (h.wellNumbered hm)⟩
  rw [h'.sockets, h.sockets, List.append_assoc]

theorem later_asked (m : Machine) : m.Later m.asked :=
  .of_lingering rfl (Nat.le_succ _) rfl rfl rfl

/-- A request that is not about sockets leaves them alone. -/
theorem adds_asked (m : Machine) : m.Adds [] m.asked :=
  ⟨(List.append_nil _).symm, rfl, later_asked m,
    fun h => ⟨h.nodup, fun s hs => Nat.lt_succ_of_lt (h.lt s hs)⟩⟩

theorem WellNumbered.asked {m : Machine} (h : m.WellNumbered) : m.asked.WellNumbered :=
  (adds_asked m).wellNumbered h

/-- A socket that anybody holds was not released. -/
theorem mem_unreleased_of_bound {m : Machine} {s : Socket} (h : s ∈ m.bound) :
    s ∈ m.unreleased := by
  rcases List.mem_append.1 h with howned | hheld
  · exact List.mem_append_left _ howned
  · obtain ⟨l, hl, rfl⟩ := List.mem_map.1 hheld
    exact List.mem_append_right _ (List.mem_map_of_mem (List.mem_filter.1 hl).1)

/-! ### Binding -/

/-- A port that is asked for is the one that is bound. -/
theorem eq_of_choosePort? {m : Machine} {a : SocketAddress} {port : Nat}
    (h : m.choosePort? a = some port) (hport : a.port ≠ 0) : port = a.port := by
  rw [choosePort?, if_neg hport] at h
  obtain ⟨-, hfree⟩ := Option.ite_none_left_eq_some.1 h
  exact (Option.some.inj hfree).symm

/-- A granted request to bind gives a socket on the address, with a number of its own. -/
theorem bind_eq_ok {m m' : Machine} {a : SocketAddress} {s : Socket}
    (h : m.bind a = (.ok s, m')) :
    s.number = m.requests ∧ s.address.ip = a.ip ∧ (a.port ≠ 0 → s.address.port = a.port) ∧
      m' = { m.asked with sockets := m.sockets ++ [s] } := by
  rw [bind] at h
  split at h
  · cases h
  · cases h
  · next port _ hport =>
    obtain ⟨hs, rfl⟩ := Prod.mk.inj h
    obtain rfl := Except.ok.inj hs
    exact ⟨rfl, rfl, eq_of_choosePort? hport, rfl⟩

/-- A granted request to bind adds its socket. -/
theorem adds_of_bind {m m' : Machine} {a : SocketAddress} {s : Socket}
    (h : m.bind a = (.ok s, m')) : m.Adds [s] m' := by
  obtain ⟨hnumber, -, -, rfl⟩ := bind_eq_ok h
  refine ⟨rfl, rfl, .of_lingering rfl (Nat.le_succ _) rfl rfl rfl, fun hm => ?_⟩
  have hperm : (m.sockets ++ [s] ++ m.lingering.map (·.socket)).Perm (s :: m.unreleased) := by
    rw [List.append_assoc]
    exact List.perm_middle
  refine ⟨((hperm.map (·.number)).nodup_iff).2 (List.nodup_cons.2 ⟨fun hn => ?_, hm.nodup⟩),
    fun s' hs' => ?_⟩
  -- A number given out before is below that of the present request.
  · obtain ⟨s', hs', hsame⟩ := List.mem_map.1 hn
    have hnumber' : s'.number = m.requests := hsame.trans hnumber
    exact absurd (hm.lt s' hs') (hnumber' ▸ Nat.lt_irrefl _)
  · show s'.number < m.requests + 1
    rcases List.mem_cons.1 (hperm.mem_iff.1 hs') with rfl | hold
    · exact hnumber ▸ Nat.lt_succ_self _
    · exact Nat.lt_succ_of_lt (hm.lt s' hold)

/-- A refused request to bind leaves the sockets alone. -/
theorem adds_of_bind_error {m m' : Machine} {a : SocketAddress} {f : BindFault}
    (h : m.bind a = (.error f, m')) : m.Adds [] m' := by
  have hasked : m' = m.asked := by
    rw [bind] at h
    split at h
    · exact (Prod.mk.inj h).2.symm
    · exact (Prod.mk.inj h).2.symm
    · cases h
  rw [hasked]
  exact adds_asked m

/-! ### Giving back -/

/-- A socket that is given back is gone, and no other is. -/
theorem sockets_release {m : Machine} {s : Socket} {front back : List Socket}
    (h : m.WellNumbered) (hs : m.sockets = front ++ s :: back) :
    (m.release s).sockets = front ++ back := by
  have hnodup := h.nodup
  rw [unreleased, List.map_append] at hnodup
  replace hnodup := (List.nodup_append.1 hnodup).1
  rw [hs, List.map_append, List.map_cons, List.nodup_middle, List.nodup_cons] at hnodup
  have hother : ∀ s' ∈ front ++ back, decide (s'.number ≠ s.number) = true := by
    intro s' hs'
    refine decide_eq_true fun hsame => hnodup.1 ?_
    rw [← hsame, ← List.map_append]
    exact List.mem_map_of_mem hs'
  show m.sockets.filter (fun s' => decide (s'.number ≠ s.number)) = front ++ back
  rw [hs, List.filter_append, List.filter_cons_of_neg (by simp), ← List.filter_append]
  exact List.filter_eq_self.2 hother

theorem sockets_awaitLoops (m : Machine) (s : Socket) :
    (m.awaitLoops s).2.sockets = (m.release s).sockets := by
  rw [awaitLoops]
  split <;> rfl

theorem requests_awaitLoops (m : Machine) (s : Socket) :
    (m.awaitLoops s).2.requests = m.requests + 1 := by
  rw [awaitLoops]
  split <;> rfl

theorem lingers_awaitLoops (m : Machine) (s : Socket) :
    (m.awaitLoops s).2.lingers = m.lingers := by
  rw [awaitLoops]
  split <;> rfl

/-- Loops that do not end in time go on with the socket. -/
theorem lingering_awaitLoops (m : Machine) (s : Socket) :
    (m.awaitLoops s).2.lingering
      = m.lingering ++ if m.lingers m.requests then [⟨s, m.requests⟩] else [] := by
  rw [awaitLoops]
  split
  · rfl
  · exact (List.append_nil _).symm

theorem later_awaitLoops (m : Machine) (s : Socket) : m.Later (m.awaitLoops s).2 := by
  rw [awaitLoops]
  split
  · next hlate =>
    refine ⟨rfl, rfl, rfl, Nat.le_succ _, [⟨s, m.requests⟩], rfl, fun l hl => ?_⟩
    obtain rfl := List.mem_singleton.1 hl
    exact ⟨Nat.le_refl _, Nat.lt_succ_self _, hlate⟩
  · exact .of_lingering rfl (Nat.le_succ _) rfl rfl rfl

/-- Whether or not the loops end in time, the socket keeps its number to itself. -/
theorem WellNumbered.awaitLoops {m : Machine} {s : Socket} {front back : List Socket}
    (h : m.WellNumbered) (hs : m.sockets = front ++ s :: back) :
    (m.awaitLoops s).2.WellNumbered := by
  have hperm : m.unreleased.Perm (front ++ back ++ m.lingering.map (·.socket) ++ [s]) := by
    rw [unreleased, hs, List.append_assoc, List.cons_append, List.append_assoc front]
    exact List.perm_middle.trans (List.perm_append_singleton s _).symm
  have hsub : (m.awaitLoops s).2.unreleased.Sublist
      (front ++ back ++ m.lingering.map (·.socket) ++ [s]) := by
    rw [unreleased, sockets_awaitLoops, sockets_release h hs, lingering_awaitLoops,
      List.map_append, ← List.append_assoc]
    refine List.Sublist.append_left ?_ _
    split
    · exact List.Sublist.refl _
    · exact List.nil_sublist _
  refine ⟨(((hperm.map (·.number)).nodup_iff).1 h.nodup).sublist (hsub.map _), fun s' hs' => ?_⟩
  rw [requests_awaitLoops]
  exact Nat.lt_succ_of_lt (h.lt s' (hperm.mem_iff.2 (hsub.subset hs')))

end Gatehouse.Net.Machine
