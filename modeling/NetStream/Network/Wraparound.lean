import NetStream.Network.Handshake
import NetStream.Server.Wraparound

/-!
# A uid that two clients have had

What the server can do with connections of anyone, it can do with connections of clients that run
the client actor: each of them joins from an address of its own (`exists_path_of_server`). So the
uid counter wraps around among honest clients too, and the entry for the address of the first client
outlives the peer that has its uid (`agreement_fails_after_wraparound`).
-/

namespace NetStream.Network

open Server (PeerUid address issued plainMessages uuid)

variable {M : MessageTypes} {s : State M}

/-- The UUID that is drawn for a connection attempt. -/
def Action.drawn? : Action M → Option Uuid
  | .server a => a.drawn?
  | .accept _ _ choice => some choice.newV4
  | _ => none

theorem drawn?_serverAction (s : State M) (a : Action M) :
    (s.serverAction a).bind Server.Action.drawn? = a.drawn? := by
  cases a with
  | udp k i => cases h : s.datagram k i <;> simp [State.serverAction, h, Action.drawn?,
      Server.Action.drawn?]
  | _ => rfl

/-- What is drawn at the server. -/
theorem drawn_serverHist (hist : List (State M × Action M)) :
    ((serverHist hist).map Prod.snd).filterMap Server.Action.drawn? =
      (hist.map Prod.snd).filterMap Action.drawn? := by
  induction hist with
  | nil => rfl
  | cons x hist ih =>
    obtain ⟨s, a⟩ := x
    have hcons : serverHist ((s, a) :: hist) =
        ((s.serverAction a).map fun b ↦ (s.server, b)).toList ++ serverHist hist := by
      cases h : s.serverAction a <;> simp [serverHist, TransitionSystem.projectHist, h]
    have ha := drawn?_serverAction s a
    rw [hcons, List.map_append, List.filterMap_append, ih, List.map_cons, List.filterMap_cons, ← ha]
    cases s.serverAction a with
    | none => rfl
    | some b => cases h : b.drawn? <;> simp [h]

/-! ### Visitors with an address of their own -/

/-- The address of the client that joins with this number. -/
def visitorAddress (n : ℕ) : SocketAddr :=
  .v6 (BitVec.ofNat 128 n) 0 0 0

theorem visitorAddress_inj {m n : ℕ} (hm : m < 2 ^ 128) (hn : n < 2 ^ 128)
    (h : visitorAddress m = visitorAddress n) : m = n := by
  have hip := (SocketAddr.v6.inj h).1
  have hval : m % 2 ^ 128 = n % 2 ^ 128 := congrArg BitVec.toNat hip
  rwa [Nat.mod_eq_of_lt hm, Nat.mod_eq_of_lt hn] at hval

/-- The addresses of visitors to come are free. -/
def State.Roomy (s : State M) : Prop :=
  ∀ n, s.nodes.length ≤ n → n < 2 ^ 128 → visitorAddress n ∉ s.nodes.map Node.udpSocketAddr

theorem State.Roomy.visit (h : s.Roomy) (hlt : s.nodes.length < 2 ^ 128) {t : State M}
    (ht : t.nodes.map Node.udpSocketAddr =
      s.nodes.map Node.udpSocketAddr ++ [visitorAddress s.nodes.length]) : t.Roomy := by
  have hlen : t.nodes.length = s.nodes.length + 1 := by
    simpa using congrArg List.length ht
  intro n hge hn hmem
  rw [ht] at hmem
  rcases List.mem_append.1 hmem with hmem | hmem
  · exact h n (by omega) hn hmem
  · have heq := visitorAddress_inj hn hlt (List.mem_singleton.1 hmem)
    omega

/-- A connection attempt of a new client. -/
theorem exists_path_accept (hroom : s.Roomy) (hlt : s.nodes.length < 2 ^ 128)
    {peerAddr : Except Unit SocketAddr} {choice : Server.Choice} {t : Server.State M}
    (hs : s.server.step (.next (.tcpListener (.ok ⟨peerAddr⟩)) choice) = some t) : ∃ s' : State M,
      (system M).Path s [.join (visitorAddress s.nodes.length),
        .accept s.nodes.length peerAddr choice] s' ∧ s'.server = t ∧
      s'.nodes.length = s.nodes.length + 1 ∧ s'.Roomy := by
  let node : Node M := ⟨visitorAddress s.nodes.length, false, 0, .start⟩
  have hjoin : s.step (.join (visitorAddress s.nodes.length)) =
      some { s with nodes := s.nodes ++ [node] } := by
    simp only [State.step, if_neg (hroom s.nodes.length (Nat.le_refl _) hlt)]
    rfl
  have haccept : State.step { s with nodes := s.nodes ++ [node] }
      (.accept s.nodes.length peerAddr choice) = some
        { server := t
          nodes := (s.nodes ++ [node]).set s.nodes.length { node with offered := true }
          owners :=
            if s.server.streams.length < t.streams.length then s.owners ++ [s.nodes.length]
            else s.owners } := by
    simp only [State.step, List.getElem?_concat_length, hs, Option.map_some]
    rfl
  refine ⟨_, .cons hjoin (.cons haccept (.nil _)), rfl, ?_, hroom.visit hlt ?_⟩
  · show ((s.nodes ++ [node]).set _ _).length = _
    rw [List.length_set, List.length_append, List.length_singleton]
  · show ((s.nodes ++ [node]).set _ _).map _ = _
    rw [List.set_append_right _ _ (Nat.le_refl _), Nat.sub_self, List.map_append]
    rfl

/-- A step of the server without a datagram. -/
theorem exists_path_of_step {a : Server.Action M} {t : Server.State M}
    (hs : s.server.step a = some t) (hno : a.isDatagram = false) (hroom : s.Roomy)
    (hlt : s.nodes.length + a.drawn?.toList.length ≤ 2 ^ 128) : ∃ l s', (system M).Path s l s' ∧
      s'.server = t ∧ l.filterMap Action.drawn? = a.drawn?.toList ∧
      s'.nodes.length ≤ s.nodes.length + a.drawn?.toList.length ∧ s'.Roomy := by
  by_cases ha : nothingFromClient a = true
  · have hstep : s.step (.server a) = some { s with server := t } := by
      simp only [State.step, ha, if_true, hs, Option.map_some]
    refine ⟨[.server a], _, .cons hstep (.nil _), rfl, ?_, Nat.le_add_right _ _, hroom⟩
    show [Action.server a].filterMap Action.drawn? = _
    cases h : a.drawn? <;> simp [Action.drawn?, h]
  · obtain ⟨⟨peerAddr⟩, choice, rfl⟩ : ∃ stream choice,
        a = .next (.tcpListener (.ok stream)) choice := by
      unfold nothingFromClient at ha
      split at ha
      · exact ⟨_, _, rfl⟩
      · cases hno
      · exact absurd rfl ha
    obtain ⟨s', hpath, hserver, hlen, hroom'⟩ := exists_path_accept hroom hlt hs
    exact ⟨_, s', hpath, hserver, rfl, Nat.le_of_eq hlen, hroom'⟩

/-- **Among honest clients** the server can do all that it can do without datagrams. -/
theorem exists_path_of_server {u t : Server.State M} {l : List (Server.Action M)}
    (hp : (Server.system M).Path u l t) (hno : ∀ a ∈ l, a.isDatagram = false) {s : State M}
    (hu : s.server = u) (hroom : s.Roomy)
    (hlt : s.nodes.length + (l.filterMap Server.Action.drawn?).length ≤ 2 ^ 128) : ∃ l' s',
      (system M).Path s l' s' ∧ s'.server = t ∧
      l'.filterMap Action.drawn? = l.filterMap Server.Action.drawn? := by
  induction hp generalizing s with
  | nil u => exact ⟨[], s, .nil s, hu, rfl⟩
  | @cons u u' t a l hs _ ih =>
    subst hu
    have hcons : (a :: l).filterMap Server.Action.drawn? =
        a.drawn?.toList ++ l.filterMap Server.Action.drawn? := by
      cases h : a.drawn? <;> simp [h]
    rw [hcons, List.length_append] at hlt
    obtain ⟨l₁, s₁, hpath₁, hserver₁, hdrawn₁, hlen₁, hroom₁⟩ :=
      exists_path_of_step hs (hno a List.mem_cons_self) hroom (by omega)
    obtain ⟨l₂, s₂, hpath₂, hserver₂, hdrawn₂⟩ :=
      ih (fun b hb ↦ hno b (List.mem_cons_of_mem _ hb)) hserver₁ hroom₁ (by omega)
    refine ⟨l₁ ++ l₂, s₂, hpath₁.append hpath₂, hserver₂, ?_⟩
    rw [hcons, List.filterMap_append, hdrawn₁, hdrawn₂]

/-! ### The agreement breaks -/

/-- A client whose Hello has been accepted. -/
theorem exists_heardGuest : ∃ hist, ∃ s : State plainMessages, Run hist s ∧
    s.server.Hospitable ∧ s.server.streams.length = 1 ∧
    s.nodes.map Node.udpSocketAddr = [address 10] ∧
    s.server.peerUdpSocketAddrToPeerUid.get? (address 10) = some (.ofNat 0) ∧
    s.server.peerTcpSocketAddrToPeerUid.get? (address 11) = none ∧
    s.server.peerHandshakeUuidToPeerUid = HashMap.new.insert (uuid 0) (.ofNat 0) ∧
    (hist.map Prod.snd).filterMap Action.drawn? = [uuid 0] := by
  have h : Run _ _ := TransitionSystem.run_of_exec (T := system plainMessages)
    (s := .start .release ⟨2⟩) (l := Action.connect 0 10 0 [] ++ Action.deliver 0 0 ++
      Action.sendUdp 0 ++ Action.datagram 0 0 [0] ++ [.server .loopTop])
    ⟨.release, ⟨2⟩, rfl⟩ rfl
  exact ⟨_, _, h, ⟨rfl, rfl, rfl, rfl, by decide, rfl⟩, rfl, rfl, by decide, by decide, rfl, rfl⟩

/-- **An entry without a peer.** After `2 ^ 64` connections the first client is connected still and
has an address; the next one gets its uid and leaves. -/
theorem agreement_fails_after_wraparound : ¬ ∀ hist (s : State plainMessages), Run hist s →
    (issued (serverHist hist)).Nodup → Agreement s := by
  intro hall
  obtain ⟨hist, s, h, hs, hlen, hnodes, hudp, htcp, huuid, hfirst⟩ := exists_heardGuest
  obtain ⟨k, hk⟩ : ∃ k, 1 + k = 2 ^ 64 := ⟨2 ^ 64 - 1, rfl⟩
  obtain ⟨l, gone, evs, rfl, hdrawn, hno, hpath⟩ := hs.path_wrapped (Server.Run.numbered h.server)
    (hlen ▸ hk) htcp fun n hge ↦ Server.get?_uuid_eq_none huuid (hlen ▸ hge)
  obtain ⟨hist₁, -, h₁⟩ := TransitionSystem.Run.append_path h.server hpath
  obtain ⟨l', streams, hdrawn', hno', hpath'⟩ := (hs.later gone evs).path_replaced
    (Server.Run.numbered h₁) (address 12) (uuid (2 ^ 64))
  have hnext : (s.server.later gone evs).nextPeerUid = .ofNat 0 :=
    Server.State.nextPeerUid_later (hlen ▸ hk)
  rw [hlen] at hdrawn
  -- the same among honest clients
  have hroom : s.Roomy := by
    intro n hge hn hmem
    rw [hnodes] at hmem
    cases List.mem_singleton.1 hmem
  have hsize : s.nodes.length = 1 := by
    simpa using congrArg List.length hnodes
  have hcount : ((l ++ l').filterMap Server.Action.drawn?).length = gone.length + 1 := by
    rw [List.filterMap_append, hdrawn, hdrawn', List.length_append, List.length_map,
      List.length_range', List.length_singleton]
  obtain ⟨l'', s', hpath'', hserver, hdrawn''⟩ := exists_path_of_server (hpath.append hpath')
    (List.forall_mem_append.2 ⟨hno, hno'⟩) rfl hroom (by omega)
  obtain ⟨hist', rfl, h'⟩ := TransitionSystem.Run.append_path h hpath''
  have hfresh : (issued (serverHist (hist ++ hist'))).Nodup := by
    refine Server.nodup_issued (n := 1 + gone.length + 1) (by omega) ?_
    rw [drawn_serverHist, List.map_append, List.filterMap_append, hfirst, hdrawn'',
      List.filterMap_append, hdrawn, hdrawn', Server.range'_first_last, List.map_append,
      List.map_cons, hk]
    rfl
  -- the entry for the address of the first client is still there
  have hidx : s'.server.peerUdpSocketAddrToPeerUid.get? (address 10) = some (.ofNat 0) := by
    rw [hserver]
    exact hudp
  have hmem := ((hall _ _ h' hfresh).indexed (address 10) (.ofNat 0) hidx).1
  have hgone : s'.server.peers.get? (.ofNat 0) = none := by
    rw [hserver, ← hnext]
    exact HashMap.get?_remove_self
  exact HashMap.get?_eq_none_iff.1 hgone hmem

end NetStream.Network
