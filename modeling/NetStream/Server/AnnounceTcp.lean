import NetStream.Server.Writers

/-!
# TCP announcements

`announce_tcp` sends a clone of the message to the write actor of each peer, in the order in which
the map is iterated; an error is only logged. That is what a message to each peer by itself does, in
any order (`Run.announceTcp_eq_toEachPeerTcp`):

* both are a `sendTcp` for each connection that a connected peer writes to, and sends to two
  connections commute, as the connections share nothing;
* no two peers write to one connection, so each is offered the message once, whatever becomes of the
  offers to the others.
-/

namespace NetStream.Server

variable {M : MessageTypes} {s : State M}

/-- `announce_tcp` with the clone of the message that each peer is sent. -/
def announceTcpClones (cloneMsg : M.TcpFromServer → M.TcpFromServer) (s : State M)
    (order : List PeerUid) (msg : TcpFromServer M) : State M :=
  order.foldl (fun s peerUid ↦
    match s.peers.get? peerUid with
    | some peer => s.sendTcp peer.tcpWriteActorHandle (msg.clone cloneMsg)
    | none => s) s

theorem announceTcpClones_eq {cloneMsg : M.TcpFromServer → M.TcpFromServer}
    (hclone : ∀ m, cloneMsg m = m) (s : State M) (order : List PeerUid) (msg : TcpFromServer M) :
    announceTcpClones cloneMsg s order msg = announceTcp s order msg := by
  show announceTcp s order (msg.clone cloneMsg) = _
  rw [TcpFromServer.clone_eq hclone]

/-- A message over TCP to each peer by itself. -/
def toEachPeerTcp (s : State M) (order : List PeerUid) (msg : M.TcpFromServer) : State M :=
  order.foldl (fun s p ↦ handleActorMessage s (.toPeerTcp p msg) [] []) s

/-! ### Sends commute -/

theorem State.sendTcp_comm (s : State M) (handle handle' : WriteActorHandle)
    (msg : TcpFromServer M) :
    (s.sendTcp handle msg).sendTcp handle' msg = (s.sendTcp handle' msg).sendTcp handle msg := by
  by_cases heq : handle.connection = handle'.connection
  · simp only [State.sendTcp, heq]
  · have hstreams : ((s.sendTcp handle msg).sendTcp handle' msg).streams =
        ((s.sendTcp handle' msg).sendTcp handle msg).streams := by
      refine List.ext_getElem? fun c ↦ ?_
      simp only [State.sendTcp, State.modifyConnection, List.getElem?_modify]
      by_cases hc : handle.connection = c
      · have hc' : handle'.connection ≠ c := fun h ↦ heq (hc.trans h.symm)
        simp [hc, hc']
      · simp [hc]
    exact congrArg (fun streams ↦ ({ s with streams := streams } : State M)) hstreams

theorem foldl_sendTcp_perm {cs cs' : List ℕ} (hp : cs.Perm cs') (s : State M)
    (msg : TcpFromServer M) :
    cs.foldl (fun s c ↦ s.sendTcp ⟨c⟩ msg) s = cs'.foldl (fun s c ↦ s.sendTcp ⟨c⟩ msg) s :=
  hp.foldl_eq' (fun c _ c' _ t ↦ t.sendTcp_comm ⟨c⟩ ⟨c'⟩ msg) s

/-- A message to one peer is handled as an announcement to it alone is. -/
theorem toEachPeerTcp_eq_announceTcp (s : State M) (order : List PeerUid)
    (msg : M.TcpFromServer) : toEachPeerTcp s order msg = announceTcp s order (.applicationLogic msg) :=
  rfl

/-- **An announcement does not depend on the order.** -/
theorem announceTcp_perm {order order' : List PeerUid} (hp : order.Perm order') (s : State M)
    (msg : TcpFromServer M) : announceTcp s order msg = announceTcp s order' msg := by
  rw [announceTcp_eq_foldl, announceTcp_eq_foldl]
  exact foldl_sendTcp_perm (hp.filterMap _) s msg

/-! ### Sends to different connections are independent -/

/-- What messages to several connections leave in `streams`. -/
theorem getElem?_streams_foldl_sendTcp {cs : List ℕ} (hnodup : cs.Nodup) (s : State M)
    (msg : TcpFromServer M) (c : ℕ) :
    (cs.foldl (fun s c ↦ s.sendTcp ⟨c⟩ msg) s).streams[c]? =
      if c ∈ cs then
        s.streams[c]?.map fun conn ↦ { conn with writer := conn.writer.offer (.send msg) }
      else s.streams[c]? := by
  induction cs generalizing s with
  | nil => rfl
  | cons i cs ih =>
    obtain ⟨hi, hnodup⟩ := List.nodup_cons.1 hnodup
    rw [List.foldl_cons, ih hnodup, State.sendTcp, State.modifyConnection, List.getElem?_modify]
    simp only [WriteActor.logged_send, List.mem_cons]
    by_cases hci : c = i
    · subst hci
      simp [hi]
    · have hic : i ≠ c := fun h ↦ hci h.symm
      simp [hci, hic]

theorem foldl_sendTcp_eq (cs : List ℕ) (s : State M) (msg : TcpFromServer M) :
    cs.foldl (fun s c ↦ s.sendTcp ⟨c⟩ msg) s =
      { s with streams := (cs.foldl (fun s c ↦ s.sendTcp ⟨c⟩ msg) s).streams } := by
  induction cs generalizing s with
  | nil => rfl
  | cons c cs ih => exact ih _

/-- `s'` is `s` after each connected peer's write actor, and nothing else, was offered the
message. -/
structure OfferedToEach (s : State M) (msg : TcpFromServer M) (s' : State M) : Prop where
  /-- What becomes of the offer to a peer is up to the queue of that peer's actor alone. -/
  offered : ∀ p peer conn, s.peers.get? p = some peer →
    s.streams[peer.tcpWriteActorHandle.connection]? = some conn →
    s'.streams[peer.tcpWriteActorHandle.connection]? =
      some { conn with writer := conn.writer.offer (.send msg) }
  others : ∀ c, (∀ p peer, s.peers.get? p = some peer → peer.tcpWriteActorHandle.connection ≠ c) →
    s'.streams[c]? = s.streams[c]?
  rest : s' = { s with streams := s'.streams }

theorem offeredToEach_announceTcp (hn : s.registry.Numbered) {order : List PeerUid}
    (ho : s.peers.Enumerates order) (msg : TcpFromServer M) :
    OfferedToEach s msg (announceTcp s order msg) := by
  have hnodup : (order.filterMap s.registry.writerOf).Nodup :=
    ho.nodup.filterMap fun p q c hp hq ↦ hn.writerOf_inj hp hq
  rw [announceTcp_eq_foldl]
  refine ⟨fun p peer conn hp hconn ↦ ?_, fun c hc ↦ ?_, foldl_sendTcp_eq _ s msg⟩
  · have hmem : peer.tcpWriteActorHandle.connection ∈ order.filterMap s.registry.writerOf := by
      refine List.mem_filterMap.2 ⟨p, ho.mem_iff.2 (HashMap.mem_keys_of_get? hp), ?_⟩
      simp [Registry.writerOf, State.registry, hp]
    rw [getElem?_streams_foldl_sendTcp hnodup, if_pos hmem, hconn]
    rfl
  · have hnotMem : c ∉ order.filterMap s.registry.writerOf := by
      intro hmem
      obtain ⟨p, -, hp⟩ := List.mem_filterMap.1 hmem
      obtain ⟨peer, hpeer, hcon⟩ := Option.map_eq_some_iff.1 hp
      exact hc p peer hpeer hcon
    rw [getElem?_streams_foldl_sendTcp hnodup, if_neg hnotMem]

/-- **An announcement over TCP is a message to each peer by itself, in any order.** The state that it
leaves is the same, with the clones or without, and each peer's write actor was offered the message
independently of the others. -/
theorem Run.announceTcp_eq_toEachPeerTcp {hist : List (State M × Action M)} (h : Run hist s)
    {cloneMsg : M.TcpFromServer → M.TcpFromServer} (hclone : ∀ m, cloneMsg m = m)
    (msg : M.TcpFromServer) {order order' : List PeerUid} (ho : s.peers.Enumerates order)
    (ho' : s.peers.Enumerates order') (schedule : List (List WriteActor.Step)) :
    announceTcpClones cloneMsg s order (.applicationLogic msg) = toEachPeerTcp s order' msg ∧
      handleActorMessage s (.announceTcp msg) order schedule = toEachPeerTcp s order' msg ∧
      OfferedToEach s (.applicationLogic msg) (toEachPeerTcp s order' msg) := by
  have hperm : order.Perm order' := Multiset.coe_eq_coe.1 (ho.trans ho'.symm)
  rw [announceTcpClones_eq hclone, toEachPeerTcp_eq_announceTcp, ← announceTcp_perm hperm s]
  exact ⟨rfl, rfl, offeredToEach_announceTcp (Run.numbered h) ho _⟩

/-- Two peers, whose map is iterated in one order and who are sent to in the other. -/
theorem Run.announceTcp_eq_toEachPeerTcp_of_two : ∃ hist, ∃ s : State plainMessages, Run hist s ∧
    s.peers.len = 2 ∧
    announceTcpClones id s [.ofNat 1, .ofNat 0] (.applicationLogic ()) =
      toEachPeerTcp s [.ofNat 0, .ofNat 1] () := by
  have h : Run _ _ := TransitionSystem.run_of_exec (T := system plainMessages)
    (s := .start .dev ⟨2⟩) (l := Action.connect 1 1 [] ++ Action.connect 2 2 [0])
    ⟨.dev, ⟨2⟩, rfl⟩ rfl
  exact ⟨_, _, h, rfl,
    (h.announceTcp_eq_toEachPeerTcp (fun _ ↦ rfl) () (by decide) (by decide) []).1⟩

end NetStream.Server
