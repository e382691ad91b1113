import NetStream.Server.Connections

/-!
# The messages for a connection

The messages for a peer over TCP are the Welcome on acceptance, the application's messages to it and
its announcements, and the acknowledgement of each Hello of the peer. `commanded` reads them off the
history, for each connection, in the order in which the broker handled what causes them.

Between a command and the sink lie the queue of the connection's write actor and the actor itself.
What relates an actor to the items offered to it, whatever happens to the actor, relates the writer
of each connection to the messages for it (`Run.writers`): the broker does nothing else to a writer
than offer it these messages and a shutdown signal and drop its handle.
-/

namespace NetStream.Server

variable {M : MessageTypes}

/-! ### The commands -/

namespace Registry

/-- The connection that a peer's write handle belongs to. -/
def writerOf (r : Registry M) (p : PeerUid) : Option ℕ :=
  (r.peers.get? p).map fun peer ↦ peer.tcpWriteActorHandle.connection

/-- The messages over TCP for connection `c` that the handling of an item causes. -/
def commandsFor (r : Registry M) (incoming : Incoming M) (newV4 : Uuid) (c : ℕ) :
    List (TcpFromServer M) :=
  match incoming with
  | .actorMessage (.toPeerTcp p msg) =>
    if r.writerOf p = some c then [.applicationLogic msg] else []
  | .actorMessage (.announceTcp msg) =>
    if c ∈ r.peers.keys.val.filterMap r.writerOf then [.applicationLogic msg] else []
  | _ =>
    match r.incomingOp incoming newV4 with
    | .accept _ uuid _ => if c = r.connections.length then [.welcome uuid] else []
    | .bind _ peer _ _ =>
      if c = peer.tcpWriteActorHandle.connection then [.udpHandshakeAcknowledged] else []
    | _ => []

end Registry

/-- The messages over TCP for connection `c` that a step causes. -/
def commandedBy (s : State M) (a : Action M) (c : ℕ) : List (TcpFromServer M) :=
  match a with
  | .next source choice =>
    match s.nextIncoming source with
    | some (incoming, _) => s.registry.commandsFor incoming choice.newV4 c
    | none => []
  | _ => []

/-- The messages over TCP for connection `c` that a run causes, in order. -/
def commanded (hist : List (State M × Action M)) (c : ℕ) : List (TcpFromServer M) :=
  hist.flatMap fun x ↦ commandedBy x.1 x.2 c

theorem commanded_append_singleton (hist : List (State M × Action M)) (s : State M) (a : Action M)
    (c : ℕ) : commanded (hist ++ [(s, a)]) c = commanded hist c ++ commandedBy s a c := by
  simp [commanded]

/-! ### A relation between writers and messages -/

/-- `R` relates the writer of every connection to the messages for it, and there are none for a
connection that does not exist. -/
structure Writers (R : WriteActor (TcpFromServer M) → List (TcpFromServer M) → Prop) (s : State M)
    (l : ℕ → List (TcpFromServer M)) : Prop where
  related : ∀ (c : ℕ) (conn : Connection M), s.streams[c]? = some conn → R conn.writer (l c)
  none : ∀ c, s.streams.length ≤ c → l c = []

variable {C : WriteActor (TcpFromServer M) → Prop}
  {R : WriteActor (TcpFromServer M) → List (TcpFromServer M) → Prop}

namespace Writers

variable {s : State M} {l l' : ℕ → List (TcpFromServer M)}

theorem congr (h : Writers R s l) (hl : ∀ c, l' c = l c) : Writers R s l' := by
  obtain rfl : l' = l := funext hl
  exact h

theorem of_streams (h : Writers R s l) {s' : State M} (hs : s'.streams = s.streams) :
    Writers R s' l :=
  ⟨by rw [hs]; exact h.related, by rw [hs]; exact h.none⟩

theorem modify (h : Writers R s l) {c : ℕ} {f : Connection M → Connection M}
    (hf : ∀ conn, s.streams[c]? = some conn → R conn.writer (l c) → R (f conn).writer (l' c))
    (hl : ∀ i, i ≠ c → l' i = l i) (hc : s.streams.length ≤ c → l' c = []) :
    Writers R (s.modifyConnection c f) l' where
  related i conn' hi := by
    obtain ⟨conn, hconn, ⟨rfl, rfl⟩ | ⟨hci, rfl⟩⟩ := State.exists_of_modifyConnection hi
    · exact hf conn hconn (h.related c conn hconn)
    · rw [hl i hci.symm]
      exact h.related i conn' hconn
  none i hi := by
    have hlen : s.streams.length ≤ i := by simpa [State.modifyConnection] using hi
    by_cases hci : i = c
    · subst hci
      exact hc hlen
    · rw [hl i hci]
      exact h.none i hlen

/-- Nothing is commanded. -/
theorem modify_quiet (h : Writers R s l) {c : ℕ} {f : Connection M → Connection M}
    (hf : ∀ (conn : Connection M) l, R conn.writer l → R (f conn).writer l) :
    Writers R (s.modifyConnection c f) l :=
  h.modify (fun conn _ hconn ↦ hf conn _ hconn) (fun _ _ ↦ rfl) (h.none c)

theorem panic (h : Writers R s l) (hR : WriteActor.OfferRule C R) (site : PanicSite) :
    Writers R (s.panic site) l where
  related c conn' hc := by
    rw [State.panic, List.getElem?_map] at hc
    obtain ⟨conn, hconn, rfl⟩ := Option.map_eq_some_iff.1 hc
    exact hR.dropHandle (h.related c conn hconn)
  none c hc := h.none c (by simpa [State.panic] using hc)

theorem emit (h : Writers R s l) (hR : WriteActor.OfferRule C R) (ev : Event M) :
    Writers R (s.emit ev) l := by
  unfold State.emit
  split
  · exact h.of_streams rfl
  · exact h.panic hR _

theorem dropHandles (h : Writers R s l) (hR : WriteActor.OfferRule C R) (peer : Peer) :
    Writers R (s.dropHandles peer) l := by
  refine modify_quiet (modify_quiet h ?_) ?_
  · exact fun conn l hconn ↦ hconn
  · exact fun conn l hconn ↦ hR.dropHandle hconn

theorem shutdownActors (h : Writers R s l) (hR : WriteActor.OfferRule C R) (peer : Peer) :
    Writers R (s.shutdownActors peer) l := by
  refine dropHandles (modify_quiet (modify_quiet h ?_) ?_) hR peer
  · exact fun conn l hconn ↦ hconn
  · intro conn l hconn
    rw [WriteActor.logged_signalShutdown]
    exact hR.shutdown hconn

/-- **A message to one connection**, whose writer must admit it. -/
theorem sendTcp (h : Writers R s l) (hR : WriteActor.OfferRule C R) (handle : WriteActorHandle)
    (msg : TcpFromServer M) (hlt : handle.connection < s.streams.length)
    (hroom : ∀ conn, s.streams[handle.connection]? = some conn → C conn.writer) :
    Writers R (s.sendTcp handle msg)
      fun c ↦ l c ++ if c = handle.connection then [msg] else [] := by
  refine h.modify (fun conn hconn hf ↦ ?_) (fun i hi ↦ ?_) (fun hle ↦ ?_)
  · rw [if_pos rfl, WriteActor.logged_send]
    exact hR.send msg hf (hroom conn hconn)
  · rw [if_neg hi, List.append_nil]
  · omega

/-- **A message to several connections**, whose writers must admit it. -/
theorem sendTcps (h : Writers R s l) (hR : WriteActor.OfferRule C R) {cs : List ℕ}
    {msg : TcpFromServer M} (hnodup : cs.Nodup) (hlt : ∀ c ∈ cs, c < s.streams.length)
    (hroom : ∀ c ∈ cs, ∀ conn, s.streams[c]? = some conn → C conn.writer) :
    Writers R (cs.foldl (fun s c ↦ s.sendTcp ⟨c⟩ msg) s)
      fun c ↦ l c ++ if c ∈ cs then [msg] else [] := by
  induction cs generalizing s l with
  | nil => simpa using h
  | cons c cs ih =>
    obtain ⟨hc, hnodup⟩ := List.nodup_cons.1 hnodup
    have hfirst := h.sendTcp hR ⟨c⟩ msg (hlt c List.mem_cons_self)
      (hroom c List.mem_cons_self)
    have hrest := ih hfirst hnodup (fun i hi ↦ ?_) fun i hi conn hconn ↦ ?_
    · -- a connection gets the message from the first send or from the rest, not from both
      refine hrest.congr fun i ↦ ?_
      by_cases hic : i = c
      · subst hic
        simp [hc]
      · simp [hic]
    · simpa [State.sendTcp, State.modifyConnection] using hlt i (List.mem_cons_of_mem c hi)
    · -- the first send leaves the queues of the others alone
      have hic : c ≠ i := fun hci ↦ hc (hci ▸ hi)
      refine hroom i (List.mem_cons_of_mem c hi) conn ?_
      rw [State.sendTcp, State.modifyConnection, List.getElem?_modify] at hconn
      simpa [hic] using hconn

/-- **A new connection**, whose writer has been offered the Welcome. -/
theorem spawn (h : Writers R s l) (hR : WriteActor.OfferRule C R) (p : PeerUid)
    (msg : TcpFromServer M) :
    Writers R (({ s with streams := s.streams ++ [Connection.spawn p] } : State M).sendTcp
      ⟨s.streams.length⟩ msg) fun c ↦ l c ++ if c = s.streams.length then [msg] else [] where
  related c conn hc := by
    rw [State.sendTcp, State.modifyConnection, List.getElem?_modify] at hc
    obtain ⟨conn', hconn', rfl⟩ := Option.map_eq_some_iff.1 hc
    rcases Nat.lt_trichotomy c s.streams.length with hlt | rfl | hgt
    · have hne : s.streams.length ≠ c := Nat.ne_of_gt hlt
      have hold : s.streams[c]? = some conn' := (List.getElem?_append_left hlt).symm.trans hconn'
      simp only [hne, hne.symm, if_false, List.append_nil]
      exact h.related c conn' hold
    · obtain rfl : Connection.spawn p = conn' :=
        Option.some.inj (List.getElem?_concat_length.symm.trans hconn')
      simp only [if_true, h.none _ (Nat.le_refl _), List.nil_append, WriteActor.logged_send]
      exact hR.start msg
    · obtain ⟨hlt, -⟩ := List.getElem?_eq_some_iff.1 hconn'
      rw [List.length_append] at hlt
      exact absurd hlt (Nat.not_lt_of_le hgt)
  none c hc := by
    have hlen : s.streams.length + 1 ≤ c := by
      simpa [State.sendTcp, State.modifyConnection] using hc
    rw [h.none c (by omega), if_neg (by omega)]
    rfl

end Writers

/-! ### The handlers -/

theorem Registry.Numbered.writerOf_lt {r : Registry M} (hn : r.Numbered) {p : PeerUid} {c : ℕ}
    (hp : r.writerOf p = some c) : c < r.connections.length := by
  obtain ⟨peer, hpeer, rfl⟩ := Option.map_eq_some_iff.1 hp
  obtain ⟨c, hc, -, -, hwrite⟩ := hn.handles p peer hpeer
  rw [hwrite]
  exact hc

/-- No two peers have a write handle of one connection. -/
theorem Registry.Numbered.writerOf_inj {r : Registry M} (hn : r.Numbered) {p q : PeerUid} {c : ℕ}
    (hp : r.writerOf p = some c) (hq : r.writerOf q = some c) : p = q := by
  obtain ⟨peer, hpeer, hc⟩ := Option.map_eq_some_iff.1 hp
  obtain ⟨peer', hpeer', hc'⟩ := Option.map_eq_some_iff.1 hq
  obtain ⟨m, -, rfl, -, hm⟩ := hn.handles p peer hpeer
  obtain ⟨n, -, rfl, -, hn⟩ := hn.handles q peer' hpeer'
  rw [hm] at hc
  rw [hn] at hc'
  exact congrArg PeerUid.ofNat (Eq.trans hc hc'.symm)

/-- An announcement is a message to the connection of each peer in turn. -/
theorem announceTcp_eq_foldl (s : State M) (order : List PeerUid) (msg : TcpFromServer M) :
    announceTcp s order msg =
      (order.filterMap s.registry.writerOf).foldl (fun s c ↦ s.sendTcp ⟨c⟩ msg) s := by
  induction order generalizing s with
  | nil => rfl
  | cons p rest ih =>
    rw [announceTcp, List.foldl_cons]
    refine (ih _).trans ?_
    cases hp : s.peers.get? p with
    | none =>
      have hnone : s.registry.writerOf p = none := by
        simp [Registry.writerOf, State.registry, hp]
      simp only [List.filterMap_cons_none hnone]
    | some peer =>
      have hsome : s.registry.writerOf p = some peer.tcpWriteActorHandle.connection := by
        simp [Registry.writerOf, State.registry, hp]
      simp only [List.filterMap_cons_some hsome, List.foldl_cons, State.registry_sendTcp]

/-- The writer of every connection that the item causes a message for meets `C`. -/
def Admits (C : WriteActor (TcpFromServer M) → Prop) (s : State M) (incoming : Incoming M)
    (newV4 : Uuid) : Prop :=
  ∀ c conn, s.streams[c]? = some conn → s.registry.commandsFor incoming newV4 c ≠ [] →
    C conn.writer

namespace Writers

variable {s : State M} {l : ℕ → List (TcpFromServer M)}

theorem announceTcp (h : Writers R s l) (hR : WriteActor.OfferRule C R) (hn : s.registry.Numbered) {order : List PeerUid}
    (ho : s.peers.Enumerates order) {msg : TcpFromServer M}
    (hroom : ∀ c conn, s.streams[c]? = some conn →
      c ∈ s.peers.keys.val.filterMap s.registry.writerOf → C conn.writer) :
    Writers R (Server.announceTcp s order msg) fun c ↦
      l c ++ if c ∈ s.peers.keys.val.filterMap s.registry.writerOf then [msg] else [] := by
  have hmem : ∀ c, c ∈ order.filterMap s.registry.writerOf ↔
      c ∈ s.peers.keys.val.filterMap s.registry.writerOf := by
    intro c
    rw [← ho, Multiset.filterMap_coe, Multiset.mem_coe]
  have hnodup : (order.filterMap s.registry.writerOf).Nodup :=
    ho.nodup.filterMap fun p q c hp hq ↦ hn.writerOf_inj hp hq
  rw [announceTcp_eq_foldl]
  refine (h.sendTcps hR hnodup (fun c hc ↦ ?_) fun c hc conn hconn ↦ ?_).congr fun c ↦ ?_
  · obtain ⟨p, -, hp⟩ := List.mem_filterMap.1 hc
    rw [← State.length_connections]
    exact hn.writerOf_lt hp
  · exact hroom c conn hconn ((hmem c).1 hc)
  · simp only [hmem]

theorem handleActorMessage (h : Writers R s l) (hR : WriteActor.OfferRule C R)
    (hn : s.registry.Numbered) {msg : Message M}
    {choice : Choice} (ho : s.peers.Enumerates choice.order)
    (hroom : Admits C s (.actorMessage msg) choice.newV4) :
    Writers R (Server.handleActorMessage s msg choice.order choice.schedule) fun c ↦
      l c ++ s.registry.commandsFor (.actorMessage msg) choice.newV4 c := by
  have hquiet : (∀ c, s.registry.commandsFor (.actorMessage msg) choice.newV4 c = []) →
      ∀ s' : State M, s'.streams = s.streams → Writers R s' fun c ↦
        l c ++ s.registry.commandsFor (.actorMessage msg) choice.newV4 c :=
    fun hnil s' hs' ↦ (h.of_streams hs').congr fun c ↦ by rw [hnil, List.append_nil]
  cases msg with
  | toPeerTcp p msg =>
    simp only [Server.handleActorMessage]
    cases hp : s.peers.get? p with
    | none =>
      have hnone : s.registry.writerOf p = Option.none := by
        simp [Registry.writerOf, State.registry, hp]
      exact hquiet (fun c ↦ by simp [Registry.commandsFor, hnone]) s rfl
    | some peer =>
      have hsome : s.registry.writerOf p = some peer.tcpWriteActorHandle.connection := by
        simp [Registry.writerOf, State.registry, hp]
      have hlt := hn.writerOf_lt hsome
      rw [State.length_connections] at hlt
      refine (h.sendTcp hR _ _ hlt fun conn hconn ↦ ?_).congr fun c ↦ ?_
      · exact hroom _ conn hconn (by simp [Registry.commandsFor, hsome])
      · simp [Registry.commandsFor, hsome, eq_comm]
  | toPeerUdp p msg =>
    refine hquiet (fun c ↦ rfl) _ ?_
    simp only [Server.handleActorMessage]
    split
    · split <;> rfl
    · rfl
  | announceTcp msg =>
    refine h.announceTcp hR hn ho fun c conn hconn hc ↦ hroom c conn hconn ?_
    show (if c ∈ s.peers.keys.val.filterMap s.registry.writerOf then _ else _) ≠ []
    rw [if_pos hc]
    exact List.cons_ne_nil _ _
  | announceUdp msg => exact hquiet (fun c ↦ rfl) _ rfl
  | getNumberOfConnectedPeers tx => exact hquiet (fun c ↦ rfl) _ rfl

theorem insertPeer (h : Writers R s l) (hR : WriteActor.OfferRule C R) (p : PeerUid) (peer : Peer) :
    Writers R (s.insertPeer p peer) l := by
  have hins : Writers R { s with peers := s.peers.insert p peer } l := h.of_streams rfl
  unfold State.insertPeer
  dsimp only
  split
  · exact hins.dropHandles hR _
  · exact hins

theorem handleNewTcpConnection (h : Writers R s l) (hR : WriteActor.OfferRule C R)
    (tcpStream : TcpStream) (newV4 : Uuid) :
    Writers R (Server.handleNewTcpConnection s tcpStream newV4) fun c ↦
      l c ++ s.registry.commandsFor (.tcpListener (.ok tcpStream)) newV4 c := by
  obtain ⟨peerAddr⟩ := tcpStream
  cases peerAddr with
  | error e =>
    refine (h.panic hR .peerAddr).congr fun c ↦ ?_
    simp [Registry.commandsFor, Registry.incomingOp]
  | ok addr =>
    simp only [Server.handleNewTcpConnection]
    by_cases hfull : s.peers.len ≥ s.config.maxConnections
    · rw [if_pos hfull]
      have hop : s.registry.incomingOp (.tcpListener (.ok ⟨.ok addr⟩)) newV4 = .idle := by
        simp only [Registry.incomingOp]
        exact if_pos hfull
      exact h.congr fun c ↦ by simp [Registry.commandsFor, hop]
    · rw [if_neg hfull]
      cases hnext : s.nextPeerUid.increment s.profile with
      | none =>
        have hop : s.registry.incomingOp (.tcpListener (.ok ⟨.ok addr⟩)) newV4 = .idle := by
          simp only [Registry.incomingOp, State.registry, hnext, ite_self]
        exact (h.panic hR _).congr fun c ↦ by simp [Registry.commandsFor, hop]
      | some next =>
        have hop : s.registry.incomingOp (.tcpListener (.ok ⟨.ok addr⟩)) newV4 =
            .accept addr newV4 next :=
          Registry.incomingOp_eq_accept_iff.2 ⟨rfl, rfl, Nat.lt_of_not_le hfull, hnext⟩
        dsimp only
        refine emit (insertPeer ?_ hR _ _) hR _
        have hspawn := h.spawn hR s.nextPeerUid (.welcome newV4)
        refine of_streams (hspawn.congr fun c ↦ ?_) rfl
        simp only [Registry.commandsFor, hop, State.length_connections]

theorem handleUdpReaderStreamItem (h : Writers R s l) (hR : WriteActor.OfferRule C R)
    (hn : s.registry.Numbered)
    {message : UdpToServer M} {socketAddr : SocketAddr} {newV4 : Uuid}
    (hroom : Admits C s (.udpReader (.streamItem (.ok message, socketAddr))) newV4) :
    Writers R (Server.handleUdpReaderStreamItem s message socketAddr) fun c ↦
      l c ++
        s.registry.commandsFor (.udpReader (.streamItem (.ok message, socketAddr))) newV4 c := by
  cases message with
  | hello uuid =>
    simp only [Server.handleUdpReaderStreamItem]
    cases hp : s.peerHandshakeUuidToPeerUid.get? uuid with
    | none =>
      exact h.congr fun c ↦ by simp [Registry.commandsFor, Registry.incomingOp, State.registry, hp]
    | some p =>
      dsimp only
      cases hpeer : s.peers.get? p with
      | none =>
        exact h.congr fun c ↦ by
          simp [Registry.commandsFor, Registry.incomingOp, State.registry, hp, hpeer]
      | some peer =>
        have hop : s.registry.incomingOp (.udpReader (.streamItem (.ok (.hello uuid), socketAddr)))
            newV4 = .bind p peer uuid socketAddr :=
          Registry.incomingOp_eq_bind_iff.2 ⟨rfl, hp, hpeer⟩
        have hwriter : s.registry.writerOf p = some peer.tcpWriteActorHandle.connection := by
          simp [Registry.writerOf, State.registry, hpeer]
        have hlt := hn.writerOf_lt hwriter
        rw [State.length_connections] at hlt
        have hbound : Writers R { s with
            peers := s.peers.insert p { peer with udpSocketAddr := some socketAddr }
            peerUdpSocketAddrToPeerUid := s.peerUdpSocketAddrToPeerUid.insert socketAddr p } l :=
          h.of_streams rfl
        refine of_streams ((hbound.sendTcp hR peer.tcpWriteActorHandle
          .udpHandshakeAcknowledged hlt fun conn hconn ↦ ?_).congr fun c ↦ ?_) rfl
        · exact hroom _ conn hconn (by simp [Registry.commandsFor, hop])
        · simp [Registry.commandsFor, hop]
  | applicationLogic msg =>
    simp only [Server.handleUdpReaderStreamItem]
    cases hp : s.peerUdpSocketAddrToPeerUid.get? socketAddr with
    | none =>
      exact h.congr fun c ↦ by simp [Registry.commandsFor, Registry.incomingOp, State.registry, hp]
    | some p =>
      refine (h.emit hR _).congr fun c ↦ ?_
      simp [Registry.commandsFor, Registry.incomingOp, State.registry, hp]

theorem handleEndOfStream (h : Writers R s l) (hR : WriteActor.OfferRule C R) (kind : IncomingKind) :
    Writers R (Server.handleEndOfStream s kind) l := by
  have hassert : ∀ p, Writers R (s.assertNotConnected p) l := by
    intro p
    unfold State.assertNotConnected
    split
    · exact h.panic hR _
    · exact h
  unfold Server.handleEndOfStream
  split
  · exact h.panic hR _
  · exact h.panic hR _
  all_goals
    split
    all_goals first
      | exact h.of_streams rfl
      | exact hassert _
      | exact h.panic hR _

theorem handleIncoming (h : Writers R s l) (hR : WriteActor.OfferRule C R)
    {incoming : Incoming M} (choice : Choice) (hn : s.registry.Numbered)
    (ho : s.peers.Enumerates choice.order) (hroom : Admits C s incoming choice.newV4) :
    Writers R (Server.handleIncoming s incoming choice) fun c ↦
      l c ++ s.registry.commandsFor incoming choice.newV4 c := by
  -- items that cause no message
  have hquiet : ∀ {s' : State M}, Writers R s' l →
      s.registry.incomingOp incoming choice.newV4 = .idle → (∀ msg, incoming ≠ .actorMessage msg) →
      Writers R s' fun c ↦ l c ++ s.registry.commandsFor incoming choice.newV4 c := by
    intro s' hs' hop hne
    refine hs'.congr fun c ↦ ?_
    cases incoming with
    | actorMessage msg => exact absurd rfl (hne msg)
    | _ => simp [Registry.commandsFor, hop]
  unfold Server.handleIncoming
  split
  · exact h.handleActorMessage hR hn ho hroom
  · exact hquiet h rfl (by simp)
  · exact h.handleNewTcpConnection hR _ _
  · rename_i message p
    cases message with
    | applicationLogic msg =>
      refine (h.emit hR _).congr fun c ↦ ?_
      simp [Registry.commandsFor, Registry.incomingOp]
  · exact hquiet (h.of_streams rfl) rfl (by simp)
  · exact h.handleUdpReaderStreamItem hR hn hroom
  · split
    · exact hquiet (h.of_streams rfl) rfl (by simp)
    · exact hquiet h rfl (by simp)
  · exact hquiet (h.of_streams rfl) rfl (by simp)
  · exact hquiet (h.handleEndOfStream hR _) rfl (by simp)

theorem dropPeer (h : Writers R s l) (hR : WriteActor.OfferRule C R) (p : PeerUid) (reason : DisconnectReason) :
    Writers R (Server.dropPeer s p reason) l := by
  unfold Server.dropPeer
  split
  · exact h
  · rename_i peer hp
    refine emit (shutdownActors ?_ hR peer) hR _
    exact h.of_streams rfl

theorem dropPeers (h : Writers R s l) (hR : WriteActor.OfferRule C R)
    (drops : List (PeerUid × DisconnectReason)) :
    Writers R (Server.dropPeers s drops) l := by
  induction drops generalizing s with
  | nil => exact h
  | cons x rest ih =>
    have hfirst := h.dropPeer hR x.1 x.2
    rw [Server.dropPeers]
    split
    · exact hfirst
    · exact ih hfirst

theorem loopTop (h : Writers R s l) (hR : WriteActor.OfferRule C R) : Writers R (Server.loopTop s) l := by
  unfold Server.loopTop
  split
  · exact h.panic hR _
  · refine dropPeers ?_ hR _
    exact h.of_streams rfl

/-! ### Steps -/

theorem taken (h : Writers R s l) {t : State M} {incoming : Incoming M}
    (ht : s.Taken incoming t) : Writers R t l := by
  cases ht with
  | tcpReader _ _ | tcpReaderEnd _ _ | tcpWriterEnd _ _ =>
    exact h.modify_quiet fun conn l hconn ↦ hconn
  | actorMessage _ | actorMessageEnd | tcpListener _ | udpReader _ | udpReaderEnd _
  | udpWriterEnd _ | udpHeartbeat => exact h.of_streams rfl

/-- A connection moves by itself. -/
theorem moves (h : Writers R s l) (hR : WriteActor.OfferRule C R) {c : ℕ} {conn conn' : Connection M}
    {a : Action M} (hconn : s.streams[c]? = some conn) (hm : conn.Moves c a conn') :
    Writers R (s.modifyConnection c fun _ ↦ conn') l := by
  refine h.modify (fun old hold hw ↦ ?_) (fun _ _ ↦ rfl) (h.none c)
  obtain rfl := Option.some.inj (hconn.symm.trans hold)
  cases hm with
  | writer hstep => exact hR.step hw hstep
  | reader _ | frame _ | ends => exact hw

end Writers

/-- Taking an item leaves the writers alone. -/
theorem State.Taken.exists_writer {s t : State M} {incoming : Incoming M}
    (h : s.Taken incoming t) {c : ℕ} {conn : Connection M} (hconn : t.streams[c]? = some conn) :
    ∃ conn', s.streams[c]? = some conn' ∧ conn'.writer = conn.writer := by
  cases h with
  | tcpReader _ _ | tcpReaderEnd _ _ | tcpWriterEnd _ _ =>
    obtain ⟨conn', hconn', ⟨-, rfl⟩ | ⟨-, rfl⟩⟩ := State.exists_of_modifyConnection hconn
    · exact ⟨conn', hconn', rfl⟩
    · exact ⟨conn, hconn', rfl⟩
  | actorMessage _ | actorMessageEnd | tcpListener _ | udpReader _ | udpReaderEnd _
  | udpWriterEnd _ | udpHeartbeat => exact ⟨conn, hconn, rfl⟩

/-- The writer of every connection to which the step commands a message meets `C`. -/
def CommandsAdmitted (C : WriteActor (TcpFromServer M) → Prop) (s : State M) (a : Action M) : Prop :=
  ∀ c conn, s.streams[c]? = some conn → commandedBy s a c ≠ [] → C conn.writer

instance [DecidablePred C] (s : State M) (a : Action M) : Decidable (CommandsAdmitted C s a) :=
  decidable_of_iff (∀ x ∈ s.streams.zipIdx, commandedBy s a x.2 ≠ [] → C x.1.writer) <| by
    simp only [Prod.forall, List.mem_zipIdx_iff_getElem?, CommandsAdmitted]
    exact forall_comm

theorem Writers.step {s s' : State M} {a : Action M} {l : ℕ → List (TcpFromServer M)}
    (h : Writers R s l) (hR : WriteActor.OfferRule C R) (hn : s.registry.Numbered)
    (hs : s.step a = some s') (hroom : CommandsAdmitted C s a) :
    Writers R s' fun c ↦ l c ++ commandedBy s a c := by
  have hquiet : ∀ {s' : State M}, Writers R s' l → (∀ c, commandedBy s a c = []) →
      Writers R s' fun c ↦ l c ++ commandedBy s a c :=
    fun h hnil ↦ h.congr fun c ↦ by rw [hnil, List.append_nil]
  rcases State.step_cases hs with ⟨rfl, -, rfl⟩ | ⟨source, choice, incoming, t, rfl, -, hr, rfl⟩ |
    ⟨c, conn, conn', hconn, hmoves, rfl⟩ | ⟨st, reader, rfl, -, rfl⟩ | ⟨st, writer, rfl, -, rfl⟩ |
    ⟨x, rfl, rfl⟩ | ⟨e, ch, sender, rfl, -, rfl⟩
  · exact hquiet (h.loopTop hR) fun c ↦ rfl
  · have ht : s.Taken incoming t := State.taken_of_nextIncoming hr
    have hreg : t.registry = s.registry := State.registry_taken ht
    have hcmd : ∀ c, commandedBy s (.next source choice) c =
        s.registry.commandsFor incoming choice.newV4 c := by
      intro c
      simp only [commandedBy, hr]
    have htop : Writers R { t with phase := .top } l := (h.taken ht).of_streams rfl
    refine (htop.handleIncoming hR choice ?_ ?_ ?_).congr fun c ↦ ?_
    · show t.registry.Numbered
      rwa [hreg]
    · show t.registry.peers.Enumerates choice.order
      rw [hreg]
      exact (State.exists_taken_of_next hs).2.1
    · intro c conn hconn hne
      obtain ⟨conn', hconn', hw⟩ := ht.exists_writer hconn
      rw [← hw]
      refine hroom c conn' hconn' ?_
      rw [hcmd, ← hreg]
      exact hne
    · rw [hcmd, ← hreg]
      rfl
  · refine hquiet (h.moves hR hconn hmoves) fun c ↦ ?_
    cases hmoves <;> rfl
  all_goals exact hquiet (h.of_streams rfl) fun c ↦ rfl

/-- **Over a whole run**, the relation holds between the writers and the messages for their
connections. -/
theorem Run.writers {hist : List (State M × Action M)} {s : State M} (h : Run hist s)
    (hR : WriteActor.OfferRule C R) (hroom : ∀ x ∈ hist, CommandsAdmitted C x.1 x.2) :
    Writers R s (commanded hist) := by
  induction h with
  | start h =>
    obtain ⟨profile, config, rfl⟩ := h
    exact ⟨fun c conn hc ↦ by simp [State.start] at hc, fun _ _ ↦ rfl⟩
  | @next hist s s' a h hs ih =>
    have hbefore := ih fun x hx ↦ hroom x (List.mem_append_left _ hx)
    have hlast := hroom (s, a) (List.mem_append_right _ (List.mem_singleton_self _))
    exact (hbefore.step hR (Registry.Run.numbered (Run.registry h)) hs hlast).congr fun c ↦
      commanded_append_singleton hist s a c

/-! ### The Welcome comes first -/

/-- The handshake UUID that an operation gives out. -/
def Op.issued? : Op M → Option Uuid
  | .accept _ uuid _ => some uuid
  | _ => none

/-- The handshake UUIDs given out in a run: that of connection `c` is the one at position `c`. -/
def issued (hist : List (State M × Action M)) : List Uuid :=
  hist.filterMap fun x ↦ (x.1.op x.2).issued?

theorem issued_append_singleton (hist : List (State M × Action M)) (s : State M) (a : Action M) :
    issued (hist ++ [(s, a)]) = issued hist ++ (s.op a).issued?.toList :=
  List.filterMap_append_singleton _ hist (s, a)

/-- A connection is new exactly when a UUID is given out. -/
theorem Registry.length_connections_after (r : Registry M) (op : Op M) :
    (r.after op).connections.length = r.connections.length + op.issued?.toList.length := by
  cases op with
  | accept addr uuid next => simp [Registry.after, accept, register, Op.issued?]
  | drop l => simp [Registry.after, Op.issued?]
  | tcpMessage msg | udpMessage msg addr => simp [Registry.after, Op.issued?]
  | bind p peer uuid addr | closeEvents | idle => rfl

/-- The next connection gets a message when it is accepted, its Welcome, and those after it none. -/
theorem Registry.Numbered.commandsFor_of_le {r : Registry M} (hn : r.Numbered)
    (incoming : Incoming M) (newV4 : Uuid) {c : ℕ} (hc : r.connections.length ≤ c) :
    r.commandsFor incoming newV4 c = if c = r.connections.length then
      (r.incomingOp incoming newV4).issued?.toList.map .welcome else [] := by
  have hwriter : ∀ p, r.writerOf p ≠ some c := fun p hp ↦
    Nat.not_le_of_lt (hn.writerOf_lt hp) hc
  unfold commandsFor
  split
  · rw [if_neg (hwriter _)]
    split <;> rfl
  · rw [if_neg fun hmem ↦ ?_]
    · split <;> rfl
    · obtain ⟨p, -, hp⟩ := (Multiset.mem_filterMap _ _).1 hmem
      exact hwriter p hp
  · split
    · rename_i hop
      simp [hop, Op.issued?]
    · rename_i p peer uuid addr hop
      obtain ⟨-, -, hpeer⟩ := incomingOp_eq_bind_iff.1 hop
      rw [if_neg fun heq ↦ hwriter p (by simp [writerOf, hpeer, heq])]
      simp [hop, Op.issued?]
    · rename_i haccept hbind
      have hnone : (r.incomingOp incoming newV4).issued? = none := by
        cases hop : r.incomingOp incoming newV4 with
        | accept addr uuid next => exact absurd hop (haccept addr uuid next)
        | _ => rfl
      simp [hnone]

/-- A connection that exists gets no Welcome any more. -/
theorem Registry.welcome_notMem_commandsFor (r : Registry M) (incoming : Incoming M) (newV4 : Uuid)
    {c : ℕ} (hc : c < r.connections.length) (uuid : Uuid) :
    .welcome uuid ∉ r.commandsFor incoming newV4 c := by
  unfold commandsFor
  split
  · split <;> simp
  · split <;> simp
  · split
    · rw [if_neg (Nat.ne_of_lt hc)]
      exact List.not_mem_nil
    · split <;> simp
    · exact List.not_mem_nil

theorem commandedBy_of_le {s : State M} (hn : s.registry.Numbered) (a : Action M) {c : ℕ}
    (hc : s.streams.length ≤ c) : commandedBy s a c =
      if c = s.streams.length then (s.op a).issued?.toList.map .welcome else [] := by
  rw [← State.length_connections] at hc ⊢
  cases a with
  | next source choice =>
    simp only [commandedBy, State.op]
    cases s.nextIncoming source with
    | none => simp [Op.issued?]
    | some r => exact hn.commandsFor_of_le r.1 choice.newV4 hc
  | loopTop =>
    have hnone : (s.op .loopTop).issued? = none := by
      simp only [State.op]
      split <;> rfl
    simp [commandedBy, hnone]
  | task task => simp [commandedBy, State.op, Op.issued?]
  | env env => cases env <;> simp [commandedBy, State.op, Op.issued?]

theorem welcome_notMem_commandedBy {s : State M} (a : Action M) {c : ℕ}
    (hc : c < s.streams.length) (uuid : Uuid) : .welcome uuid ∉ commandedBy s a c := by
  rw [← State.length_connections] at hc
  unfold commandedBy
  repeat' split
  · exact s.registry.welcome_notMem_commandsFor _ _ hc uuid
  all_goals exact List.not_mem_nil

theorem State.length_streams_of_step {s s' : State M} {a : Action M} (hs : s.step a = some s') :
    s'.streams.length = s.streams.length + (s.op a).issued?.toList.length := by
  rw [← State.length_connections s', State.registry_step hs,
    Registry.length_connections_after, State.length_connections]

theorem Run.length_issued {hist : List (State M × Action M)} {s : State M} (h : Run hist s) :
    (issued hist).length = s.streams.length := by
  induction h with
  | start h =>
    obtain ⟨profile, config, rfl⟩ := h
    rfl
  | @next hist s s' a h hs ih =>
    rw [issued_append_singleton, List.length_append, ih, State.length_streams_of_step hs]

/-- Nothing is commanded to a connection that does not exist. -/
theorem Run.commanded_of_le {hist : List (State M × Action M)} {s : State M} (h : Run hist s)
    {c : ℕ} (hc : s.streams.length ≤ c) : commanded hist c = [] := by
  induction h with
  | start h => rfl
  | @next hist s s' a h hs ih =>
    have hlen := State.length_streams_of_step hs
    have hn : s.registry.Numbered := Registry.Run.numbered (Run.registry h)
    rw [commanded_append_singleton, ih (by omega), commandedBy_of_le hn a (by omega)]
    split
    · have hnil : (s.op a).issued?.toList = [] := List.eq_nil_of_length_eq_zero (by omega)
      rw [hnil]
      rfl
    · rfl

/-- **The messages for a connection** are the Welcome with the UUID given out on its acceptance,
and others after it that are none. -/
theorem Run.commanded_eq {hist : List (State M × Action M)} {s : State M} (h : Run hist s) {c : ℕ}
    {uuid : Uuid} (hc : (issued hist)[c]? = some uuid) :
    ∃ rest, commanded hist c = .welcome uuid :: rest ∧ ∀ u, .welcome u ∉ rest := by
  induction h with
  | start h => simp [issued] at hc
  | @next hist s s' a h hs ih =>
    have hlen := Run.length_issued h
    rw [issued_append_singleton] at hc
    rw [commanded_append_singleton]
    rcases Nat.lt_or_ge c s.streams.length with hlt | hge
    · rw [List.getElem?_append_left (hlen ▸ hlt)] at hc
      obtain ⟨rest, hrest, hnot⟩ := ih hc
      refine ⟨rest ++ commandedBy s a c, by rw [hrest, List.cons_append], fun u hu ↦ ?_⟩
      rcases List.mem_append.1 hu with hu | hu
      · exact hnot u hu
      · exact welcome_notMem_commandedBy a hlt u hu
    · -- the connection that the step accepts
      rw [List.getElem?_append_right (hlen ▸ hge), hlen] at hc
      have hn : s.registry.Numbered := Registry.Run.numbered (Run.registry h)
      rw [Run.commanded_of_le h hge, commandedBy_of_le hn a hge, List.nil_append]
      cases hop : (s.op a).issued? with
      | none => simp [hop] at hc
      | some u =>
        rw [hop] at hc
        obtain ⟨hpos, hu⟩ := List.getElem?_eq_some_iff.1 hc
        have hc0 : c = s.streams.length := by
          simp only [Option.toList_some, List.length_singleton] at hpos
          omega
        subst hc0
        obtain rfl : u = uuid := by simpa using hu
        exact ⟨[], by simp, fun _ ↦ List.not_mem_nil⟩

/-- Only the UUID of a connection is ever in a Welcome for it. -/
theorem Run.issued_of_welcome {hist : List (State M × Action M)} {s : State M} (h : Run hist s)
    {c : ℕ} {uuid : Uuid} (hw : .welcome uuid ∈ commanded hist c) :
    (issued hist)[c]? = some uuid := by
  rcases Nat.lt_or_ge c (issued hist).length with hlt | hge
  · obtain ⟨rest, hrest, hnot⟩ := Run.commanded_eq h (List.getElem?_eq_getElem hlt)
    rw [hrest] at hw
    rcases List.mem_cons.1 hw with hw | hw
    · rw [List.getElem?_eq_getElem hlt, TcpFromServer.welcome.inj hw]
    · exact absurd hw (hnot uuid)
  · rw [Run.length_issued h] at hge
    rw [Run.commanded_of_le h hge] at hw
    cases hw

/-- Whatever is lost on the way, the sink is handed nothing but messages for its connection, in
order. -/
theorem Run.handed_sublist_commanded {hist : List (State M × Action M)} {s : State M}
    (h : Run hist s) {c : ℕ} {conn : Connection M} (hc : s.streams[c]? = some conn) :
    conn.writer.sink.handed.Sublist (commanded hist c) := by
  have htracks := (Run.writers h WriteActor.offerRule_tracks fun _ _ _ _ _ _ ↦ trivial).related c
    conn hc
  obtain ⟨x, rest, msgs, hl, hsent, hsub⟩ := (Run.writers h WriteActor.offerRule_receives
    fun _ _ _ _ _ _ ↦ trivial).related c conn hc
  have hqueued := htracks.handed_isPrefix.sublist
  rw [hsent, WriteActor.items_cons] at hqueued
  rw [hl]
  exact hqueued.trans (hsub.cons_cons x)

theorem Run.mem_commanded_of_handed {hist : List (State M × Action M)} {s : State M}
    (h : Run hist s) {c : ℕ} {conn : Connection M} (hc : s.streams[c]? = some conn)
    {msg : TcpFromServer M} (hmsg : msg ∈ conn.writer.sink.handed) : msg ∈ commanded hist c :=
  (h.handed_sublist_commanded hc).subset hmsg

end NetStream.Server
