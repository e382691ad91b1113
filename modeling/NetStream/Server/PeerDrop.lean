import NetStream.Actors.WriteLoop
import NetStream.Server.Isolation
import NetStream.Server.TcpDelivery

/-!
# What the drop of a peer leaves to be written

`drop_peer` signals the shutdown to the peer's write actor, finds the channel full or not, and drops
the record with the handle in it. Up to then the actor is at the end of a run of its own
(`Run.exists_writer_run`), and has not been told to stop. From then on it is `Orphaned`: no record
names its connection, so the broker does nothing more to it, and the steps it takes in the server's
run are all that happens to it (`Orphaned.of_path`). What it does with what was accepted before is a
matter of its loop alone (`WriteActor.Run.flushedOut`).
-/

namespace NetStream

namespace WriteActor

variable {T : Type}

/-- As long as its handle is there, an actor is at the end of a run of its own. -/
theorem offerRule_run : OfferRule (fun _ ↦ True) fun (w : WriteActor T) _ ↦
    w.actorMsg.senderAlive = true → ∃ hist, Run hist w := by
  have hoffer : ∀ (w : WriteActor T) msg,
      (w.actorMsg.senderAlive = true → ∃ hist, Run hist w) →
      (w.offer msg).actorMsg.senderAlive = true → ∃ hist, Run hist (w.offer msg) := by
    intro w msg h halive
    have halive' : w.actorMsg.senderAlive = true := Channel.senderAlive_offer.symm.trans halive
    obtain ⟨hist, hrun⟩ := h halive'
    by_cases hacc : w.actorMsg.Accepts
    · exact ⟨_, TransitionSystem.Run.next (T := system T) hrun (act_command halive' hacc msg)⟩
    · rw [offer, Channel.offer_of_not_accepts hacc]
      exact ⟨hist, hrun⟩
  have hspawn : Run [] (spawnActor : WriteActor T) := .start rfl
  exact {
    start x := hoffer _ _ fun _ ↦ ⟨_, hspawn⟩
    step h hs halive := by
      obtain ⟨hist, hrun⟩ := h ((senderAlive_of_step hs).symm.trans halive)
      exact ⟨_, TransitionSystem.Run.next (T := system T) (a := .task _) hrun hs⟩
    dropHandle _ halive := absurd halive Bool.false_ne_true
    shutdown h := hoffer _ _ h
    send x h _ := hoffer _ _ h }

/-- There is nothing to drop twice. -/
theorem dropHandle_of_dropped {w : WriteActor T} (h : w.actorMsg.senderAlive = false) :
    w.dropHandle = w := by
  rcases w with ⟨⟨sent, received, senderAlive, receiverAlive, hle⟩, sink, phase⟩
  cases h
  rfl

end WriteActor

namespace Server

variable {M : MessageTypes}

/-- No record names the connection, and its writer, whose handle is gone, is this one. -/
structure Orphaned (s : State M) (c : ℕ) (w : WriteActor (TcpFromServer M)) : Prop where
  unnamed : ∀ p peer, s.peers.get? p = some peer → peer.tcpWriteActorHandle.connection ≠ c
  writer : ∃ conn, s.streams[c]? = some conn ∧ conn.writer = w
  dropped : w.actorMsg.senderAlive = false

namespace Orphaned

variable {s s' : State M} {c : ℕ} {w : WriteActor (TcpFromServer M)}

theorem of_streams (h : Orphaned s c w) (hstreams : s'.streams = s.streams)
    (hunnamed : ∀ p peer, s'.peers.get? p = some peer → peer.tcpWriteActorHandle.connection ≠ c) :
    Orphaned s' c w :=
  ⟨hunnamed, by rw [hstreams]; exact h.writer, h.dropped⟩

theorem modify (h : Orphaned s c w) {i : ℕ} {f : Connection M → Connection M}
    (hf : i = c → ∀ conn, s.streams[c]? = some conn → conn.writer = w → (f conn).writer = w) :
    Orphaned (s.modifyConnection i f) c w where
  unnamed := h.unnamed
  writer := by
    obtain ⟨conn, hconn, hw⟩ := h.writer
    refine ⟨if i = c then f conn else conn, ?_, ?_⟩
    · simp [State.modifyConnection, List.getElem?_modify, hconn]
    · split
      · exact hf ‹_› conn hconn hw
      · exact hw
  dropped := h.dropped

theorem panic (h : Orphaned s c w) (site : PanicSite) : Orphaned (s.panic site) c w where
  unnamed := h.unnamed
  writer := by
    obtain ⟨conn, hconn, rfl⟩ := h.writer
    have hpanic : (s.panic site).streams[c]? = some { conn with
        reader := conn.reader.dropHandle.closeTx
        writer := conn.writer.dropHandle } := by
      simp only [State.panic, List.getElem?_map, hconn, Option.map_some]
    exact ⟨_, hpanic, WriteActor.dropHandle_of_dropped h.dropped⟩
  dropped := h.dropped

theorem emit (h : Orphaned s c w) (ev : Event M) : Orphaned (s.emit ev) c w := by
  unfold State.emit
  split
  · exact h.of_streams rfl h.unnamed
  · exact h.panic _

/-- A message goes to a connection that a record names. -/
theorem sendTcp (h : Orphaned s c w) {p : PeerUid} {peer : Peer} (hp : s.peers.get? p = some peer)
    (msg : TcpFromServer M) : Orphaned (s.sendTcp peer.tcpWriteActorHandle msg) c w :=
  h.modify fun hi ↦ absurd hi (h.unnamed p peer hp)

theorem dropHandles (h : Orphaned s c w) {peer : Peer}
    (hpeer : peer.tcpWriteActorHandle.connection ≠ c) : Orphaned (s.dropHandles peer) c w := by
  refine modify (modify h ?_) ?_
  · exact fun _ conn _ hw ↦ hw
  · exact fun hi ↦ absurd hi hpeer

theorem shutdownActors (h : Orphaned s c w) {peer : Peer}
    (hpeer : peer.tcpWriteActorHandle.connection ≠ c) : Orphaned (s.shutdownActors peer) c w := by
  refine dropHandles (modify (modify h ?_) ?_) hpeer
  · exact fun _ conn _ hw ↦ hw
  · exact fun hi ↦ absurd hi hpeer

theorem insertPeer (h : Orphaned s c w) {peer : Peer}
    (hpeer : peer.tcpWriteActorHandle.connection ≠ c) (p : PeerUid) :
    Orphaned (s.insertPeer p peer) c w := by
  have hinsert : Orphaned { s with peers := s.peers.insert p peer } c w := by
    refine h.of_streams rfl fun q peer' hq ↦ ?_
    rcases HashMap.get?_insert_eq_some_iff.1 hq with ⟨-, rfl⟩ | ⟨-, hq⟩
    · exact hpeer
    · exact h.unnamed q peer' hq
  unfold State.insertPeer
  dsimp only
  split
  · exact hinsert.dropHandles (h.unnamed _ _ ‹_›)
  · exact hinsert

/-! ### The handlers -/

theorem handleNewTcpConnection (h : Orphaned s c w) (tcpStream : TcpStream) (newV4 : Uuid) :
    Orphaned (Server.handleNewTcpConnection s tcpStream newV4) c w := by
  have hlt : c < s.streams.length := by
    obtain ⟨conn, hconn, -⟩ := h.writer
    exact (List.getElem?_eq_some_iff.1 hconn).1
  have hne : s.streams.length ≠ c := Nat.ne_of_gt hlt
  unfold Server.handleNewTcpConnection
  split
  · exact h.panic _
  · split
    · exact h
    · dsimp only
      split
      · exact h.panic _
      · refine emit (insertPeer ?_ hne _) _
        -- the Welcome goes to the new connection
        refine modify ?_ fun hi ↦ absurd hi hne
        obtain ⟨conn, hconn, hw⟩ := h.writer
        exact ⟨h.unnamed, ⟨conn, (List.getElem?_append_left hlt).trans hconn, hw⟩, h.dropped⟩

theorem announceTcp (h : Orphaned s c w) (order : List PeerUid) (msg : TcpFromServer M) :
    Orphaned (Server.announceTcp s order msg) c w := by
  unfold Server.announceTcp
  induction order generalizing s with
  | nil => exact h
  | cons p order ih =>
    rw [List.foldl_cons]
    split
    · exact ih (h.sendTcp ‹_› msg)
    · exact ih h

theorem handleActorMessage (h : Orphaned s c w) (msg : Message M) (order : List PeerUid)
    (schedule : List (List WriteActor.Step)) :
    Orphaned (Server.handleActorMessage s msg order schedule) c w := by
  cases msg with
  | toPeerTcp p msg =>
    simp only [Server.handleActorMessage]
    split
    · exact h.sendTcp ‹_› _
    · exact h
  | toPeerUdp p msg =>
    simp only [Server.handleActorMessage]
    repeat' split
    · exact h.of_streams rfl h.unnamed
    · exact h
    · exact h
  | announceTcp msg => exact h.announceTcp order _
  | announceUdp msg => exact h.of_streams rfl h.unnamed
  | getNumberOfConnectedPeers tx => exact h.of_streams rfl h.unnamed

theorem handleUdpReaderStreamItem (h : Orphaned s c w) (message : UdpToServer M)
    (addr : SocketAddr) : Orphaned (Server.handleUdpReaderStreamItem s message addr) c w := by
  cases message with
  | hello uuid =>
    simp only [Server.handleUdpReaderStreamItem]
    split
    · exact h
    · split
      · exact h
      · rename_i peer hpeer
        have hne := h.unnamed _ peer hpeer
        -- the message acknowledges the address to the connection of the peer
        have hsend : Orphaned (s.sendTcp peer.tcpWriteActorHandle .udpHandshakeAcknowledged) c w :=
          h.sendTcp hpeer _
        refine hsend.of_streams rfl fun q peer' hq ↦ ?_
        rcases HashMap.get?_insert_eq_some_iff.1 hq with ⟨-, rfl⟩ | ⟨-, hq⟩
        · exact hne
        · exact h.unnamed q peer' hq
  | applicationLogic msg =>
    simp only [Server.handleUdpReaderStreamItem]
    split
    · exact h
    · exact h.emit _

theorem handleEndOfStream (h : Orphaned s c w) (kind : IncomingKind) :
    Orphaned (Server.handleEndOfStream s kind) c w := by
  have hassert : ∀ p, Orphaned (s.assertNotConnected p) c w := by
    intro p
    unfold State.assertNotConnected
    split
    · exact h.panic _
    · exact h
  unfold Server.handleEndOfStream
  split
  · exact h.panic _
  · exact h.panic _
  all_goals
    split
    all_goals first
      | exact h.of_streams rfl h.unnamed
      | exact hassert _
      | exact h.panic _

theorem handleIncoming (h : Orphaned s c w) (incoming : Incoming M) (choice : Choice) :
    Orphaned (Server.handleIncoming s incoming choice) c w := by
  unfold Server.handleIncoming
  split
  · exact h.handleActorMessage _ _ _
  · exact h
  · exact h.handleNewTcpConnection _ _
  · rename_i message p
    cases message with
    | applicationLogic msg => exact h.emit _
  · exact h.of_streams rfl h.unnamed
  · exact h.handleUdpReaderStreamItem _ _
  · split
    · exact h.of_streams rfl h.unnamed
    · exact h
  · exact h.of_streams rfl h.unnamed
  · exact h.handleEndOfStream _

theorem dropPeer (h : Orphaned s c w) (p : PeerUid) (reason : DisconnectReason) :
    Orphaned (Server.dropPeer s p reason) c w := by
  unfold Server.dropPeer
  split
  · exact h
  · rename_i peer hpeer
    refine emit (shutdownActors ?_ (h.unnamed p peer hpeer)) _
    refine h.of_streams rfl fun q peer' hq ↦ ?_
    exact h.unnamed q peer' (HashMap.get?_remove_eq_some_iff.1 hq).2

theorem dropPeers (h : Orphaned s c w) (l : List (PeerUid × DisconnectReason)) :
    Orphaned (Server.dropPeers s l) c w := by
  induction l generalizing s with
  | nil => exact h
  | cons x rest ih =>
    have hdrop := h.dropPeer x.1 x.2
    rw [Server.dropPeers]
    split
    · exact hdrop
    · exact ih hdrop

theorem loopTop (h : Orphaned s c w) : Orphaned (Server.loopTop s) c w := by
  unfold Server.loopTop
  split
  · exact h.panic _
  · refine dropPeers ?_ _
    exact h.of_streams rfl h.unnamed

theorem taken (h : Orphaned s c w) {incoming : Incoming M} (ht : s.Taken incoming s') :
    Orphaned s' c w where
  unnamed := by
    have hpeers : s'.peers = s.peers := congrArg Registry.peers (State.registry_taken ht)
    rw [hpeers]
    exact h.unnamed
  writer := by
    obtain ⟨conn, hconn, rfl⟩ := h.writer
    exact ht.writer hconn
  dropped := h.dropped

end Orphaned

/-! ### Steps -/

/-- The step that an action is for the writer of connection `c`. -/
def Action.writerStep? (c : ℕ) : Action M → Option WriteActor.Step
  | .task (.tcpWriter i st) => if i = c then some st else none
  | _ => none

/-- The steps of the writer of connection `c`, in order. -/
def writerSteps (c : ℕ) (l : List (Action M)) : List WriteActor.Step :=
  l.filterMap (Action.writerStep? c)

namespace Orphaned

variable {s s' : State M} {c : ℕ} {w : WriteActor (TcpFromServer M)}

/-- **A step of the server** is a step of an orphaned writer, or leaves it as it is. -/
theorem step (h : Orphaned s c w) {a : Action M} (hs : s.step a = some s') :
    ∃ w', Orphaned s' c w' ∧
      match a.writerStep? c with
      | some st => w.step st = some w'
      | none => w' = w := by
  rcases State.step_cases hs with ⟨rfl, -, rfl⟩ | ⟨source, choice, incoming, t, rfl, -, hr, rfl⟩ |
    ⟨i, conn, conn', hconn, hmoves, rfl⟩ | ⟨st, reader, rfl, -, rfl⟩ | ⟨st, writer, rfl, -, rfl⟩ |
    ⟨x, rfl, rfl⟩ | ⟨e, ch, sender, rfl, -, rfl⟩
  · exact ⟨w, h.loopTop, rfl⟩
  · have ht := h.taken (State.taken_of_nextIncoming hr)
    have htop : Orphaned { t with phase := .top } c w := ht.of_streams rfl ht.unnamed
    exact ⟨w, htop.handleIncoming incoming choice, rfl⟩
  · have hsame : ∀ {conn' : Connection M}, (i = c → conn'.writer = conn.writer) →
        Orphaned (s.modifyConnection i fun _ ↦ conn') c w := by
      intro conn' hwriter
      refine h.modify fun hi old hold hw ↦ ?_
      subst hi
      obtain rfl := Option.some.inj (hconn.symm.trans hold)
      exact (hwriter rfl).trans hw
    cases hmoves with
    | reader _ | frame _ | ends => exact ⟨w, hsame fun _ ↦ rfl, rfl⟩
    | @writer st writer hstep =>
      by_cases hi : i = c
      · subst hi
        obtain ⟨old, hold, rfl⟩ := h.writer
        obtain rfl := Option.some.inj (hconn.symm.trans hold)
        have hmodified : (s.modifyConnection i fun _ ↦ { conn with writer := writer }).streams[i]? =
            some { conn with writer := writer } := by
          simp [State.modifyConnection, hconn]
        refine ⟨writer, ⟨h.unnamed, ⟨_, hmodified, rfl⟩, ?_⟩, ?_⟩
        · exact (WriteActor.senderAlive_of_step hstep).trans h.dropped
        · simpa [Action.writerStep?] using hstep
      · refine ⟨w, hsame fun hi' ↦ absurd hi' hi, ?_⟩
        simp [Action.writerStep?, hi]
  · exact ⟨w, h.of_streams rfl h.unnamed, rfl⟩
  · exact ⟨w, h.of_streams rfl h.unnamed, rfl⟩
  · exact ⟨w, h.of_streams rfl h.unnamed, rfl⟩
  · exact ⟨w, h.of_streams rfl h.unnamed, rfl⟩

/-- **Whatever the server does**, an orphaned writer takes its own steps. -/
theorem of_path {l : List (Action M)} (h : Orphaned s c w) (hp : (system M).Path s l s') :
    ∃ w', Orphaned s' c w' ∧
      (WriteActor.system _).Path w ((writerSteps c l).map .task) w' := by
  induction hp generalizing w with
  | nil s => exact ⟨w, h, .nil w⟩
  | @cons s s' s'' a l hs _ ih =>
    obtain ⟨w₁, h₁, hstep⟩ := h.step hs
    obtain ⟨w₂, h₂, hpath⟩ := ih h₁
    refine ⟨w₂, h₂, ?_⟩
    unfold writerSteps
    cases ha : a.writerStep? c with
    | none =>
      rw [ha] at hstep
      subst hstep
      rwa [List.filterMap_cons_none ha]
    | some st =>
      rw [ha] at hstep
      rw [List.filterMap_cons_some ha]
      exact .cons hstep hpath

end Orphaned

/-! ### The drop -/

variable {s s' : State M} {p q : PeerUid} {peer : Peer} {conn : Connection M}
  {reason : DisconnectReason}

theorem State.peers_emit (s : State M) (ev : Event M) : (s.emit ev).peers = s.peers := by
  unfold emit
  split <;> rfl

theorem State.streams_emit {ev : Event M} (hnot : ∀ site, (s.emit ev).phase ≠ .panicked site) :
    (s.emit ev).streams = s.streams := by
  unfold emit at hnot ⊢
  split at hnot
  · rfl
  · exact absurd rfl (hnot .emitEvent)

theorem peers_dropPeer_of_ne (reason : DisconnectReason) (hne : p ≠ q) :
    (dropPeer s q reason).peers.get? p = s.peers.get? p := by
  cases hq : s.peers.get? q with
  | none => simp only [dropPeer, hq]
  | some record =>
    rw [State.dropPeer_of_get? hq, State.peers_emit]
    exact s.peers_forget_of_ne hne

/-- The drop of another peer leaves the connection alone, unless the broker panics. -/
theorem streams_dropPeer_of_ne (hn : s.registry.Numbered) {c : ℕ} (hne : PeerUid.ofNat c ≠ q)
    (hnot : ∀ site, (dropPeer s q reason).phase ≠ .panicked site) :
    (dropPeer s q reason).streams[c]? = s.streams[c]? := by
  cases hq : s.peers.get? q with
  | none => simp only [dropPeer, hq]
  | some record =>
    obtain ⟨m, -, rfl, hread, hwrite⟩ := hn.handles q record hq
    have hmc : m ≠ c := fun h ↦ hne (h ▸ rfl)
    rw [State.dropPeer_of_get? hq] at hnot ⊢
    rw [State.streams_emit hnot, State.streams_shutdownActors_of_ne _ hread hwrite hmc,
      State.streams_forget]

/-- **The drop of a peer orphans its writer**, which has been offered the signal. -/
theorem orphaned_dropPeer (reason : DisconnectReason) (hn : s.registry.Numbered)
    (hp : s.peers.get? p = some peer)
    (hconn : s.streams[peer.tcpWriteActorHandle.connection]? = some conn) :
    Orphaned (dropPeer s p reason) peer.tcpWriteActorHandle.connection
      (conn.writer.offer .shutdown).dropHandle := by
  obtain ⟨m, -, rfl, hread, hwrite⟩ := hn.handles p peer hp
  rw [hwrite] at hconn ⊢
  rw [State.dropPeer_of_get? hp]
  refine Orphaned.emit ⟨fun q peer' hq ↦ ?_, ?_, rfl⟩ _
  · have hremoved : (s.peers.remove (.ofNat m)).get? q = some peer' := by
      have hforget : (s.forget (.ofNat m)).peers = s.peers.remove (.ofNat m) := by
        simp only [State.forget, hp]
      rw [← hforget]
      exact hq
    obtain ⟨hne, hq⟩ := HashMap.get?_remove_eq_some_iff.1 hremoved
    obtain ⟨i, -, rfl, -, hwrite'⟩ := hn.handles q peer' hq
    rw [hwrite']
    exact fun hi ↦ hne (congrArg PeerUid.ofNat hi)
  · have hshutdown : ((s.forget (.ofNat m)).shutdownActors peer).streams[m]? = some { conn with
        reader := (conn.reader.logged conn.reader.signalShutdown).dropHandle
        writer := (conn.writer.offer .shutdown).dropHandle } := by
      simp [State.shutdownActors, State.dropHandles, State.modifyConnection, hread, hwrite,
        State.streams_forget, hconn]
    exact ⟨_, hshutdown, rfl⟩

/-- The drops of a pass through the top of the loop. -/
theorem orphaned_dropPeers (hn : s.registry.Numbered) (hp : s.peers.get? p = some peer)
    (hconn : s.streams[peer.tcpWriteActorHandle.connection]? = some conn)
    {l : List (PeerUid × DisconnectReason)} (hgone : p ∉ (dropPeers s l).peers.keys) :
    Orphaned (dropPeers s l) peer.tcpWriteActorHandle.connection
      (conn.writer.offer .shutdown).dropHandle := by
  induction l generalizing s with
  | nil => exact absurd (HashMap.mem_keys_of_get? hp) hgone
  | cons x rest ih =>
    obtain ⟨q, reason⟩ := x
    by_cases hqp : p = q
    · subst hqp
      have hdrop := orphaned_dropPeer reason hn hp hconn
      rw [dropPeers]
      split
      · exact hdrop
      · exact hdrop.dropPeers rest
    · have hp' := (peers_dropPeer_of_ne reason hqp).trans hp
      rw [dropPeers] at hgone ⊢
      split at hgone
      · exact absurd (HashMap.mem_keys_of_get? hp') hgone
      · rename_i hnot
        refine ih ?_ hp' ?_ hgone
        · rw [State.registry_dropPeer]
          exact hn.dropPeer q reason
        · obtain ⟨m, -, rfl, -, hwrite⟩ := hn.handles p peer hp
          rw [hwrite] at hconn ⊢
          exact (streams_dropPeer_of_ne hn hqp hnot).trans hconn

/-! ### Runs -/

variable {hist : List (State M × Action M)}

theorem Run.exists_writer_run (h : Run hist s) {c : ℕ} (hconn : s.streams[c]? = some conn)
    (halive : conn.writer.actorMsg.senderAlive = true) :
    ∃ hist', WriteActor.Run hist' conn.writer :=
  (Run.writers h WriteActor.offerRule_run fun _ _ _ _ _ _ ↦ trivial).related c conn hconn halive

theorem Run.orphaned (h : Run hist s) (hs : s.step .loopTop = some s')
    (hp : s.peers.get? p = some peer) (hgone : p ∉ s'.peers.keys)
    (hconn : s.streams[peer.tcpWriteActorHandle.connection]? = some conn) :
    Orphaned s' peer.tcpWriteActorHandle.connection (conn.writer.offer .shutdown).dropHandle := by
  obtain ⟨-, rfl⟩ := State.eq_loopTop_of_step hs
  by_cases hfails : (s.profile.debugAssertions && !s.assertInvariants) = true
  · rw [loopTop, if_pos hfails] at hgone
    exact absurd (HashMap.mem_keys_of_get? hp) hgone
  · rw [loopTop, if_neg hfails] at hgone ⊢
    have hn : s.registry.Numbered := Run.numbered h
    exact orphaned_dropPeers (s := { s with peersToDrop := [], phase := .waiting }) hn hp hconn hgone

/-- **The drop of a peer delivers what was accepted before it**: when a pass through the top of the
loop has dropped a peer, whatever the server does afterwards, the peer's write actor writes out its
queue. -/
def DropsFlushed (s : State M) : Prop :=
  ∀ s' p peer conn, s.step .loopTop = some s' → s.peers.get? p = some peer → p ∉ s'.peers.keys →
    s.streams[peer.tcpWriteActorHandle.connection]? = some conn →
    ∀ l s'', (system M).Path s' l s'' →
      ∃ conn'', s''.streams[peer.tcpWriteActorHandle.connection]? = some conn'' ∧
        conn.writer.FlushedOut (writerSteps peer.tcpWriteActorHandle.connection l) conn''.writer

theorem Run.dropsFlushed (h : Run hist s) : DropsFlushed s := by
  intro s' p peer conn hs hp hgone hconn l s'' hpath
  have hnot : ¬ s.Released peer.tcpWriteActorHandle.connection := by
    rintro (hpanicked | hunnamed)
    · obtain ⟨hphase, -⟩ := State.eq_loopTop_of_step hs
      exact State.not_panicked_of_top hphase hpanicked
    · exact (hunnamed p peer hp).2 rfl
  have hattended := (h.tended.attended _ conn hconn hnot).writer
  obtain ⟨hist', hrun⟩ := h.exists_writer_run hconn hattended.handleAlive
  obtain ⟨w, horphaned, hwriter⟩ := (h.orphaned hs hp hgone hconn).of_path hpath
  obtain ⟨conn'', hconn'', rfl⟩ := horphaned.writer
  exact ⟨conn'', hconn'', WriteActor.Run.flushedOut hrun hattended hwriter⟩

/-- **The write actor and the ways to stop it**: what its loop does over any run, and that the drop of
a peer loses nothing that was accepted before. -/
theorem writeActor_works :
    (∀ (T : Type) (hist : List (WriteActor T × WriteActor.Action T)) (w : WriteActor T),
      WriteActor.Run hist w → WriteActor.Works hist w) ∧
    ∀ (M : MessageTypes) (hist : List (State M × Action M)) (s : State M),
      Run hist s → DropsFlushed s :=
  ⟨fun _ _ _ h ↦ WriteActor.Run.works h, fun _ _ _ h ↦ Run.dropsFlushed h⟩

set_option maxRecDepth 20000 in
/-- A writer whose second item fails; and a peer whose queue is full of `33` messages when it is
dropped, and whose writer gets them all out before it finds no handle. -/
theorem writeActor_works_of_fullQueue :
    (∃ hist, ∃ w : WriteActor ℕ, WriteActor.Run hist w ∧
      w.phase = .finished (.controlled .sinkError) ∧ w.sink.handed = [1, 2] ∧
      WriteActor.Works hist w) ∧
    ∃ hist, ∃ s : State numberedMessages, ∃ conn conn'' : Connection numberedMessages,
      Run hist s ∧ s.streams[0]? = some conn ∧ conn.writer.actorMsg.queue.length = 33 ∧
      conn''.writer.phase = .finished (.controlled .actorHandlesDropped) ∧
      conn''.writer.sink.handed.length = 33 ∧
      ∃ sts, conn.writer.FlushedOut sts conn''.writer := by
  have hfailed : WriteActor.Run _ _ := TransitionSystem.run_of_exec (T := WriteActor.system ℕ)
    (s := .spawnActor) (l := [.command (.feed 1), .command (.send 2), .command (.send 3),
      .task .recv, .task (.operate true), .task .recv, .task (.operate false),
      .task (.close true)]) rfl rfl
  have h : Run _ _ := TransitionSystem.run_of_exec (T := system numberedMessages)
    (s := .start .dev ⟨1⟩) (l := Action.connect 1 1 [] ++
      (List.range 33).flatMap Action.tell ++ Action.frame 0 (.error .bincode) ++
      Action.take (.tcpReader 0) [0]) ⟨.dev, ⟨1⟩, rfl⟩ rfl
  have hdrops := writeActor_works.2 _ _ _ h _ (.ofNat 0) _ _ rfl rfl (by decide) rfl
  obtain ⟨conn'', hconn'', hflushed⟩ := hdrops _ _ <| TransitionSystem.path_of_exec
    (l := (List.range 33).flatMap (fun _ ↦ Action.write) ++
      [.task (.tcpWriter 0 .recv), .task (.tcpWriter 0 (.close true))]) rfl
  obtain rfl := Option.some.inj hconn''
  exact ⟨⟨_, _, hfailed, rfl, rfl, writeActor_works.1 _ _ _ hfailed⟩,
    _, _, _, _, h, rfl, by decide, rfl, by decide, _, hflushed⟩

end Server

end NetStream
