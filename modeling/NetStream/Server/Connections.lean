import NetStream.Server.Lifecycle

/-!
# What the broker does to its connections

The broker touches a connection only through the handles in the record of its peer and through its
receiver of the connection's items. While a record holds the handles, all it does is to queue
messages (`Connection.Touch.send`); everything else it does after the record is gone, or by the
panic that ends it: then the connection is `Released`.

`Handled s s'` says this of the way from `s` to `s'`, together with what happens to the UDP actors.
It holds of each handler (`handled_handleIncoming`, `handled_loopTop`), so a property of connections
that a queued message does not disturb needs no further look at the handlers.
-/

/-- A change at the end of a list. -/
theorem List.modify_length_append_singleton {α : Type*} (l : List α) (x : α) (f : α → α) :
    (l ++ [x]).modify l.length f = l ++ [f x] := by
  induction l with
  | nil => rfl
  | cons y l ih => simpa using ih

namespace NetStream

theorem WriteActor.used_steps {T : Type} (w : WriteActor T) (sts : List WriteActor.Step) :
    w.Used (w.steps sts) :=
  WriteActor.steps_induction (I := w.Used) (fun _ _ _ h hs ↦ h.step hs) (.refl w) sts

/-- An announcement sends no shutdown signal. -/
theorem WriteActor.used_feedAndFlush {T : Type} (w : WriteActor T) (items : List T)
    (schedule : List (List WriteActor.Step)) : w.Used (w.feedAndFlush items schedule) := by
  induction items generalizing w schedule with
  | nil =>
    rw [feedAndFlush, logged_flush]
    exact (w.used_steps _).offer (by simp)
  | cons item rest ih =>
    rw [feedAndFlush, logged_feed]
    exact ((w.used_steps _).offer (by simp)).trans (ih _ _)

namespace Server

variable {M : MessageTypes}

/-- What the broker can do to a connection. -/
inductive Connection.Touch (released : Prop) (conn : Connection M) : Connection M → Prop
  | refl : Touch released conn conn
  | send {conn' : Connection M} (h : Touch released conn conn') (msg : TcpFromServer M) :
      Touch released conn { conn' with writer := conn'.writer.offer (.send msg) }
  | shutdownReader {conn' : Connection M} (h : Touch released conn conn') (hr : released) :
      Touch released conn
        { conn' with reader := { conn'.reader with actorMsg := conn'.reader.actorMsg.offer .shutdown } }
  | shutdownWriter {conn' : Connection M} (h : Touch released conn conn') (hr : released) :
      Touch released conn { conn' with writer := conn'.writer.offer .shutdown }
  | dropReader {conn' : Connection M} (h : Touch released conn conn') (hr : released) :
      Touch released conn { conn' with reader := conn'.reader.dropHandle }
  | dropWriter {conn' : Connection M} (h : Touch released conn conn') (hr : released) :
      Touch released conn { conn' with writer := conn'.writer.dropHandle }
  | closeReader {conn' : Connection M} (h : Touch released conn conn') (hr : released) :
      Touch released conn { conn' with reader := conn'.reader.closeTx }

namespace Connection.Touch

variable {released released' : Prop} {conn conn' conn'' : Connection M}

theorem mono (h : conn.Touch released conn') (hr : released → released') :
    conn.Touch released' conn' := by
  induction h with
  | refl => exact .refl
  | send _ msg ih => exact ih.send msg
  | shutdownReader _ hrel ih => exact ih.shutdownReader (hr hrel)
  | shutdownWriter _ hrel ih => exact ih.shutdownWriter (hr hrel)
  | dropReader _ hrel ih => exact ih.dropReader (hr hrel)
  | dropWriter _ hrel ih => exact ih.dropWriter (hr hrel)
  | closeReader _ hrel ih => exact ih.closeReader (hr hrel)

theorem trans (h : conn.Touch released conn') (h' : conn'.Touch released conn'') :
    conn.Touch released conn'' := by
  induction h' with
  | refl => exact h
  | send _ msg ih => exact ih.send msg
  | shutdownReader _ hrel ih => exact ih.shutdownReader hrel
  | shutdownWriter _ hrel ih => exact ih.shutdownWriter hrel
  | dropReader _ hrel ih => exact ih.dropReader hrel
  | dropWriter _ hrel ih => exact ih.dropWriter hrel
  | closeReader _ hrel ih => exact ih.closeReader hrel

end Connection.Touch

namespace State

variable {s s' s'' : State M}

/-- The broker has panicked. -/
def Panicked (s : State M) : Prop :=
  ∃ site, s.phase = .panicked site

/-- No record holds handles of the connection any more. -/
def Released (s : State M) (c : ℕ) : Prop :=
  s.Panicked ∨ ∀ p peer, s.peers.get? p = some peer →
    peer.tcpReadActorHandle.connection ≠ c ∧ peer.tcpWriteActorHandle.connection ≠ c

theorem not_panicked_of_phase {ph : Phase} (h : s.phase = ph) (hne : ∀ site, ph ≠ .panicked site) :
    ¬ s.Panicked := by
  rintro ⟨site, hp⟩
  exact hne site (h.symm.trans hp)

theorem not_panicked_of_waiting (h : s.phase = .waiting) : ¬ s.Panicked :=
  not_panicked_of_phase h fun _ ↦ Phase.noConfusion

theorem not_panicked_of_top (h : s.phase = .top) : ¬ s.Panicked :=
  not_panicked_of_phase h fun _ ↦ Phase.noConfusion

end State

/-- What the broker has done to the IO actors on the way from `s` to `s'`. -/
structure Handled (s s' : State M) : Prop where
  /-- There is no way back from a panic. -/
  panicked : s.Panicked → s'.Panicked
  /-- Nor is a connection taken up again. -/
  released : ∀ c < s.streams.length, s.Released c → s'.Released c
  old : ∀ (c : ℕ) (conn : Connection M), s.streams[c]? = some conn →
    ∃ conn', s'.streams[c]? = some conn' ∧ conn.Touch (s'.Released c) conn'
  new : ∀ (c : ℕ) (conn' : Connection M), s.streams.length ≤ c → s'.streams[c]? = some conn' →
    ∃ p, (Connection.spawn p).Touch (s'.Released c) conn'
  udpReader : ¬ s'.Panicked → s'.udpReadActor = s.udpReadActor
  udpWriter : ¬ s'.Panicked → s.udpWriteActor.Used s'.udpWriteActor

namespace Handled

variable {s s' s'' : State M}

/-- Nothing happens to the IO actors. -/
theorem of_streams (hpanicked : s.Panicked → s'.Panicked)
    (hreleased : ∀ c < s.streams.length, s.Released c → s'.Released c)
    (hstreams : s'.streams = s.streams) (hreader : s'.udpReadActor = s.udpReadActor)
    (hwriter : s'.udpWriteActor = s.udpWriteActor) : Handled s s' where
  panicked := hpanicked
  released := hreleased
  old c conn hc := ⟨conn, by rw [hstreams, hc], .refl⟩
  new c conn' hc hc' := by
    obtain ⟨hlt, -⟩ := List.getElem?_eq_some_iff.1 hc'
    rw [hstreams] at hlt
    omega
  udpReader _ := hreader
  udpWriter _ := hwriter ▸ .refl _

/-- Nothing happens to the peers either. -/
theorem of_eq (hpanicked : s.Panicked → s'.Panicked) (hstreams : s'.streams = s.streams)
    (hpeers : s'.peers = s.peers) (hreader : s'.udpReadActor = s.udpReadActor)
    (hwriter : s'.udpWriteActor = s.udpWriteActor) : Handled s s' :=
  .of_streams hpanicked (fun _ _ h ↦ h.imp hpanicked (by rw [hpeers]; exact id)) hstreams hreader
    hwriter

theorem refl (s : State M) : Handled s s :=
  .of_eq id rfl rfl rfl rfl

theorem length_le (h : Handled s s') : s.streams.length ≤ s'.streams.length := by
  by_contra hlt
  obtain ⟨conn', hconn', -⟩ :=
    h.old s'.streams.length _ (List.getElem?_eq_getElem (Nat.lt_of_not_le hlt))
  obtain ⟨hlt', -⟩ := List.getElem?_eq_some_iff.1 hconn'
  omega

theorem trans (h : Handled s s') (h' : Handled s' s'') : Handled s s'' where
  panicked hp := h'.panicked (h.panicked hp)
  released c hc hr := h'.released c (Nat.lt_of_lt_of_le hc h.length_le) (h.released c hc hr)
  old c conn hconn := by
    obtain ⟨conn', hconn', htouch⟩ := h.old c conn hconn
    obtain ⟨conn'', hconn'', htouch'⟩ := h'.old c conn' hconn'
    obtain ⟨hlt, -⟩ := List.getElem?_eq_some_iff.1 hconn'
    exact ⟨conn'', hconn'', (htouch.mono (h'.released c hlt)).trans htouch'⟩
  new c conn'' hc hconn'' := by
    rcases Nat.lt_or_ge c s'.streams.length with hlt | hge
    · obtain ⟨p, htouch⟩ := h.new c _ hc (List.getElem?_eq_getElem hlt)
      obtain ⟨conn, hconn, htouch'⟩ := h'.old c _ (List.getElem?_eq_getElem hlt)
      obtain rfl := Option.some.inj (hconn.symm.trans hconn'')
      exact ⟨p, (htouch.mono (h'.released c hlt)).trans htouch'⟩
    · exact h'.new c conn'' hge hconn''
  udpReader hp := by
    rw [h'.udpReader hp, h.udpReader fun hp' ↦ hp (h'.panicked hp')]
  udpWriter hp := (h.udpWriter fun hp' ↦ hp (h'.panicked hp')).trans (h'.udpWriter hp)

theorem panic (s : State M) (site : PanicSite) : Handled s (s.panic site) where
  panicked _ := ⟨site, rfl⟩
  released _ _ _ := Or.inl ⟨site, rfl⟩
  old c conn hconn := by
    have hr : (s.panic site).Released c := Or.inl ⟨site, rfl⟩
    have htouch : conn.Touch ((s.panic site).Released c)
        { conn with reader := conn.reader.dropHandle.closeTx, writer := conn.writer.dropHandle } :=
      ((Connection.Touch.refl.dropReader hr).closeReader hr).dropWriter hr
    refine ⟨_, ?_, htouch⟩
    simp only [State.panic, List.getElem?_map, hconn, Option.map_some]
  new c conn' hc hconn' := by
    obtain ⟨hlt, -⟩ := List.getElem?_eq_some_iff.1 hconn'
    simp only [State.panic, List.length_map] at hlt
    omega
  udpReader hp := absurd ⟨site, rfl⟩ hp
  udpWriter hp := absurd ⟨site, rfl⟩ hp

theorem emit (s : State M) (ev : Event M) : Handled s (s.emit ev) := by
  unfold State.emit
  split
  · exact .of_eq id rfl rfl rfl rfl
  · exact panic s _

/-- One connection changes. -/
theorem modify {c : ℕ} {f : Connection M → Connection M}
    (hf : ∀ conn, s.streams[c]? = some conn → conn.Touch (s.Released c) (f conn)) :
    Handled s (s.modifyConnection c f) where
  panicked := id
  released _ _ := id
  old i conn hconn := by
    by_cases hi : c = i
    · subst hi
      exact ⟨f conn, by simp [State.modifyConnection, hconn], hf conn hconn⟩
    · exact ⟨conn, by simp [State.modifyConnection, hi, hconn], .refl⟩
  new i conn' hi hconn' := by
    obtain ⟨hlt, -⟩ := List.getElem?_eq_some_iff.1 hconn'
    simp only [State.modifyConnection, List.length_modify] at hlt
    omega
  udpReader _ := rfl
  udpWriter _ := .refl _

theorem sendTcp (s : State M) (handle : WriteActorHandle) (msg : TcpFromServer M) :
    Handled s (s.sendTcp handle msg) := by
  refine modify fun conn _ ↦ ?_
  rw [WriteActor.logged_send]
  exact Connection.Touch.refl.send msg

theorem sendUdp (s : State M) (msg : UdpFromServer M) (addr : SocketAddr) :
    Handled s (s.sendUdp msg addr) where
  panicked := id
  released _ _ := id
  old c conn hconn := ⟨conn, hconn, .refl⟩
  new c conn' hc hconn' := by
    obtain ⟨hlt, -⟩ := List.getElem?_eq_some_iff.1 hconn'
    exact absurd hlt (Nat.not_lt_of_le hc)
  udpReader _ := rfl
  udpWriter _ := by
    show s.udpWriteActor.Used (s.udpWriteActor.logged (s.udpWriteActor.send (msg, addr)))
    rw [WriteActor.logged_send]
    exact (WriteActor.Used.refl _).offer nofun

/-- The handles of a record that is gone are dropped. -/
theorem dropHandles (s : State M) {peer : Peer} (hr : s.Released peer.tcpReadActorHandle.connection)
    (hw : s.Released peer.tcpWriteActorHandle.connection) : Handled s (s.dropHandles peer) :=
  (modify fun _ _ ↦ Connection.Touch.refl.dropReader hr).trans
    (modify fun _ _ ↦ Connection.Touch.refl.dropWriter hw)

theorem shutdownActors (s : State M) {peer : Peer}
    (hr : s.Released peer.tcpReadActorHandle.connection)
    (hw : s.Released peer.tcpWriteActorHandle.connection) : Handled s (s.shutdownActors peer) := by
  unfold State.shutdownActors
  simp only [ReadActor.logged_signalShutdown, WriteActor.logged_signalShutdown]
  have hreader : Handled s (s.modifyConnection peer.tcpReadActorHandle.connection fun conn ↦
      { conn with reader :=
        { conn.reader with actorMsg := conn.reader.actorMsg.offer .shutdown } }) :=
    modify fun _ _ ↦ Connection.Touch.refl.shutdownReader hr
  refine (hreader.trans (modify (fun _ _ ↦ Connection.Touch.refl.shutdownWriter hw))).trans ?_
  exact dropHandles _ hr hw

/-! ### The handlers -/

/-- A record is taken out, and its actors are told to stop. -/
theorem dropPeer (s : State M) (hn : s.registry.Numbered) (p : PeerUid) (reason : DisconnectReason) :
    Handled s (Server.dropPeer s p reason) := by
  unfold Server.dropPeer
  split
  · exact refl s
  · rename_i peer hp
    obtain ⟨c, hc, rfl, hread, hwrite⟩ := hn.handles p peer hp
    have hremove : ∀ s' : State M, s'.peers = s.peers.remove (.ofNat c) → s'.Released c := by
      intro s' hpeers
      refine Or.inr fun q peer' hq ↦ ?_
      rw [hpeers, HashMap.get?_remove_eq_some_iff] at hq
      obtain ⟨m, -, rfl, hread', hwrite'⟩ := hn.handles q peer' hq.2
      rw [hread', hwrite']
      exact ⟨fun h ↦ hq.1 (congrArg PeerUid.ofNat h), fun h ↦ hq.1 (congrArg PeerUid.ofNat h)⟩
    refine Handled.trans ?_ (Handled.trans (shutdownActors _ ?_ ?_) (emit _ _))
    · refine of_streams id (fun i _ h ↦ h.imp id fun h q peer' hq ↦ ?_) rfl rfl rfl
      exact h q peer' (HashMap.get?_remove_eq_some_iff.1 hq).2
    · rw [hread]
      exact hremove _ rfl
    · rw [hwrite]
      exact hremove _ rfl

/-- The drops go on until the broker panics. -/
theorem dropPeers (s : State M) (hn : s.registry.Numbered) (l : List (PeerUid × DisconnectReason)) :
    Handled s (Server.dropPeers s l) := by
  induction l generalizing s with
  | nil => exact refl s
  | cons x rest ih =>
    obtain ⟨p, reason⟩ := x
    have hdrop := dropPeer s hn p reason
    simp only [Server.dropPeers]
    split
    · exact hdrop
    · refine hdrop.trans (ih _ ?_)
      rw [State.registry_dropPeer]
      exact hn.dropPeer p reason

/-- The broker goes through the top of its loop. -/
theorem loopTop (hphase : s.phase = .top) (hn : s.registry.Numbered) :
    Handled s (Server.loopTop s) := by
  unfold Server.loopTop
  split
  · exact panic s _
  · have hnot := State.not_panicked_of_top hphase
    have hwait : Handled s { s with peersToDrop := [], phase := .waiting } :=
      of_eq (fun hp ↦ absurd hp hnot) rfl rfl rfl rfl
    refine hwait.trans (dropPeers _ ?_ _)
    exact hn

theorem announceTcp (s : State M) (order : List PeerUid) (msg : TcpFromServer M) :
    Handled s (Server.announceTcp s order msg) := by
  unfold Server.announceTcp
  induction order generalizing s with
  | nil => exact refl s
  | cons p order ih =>
    rw [List.foldl_cons]
    split
    · exact (sendTcp s _ msg).trans (ih _)
    · exact ih s

/-- The UDP writer is used. -/
theorem useUdpWriter {w : WriteActor (UdpFromServer M × SocketAddr)}
    (h : s.udpWriteActor.Used w) : Handled s { s with udpWriteActor := w } where
  panicked := id
  released _ _ := id
  old c conn hconn := ⟨conn, hconn, .refl⟩
  new c conn' hc hconn' := by
    obtain ⟨hlt, -⟩ := List.getElem?_eq_some_iff.1 hconn'
    exact absurd hlt (Nat.not_lt_of_le hc)
  udpReader _ := rfl
  udpWriter _ := h

theorem handleActorMessage (s : State M) (msg : Message M) (order : List PeerUid)
    (schedule : List (List WriteActor.Step)) :
    Handled s (Server.handleActorMessage s msg order schedule) := by
  cases msg with
  | toPeerTcp p msg =>
    simp only [Server.handleActorMessage]
    split
    · exact sendTcp s _ _
    · exact refl s
  | toPeerUdp p msg =>
    simp only [Server.handleActorMessage]
    repeat' split
    · exact sendUdp s _ _
    · exact refl s
    · exact refl s
  | announceTcp msg => exact announceTcp s order _
  | announceUdp msg => exact useUdpWriter (WriteActor.used_feedAndFlush _ _ _)
  | getNumberOfConnectedPeers tx => exact of_eq id rfl rfl rfl rfl

/-- A connection is taken up, and held by a record under the next uid. -/
theorem register {peer : Peer}
    (hread : peer.tcpReadActorHandle.connection = s.streams.length)
    (hwrite : peer.tcpWriteActorHandle.connection = s.streams.length) {conn : Connection M}
    {p : PeerUid} (htouch : ∀ released, (Connection.spawn p).Touch released conn)
    (hphase : s'.phase = s.phase) (hpeers : s'.peers = s.peers.insert s.nextPeerUid peer)
    (hstreams : s'.streams = s.streams ++ [conn]) (hreader : s'.udpReadActor = s.udpReadActor)
    (hwriter : s'.udpWriteActor = s.udpWriteActor) : Handled s s' where
  panicked := by
    unfold State.Panicked
    rw [hphase]
    exact id
  released c hc h := by
    unfold State.Released State.Panicked at h ⊢
    rw [hphase, hpeers]
    refine h.imp id fun h q peer' hq ↦ ?_
    rw [HashMap.get?_insert] at hq
    split at hq
    · obtain rfl := Option.some.inj hq
      omega
    · exact h q peer' hq
  old c conn' hconn := by
    obtain ⟨hlt, -⟩ := List.getElem?_eq_some_iff.1 hconn
    exact ⟨conn', by rw [hstreams, List.getElem?_append_left hlt, hconn], .refl⟩
  new c conn' hc hconn := by
    rw [hstreams, List.getElem?_append_right hc] at hconn
    obtain rfl := List.mem_singleton.1 (List.mem_of_getElem? hconn)
    exact ⟨p, htouch _⟩
  udpReader _ := hreader
  udpWriter _ := hwriter ▸ .refl _

/-- A record that is replaced loses its handles. -/
theorem insertPeer {s₀ : State M} {p : PeerUid} {peer : Peer}
    (h : Handled s₀ { s with peers := s.peers.insert p peer })
    (hreplaced : ∀ replaced, s.peers.get? p = some replaced →
      ({ s with peers := s.peers.insert p peer } : State M).Released
          replaced.tcpReadActorHandle.connection ∧
        ({ s with peers := s.peers.insert p peer } : State M).Released
          replaced.tcpWriteActorHandle.connection) : Handled s₀ (s.insertPeer p peer) := by
  unfold State.insertPeer
  dsimp only
  split
  · rename_i replaced hget
    exact h.trans (dropHandles _ (hreplaced replaced hget).1 (hreplaced replaced hget).2)
  · exact h

theorem handleNewTcpConnection (s : State M) (hn : s.registry.Numbered) (tcpStream : TcpStream)
    (newV4 : Uuid) : Handled s (Server.handleNewTcpConnection s tcpStream newV4) := by
  unfold Server.handleNewTcpConnection
  split
  · exact panic s _
  · rename_i addr _
    split
    · exact refl s
    · dsimp only
      split
      · exact panic s _
      · refine (insertPeer ?_ fun replaced hget ↦ ?_).trans (emit _ _)
        · have htouch : ∀ released, (Connection.spawn s.nextPeerUid).Touch released
              { (Connection.spawn s.nextPeerUid : Connection M) with
                writer := (Connection.spawn s.nextPeerUid).writer.offer (.send (.welcome newV4)) } :=
            fun _ ↦ Connection.Touch.refl.send (.welcome newV4)
          have hread : (s.newPeer addr newV4).tcpReadActorHandle.connection = s.streams.length := rfl
          refine register hread rfl htouch rfl rfl ?_ rfl rfl
          show (s.streams ++ [Connection.spawn s.nextPeerUid]).modify s.streams.length _ = _
          rw [List.modify_length_append_singleton, WriteActor.logged_send]
        · -- the replaced record is of another connection than the new one
          obtain ⟨c, hc, hp, hread, hwrite⟩ := hn.handles _ replaced hget
          rw [State.length_connections] at hc
          rw [hread, hwrite]
          refine and_self_iff.2 (Or.inr fun q peer' hq ↦ ?_)
          rcases HashMap.get?_insert_eq_some_iff.1 hq with ⟨rfl, rfl⟩ | ⟨hne, hq⟩
          · exact ⟨(Nat.ne_of_gt hc), (Nat.ne_of_gt hc)⟩
          · obtain ⟨m, -, rfl, hread', hwrite'⟩ := hn.handles q peer' hq
            rw [hread', hwrite']
            have hmc : m ≠ c := fun h ↦ hne (h ▸ hp.symm)
            exact ⟨hmc, hmc⟩

theorem handleUdpReaderStreamItem (s : State M) (message : UdpToServer M) (addr : SocketAddr) :
    Handled s (Server.handleUdpReaderStreamItem s message addr) := by
  unfold Server.handleUdpReaderStreamItem
  split
  · split
    · exact refl s
    · split
      · exact refl s
      · rename_i p _ peer hp
        refine Handled.trans ?_ ((sendTcp _ _ _).trans (sendUdp _ _ _))
        refine of_streams id (fun c _ h ↦ h.imp id fun h q peer' hq ↦ ?_) rfl rfl rfl
        rcases HashMap.get?_insert_eq_some_iff.1 hq with ⟨rfl, rfl⟩ | ⟨-, hq⟩
        · exact h q peer hp
        · exact h q peer' hq
  · split
    · exact refl s
    · exact emit s _

theorem scheduleDrop (s : State M) (p : PeerUid) (reason : DisconnectReason) :
    Handled s (s.scheduleDrop p reason) :=
  of_eq id rfl rfl rfl rfl

theorem handleEndOfStream (s : State M) (kind : IncomingKind) :
    Handled s (Server.handleEndOfStream s kind) := by
  have hassert : ∀ p : PeerUid, Handled s (s.assertNotConnected p) := by
    intro p
    unfold State.assertNotConnected
    split
    · exact panic s _
    · exact refl s
  unfold Server.handleEndOfStream
  repeat' split
  all_goals first
    | exact refl s
    | exact panic s _
    | exact scheduleDrop s _ _
    | exact hassert _

/-- **What the handling of an item does** to the IO actors. -/
theorem handleIncoming (s : State M) (hn : s.registry.Numbered) (incoming : Incoming M)
    (choice : Choice) : Handled s (Server.handleIncoming s incoming choice) := by
  unfold Server.handleIncoming
  split
  · exact handleActorMessage s _ _ _
  · exact refl s
  · exact handleNewTcpConnection s hn _ _
  · exact emit s _
  · exact scheduleDrop s _ _
  · exact handleUdpReaderStreamItem s _ _
  · split
    · exact scheduleDrop s _ _
    · exact refl s
  · exact useUdpWriter (WriteActor.used_feedAndFlush _ _ _)
  · exact handleEndOfStream s _

end Handled

/-! ### What a step does -/

/-- A step that a connection takes by itself. -/
inductive Connection.Moves (c : ℕ) (conn : Connection M) : Action M → Connection M → Prop
  | reader {st : ReadActor.Step} {reader : ReadActor 64 (Except TcpError (TcpToServer M))}
      (h : conn.reader.step st = some reader) :
      Moves c conn (.task (.tcpReader c st)) { conn with reader := reader }
  | writer {st : WriteActor.Step} {writer : WriteActor (TcpFromServer M)}
      (h : conn.writer.step st = some writer) :
      Moves c conn (.task (.tcpWriter c st)) { conn with writer := writer }
  | frame {frame : Except TcpError (TcpToServer M)}
      (h : conn.reader.stream.senderAlive = true) :
      Moves c conn (.env (.tcpFrame c frame)) { conn with reader := conn.reader.arrive frame }
  | ends : Moves c conn (.env (.tcpEnd c)) { conn with reader := conn.reader.endStream }

namespace State

variable {s s' : State M}

theorem updateConnection_eq_some_iff {c : ℕ} {f : Connection M → Option (Connection M)} :
    s.updateConnection c f = some s' ↔ ∃ conn conn', s.streams[c]? = some conn ∧
      f conn = some conn' ∧ s' = s.modifyConnection c fun _ ↦ conn' := by
  unfold updateConnection
  split
  · rename_i h
    simp [h]
  · rename_i conn h
    simp only [h, Option.map_eq_some_iff, Option.some.injEq, exists_and_left, exists_eq_left']
    exact exists_congr fun conn' ↦ and_congr_right fun _ ↦ eq_comm

/-- **Inversion**: the action, and the state after it. -/
theorem step_cases {a : Action M} (h : s.step a = some s') :
    (a = .loopTop ∧ s.phase = .top ∧ s' = Server.loopTop s) ∨
    (∃ source choice incoming t, a = .next source choice ∧ s.phase = .waiting ∧
      s.nextIncoming source = some (incoming, t) ∧
      s' = handleIncoming { t with phase := .top } incoming choice) ∨
    (∃ c conn conn', s.streams[c]? = some conn ∧ conn.Moves c a conn' ∧
      s' = s.modifyConnection c fun _ ↦ conn') ∨
    (∃ st reader, a = .task (.udpReader st) ∧ s.udpReadActor.step st = some reader ∧
      s' = { s with udpReadActor := reader }) ∨
    (∃ st writer, a = .task (.udpWriter st) ∧ s.udpWriteActor.step st = some writer ∧
      s' = { s with udpWriteActor := writer }) ∨
    (∃ x, a = .env (.datagram x.1 x.2) ∧
      s' = { s with udpReadActor := s.udpReadActor.arrive x }) ∨
    (∃ e ch sender, a = .env e ∧ sender.sent = s.eventSender.sent ∧
      s' = { s with msgReceiver := ch, eventSender := sender }) := by
  cases a with
  | loopTop =>
    exact Or.inl ⟨rfl, eq_loopTop_of_step h⟩
  | next source choice =>
    obtain ⟨hphase, -, incoming, t, hr, rfl⟩ := exists_taken_of_next h
    exact Or.inr (Or.inl ⟨source, choice, incoming, t, rfl, hphase, hr, rfl⟩)
  | task task =>
    cases task with
    | tcpReader c st =>
      obtain ⟨conn, conn', hconn, hstep, rfl⟩ := updateConnection_eq_some_iff.1 h
      obtain ⟨reader, hreader, rfl⟩ := Option.map_eq_some_iff.1 hstep
      exact Or.inr (Or.inr (Or.inl ⟨c, conn, _, hconn, .reader hreader, rfl⟩))
    | tcpWriter c st =>
      obtain ⟨conn, conn', hconn, hstep, rfl⟩ := updateConnection_eq_some_iff.1 h
      obtain ⟨writer, hwriter, rfl⟩ := Option.map_eq_some_iff.1 hstep
      exact Or.inr (Or.inr (Or.inl ⟨c, conn, _, hconn, .writer hwriter, rfl⟩))
    | udpReader st =>
      obtain ⟨reader, hreader, rfl⟩ := Option.map_eq_some_iff.1 h
      exact Or.inr (Or.inr (Or.inr (Or.inl ⟨st, reader, rfl, hreader, rfl⟩)))
    | udpWriter st =>
      obtain ⟨writer, hwriter, rfl⟩ := Option.map_eq_some_iff.1 h
      exact Or.inr (Or.inr (Or.inr (Or.inr (Or.inl ⟨st, writer, rfl, hwriter, rfl⟩))))
  | env env =>
    cases env with
    | tcpFrame c frame =>
      obtain ⟨conn, conn', hconn, hstep, rfl⟩ := updateConnection_eq_some_iff.1 h
      split at hstep
      · rename_i halive
        obtain rfl := Option.some.inj hstep
        exact Or.inr (Or.inr (Or.inl ⟨c, conn, _, hconn, .frame halive, rfl⟩))
      · cases hstep
    | tcpEnd c =>
      obtain ⟨conn, conn', hconn, hstep, rfl⟩ := updateConnection_eq_some_iff.1 h
      obtain rfl := Option.some.inj hstep
      exact Or.inr (Or.inr (Or.inl ⟨c, conn, _, hconn, .ends, rfl⟩))
    | datagram message addr =>
      exact Or.inr (Or.inr (Or.inr (Or.inr (Or.inr (Or.inl
        ⟨(message, addr), rfl, (Option.some.inj h).symm⟩)))))
    | command msg =>
      simp only [step, envStep] at h
      split at h
      · exact Or.inr (Or.inr (Or.inr (Or.inr (Or.inr (Or.inr
          ⟨_, _, _, rfl, rfl, (Option.some.inj h).symm⟩)))))
      · cases h
    | dropHandles =>
      exact Or.inr (Or.inr (Or.inr (Or.inr (Or.inr (Or.inr
        ⟨_, s.msgReceiver.dropSender, s.eventSender, rfl, rfl, (Option.some.inj h).symm⟩)))))
    | closeEvents =>
      exact Or.inr (Or.inr (Or.inr (Or.inr (Or.inr (Or.inr
        ⟨_, s.msgReceiver, s.eventSender.closeReceiver, rfl, rfl, (Option.some.inj h).symm⟩)))))

end State

/-- There is no way back from a panic. -/
theorem State.not_panicked_of_step {s s' : State M} {a : Action M} (hs : s.step a = some s')
    (hnot : ¬ s'.Panicked) : ¬ s.Panicked := by
  rintro ⟨site, hp⟩
  rcases State.step_cases hs with ⟨-, hphase, -⟩ | ⟨_, _, _, _, -, hphase, -⟩ |
    ⟨_, _, _, -, -, rfl⟩ | ⟨_, _, -, -, rfl⟩ | ⟨_, _, -, -, rfl⟩ | ⟨_, -, rfl⟩ | ⟨_, _, _, -, -, rfl⟩
  · cases hphase.symm.trans hp
  · cases hphase.symm.trans hp
  all_goals exact hnot ⟨site, hp⟩

/-- What taking an item does to a connection. -/
inductive Connection.TakenFrom (conn : Connection M) : Incoming M → Connection M → Prop
  | other (incoming : Incoming M) : TakenFrom conn incoming conn
  | item {event : ReadActorEvent (Except TcpError (TcpToServer M))} {ch : Channel (some 64) _}
      (h : conn.reader.tx.recv = some (event, ch)) :
      TakenFrom conn (.tcpReader event conn.peerUid)
        { conn with reader := { conn.reader with tx := ch } }
  | readerEnd {reason : ActorShutdown ReadActorShutdownReason}
      (h : conn.reader.phase = .finished reason) :
      TakenFrom conn (.endOfStream (.tcpReader conn.peerUid reason)) { conn with readerEnded := true }
  | writerEnd {reason : ActorShutdown WriteActorShutdownReason}
      (h : conn.writer.phase = .finished reason) :
      TakenFrom conn (.endOfStream (.tcpWriter conn.peerUid reason)) { conn with writerEnded := true }

/-- The connections after an item is taken. -/
theorem State.Taken.connection {s t : State M} {incoming : Incoming M} (ht : s.Taken incoming t)
    {c : ℕ} {conn' : Connection M} (hc : t.streams[c]? = some conn') :
    ∃ conn, s.streams[c]? = some conn ∧ conn.TakenFrom incoming conn' := by
  have hmodify : ∀ {i : ℕ} {old : Connection M} {f : Connection M → Connection M},
      s.streams[i]? = some old → (s.modifyConnection i f).streams[c]? = some conn' →
      old.TakenFrom incoming (f old) →
      ∃ conn, s.streams[c]? = some conn ∧ conn.TakenFrom incoming conn' := by
    intro i old f hold hc htaken
    obtain ⟨conn, hconn, ⟨rfl, rfl⟩ | ⟨-, rfl⟩⟩ := State.exists_of_modifyConnection hc
    · obtain rfl := Option.some.inj (hold.symm.trans hconn)
      exact ⟨old, hold, htaken⟩
    · exact ⟨conn', hconn, .other incoming⟩
  cases ht with
  | tcpReader hconn h => exact hmodify hconn hc (.item h)
  | tcpReaderEnd hconn h => exact hmodify hconn hc (.readerEnd h)
  | tcpWriterEnd hconn h => exact hmodify hconn hc (.writerEnd h)
  | _ => exact ⟨conn', hc, .other _⟩

/-- What a step does to a connection: the broker may take from it and then handle it, or it moves by
itself. -/
inductive Connection.Steps (released : Prop) (c : ℕ) (a : Action M) (taken : Option (Incoming M))
    (conn : Connection M) : Connection M → Prop
  | touched {conn' : Connection M} (h : conn.Touch released conn') :
      Steps released c a taken conn conn'
  | taken {incoming : Incoming M} {mid conn' : Connection M} (hi : taken = some incoming)
      (ht : conn.TakenFrom incoming mid) (h : mid.Touch released conn') :
      Steps released c a taken conn conn'
  | moves {conn' : Connection M} (h : conn.Moves c a conn') : Steps released c a taken conn conn'

/-- **A step, for one connection** that exists. -/
theorem State.exists_connection_of_step {s s' : State M} (hn : s.registry.Numbered) {a : Action M}
    (hs : s.step a = some s') {c : ℕ} (hc : c < s.streams.length) {conn' : Connection M}
    (hconn' : s'.streams[c]? = some conn') : ∃ conn, s.streams[c]? = some conn ∧
      conn.Steps (s'.Released c) c a (s.incoming? a) conn' := by
  have hsame : ∀ {conn : Connection M}, s.streams[c]? = some conn → conn' = conn →
      ∃ conn, s.streams[c]? = some conn ∧
        conn.Steps (s'.Released c) c a (s.incoming? a) conn' := by
    rintro conn hconn rfl
    exact ⟨conn', hconn, .touched .refl⟩
  rcases step_cases hs with ⟨rfl, hphase, rfl⟩ | ⟨source, choice, incoming, t, rfl, -, hr, rfl⟩ |
    ⟨i, old, new, hold, hmoves, rfl⟩ | ⟨st, reader, -, -, rfl⟩ | ⟨st, writer, -, -, rfl⟩ |
    ⟨x, -, rfl⟩ | ⟨e, ch, sender, -, -, rfl⟩
  · have hconn := List.getElem?_eq_getElem hc
    obtain ⟨conn'', hconn'', htouch⟩ := (Handled.loopTop hphase hn).old c _ hconn
    obtain rfl := Option.some.inj (hconn''.symm.trans hconn')
    exact ⟨_, hconn, .touched htouch⟩
  · have ht := taken_of_nextIncoming hr
    have hlen : t.streams.length = s.streams.length := by
      rw [← length_connections, ← length_connections, registry_taken ht]
    have hnt : ({ t with phase := .top } : State M).registry.Numbered := by
      show t.registry.Numbered
      rwa [registry_taken ht]
    have hlt : c < t.streams.length := hlen ▸ hc
    have hmid : t.streams[c]? = some t.streams[c] := List.getElem?_eq_getElem hlt
    obtain ⟨conn, hconn, htaken⟩ := ht.connection hmid
    obtain ⟨conn'', hconn'', htouch⟩ :=
      (Handled.handleIncoming { t with phase := .top } hnt incoming choice).old c _ hmid
    obtain rfl := Option.some.inj (hconn''.symm.trans hconn')
    exact ⟨conn, hconn, .taken (by rw [incoming?, hr, Option.map_some]) htaken htouch⟩
  · obtain ⟨conn, hconn, ⟨rfl, rfl⟩ | ⟨-, rfl⟩⟩ := exists_of_modifyConnection hconn'
    · obtain rfl := Option.some.inj (hold.symm.trans hconn)
      exact ⟨old, hconn, .moves hmoves⟩
    · exact hsame hconn rfl
  all_goals exact hsame hconn' rfl

/-- **A step, for a connection** that it creates. -/
theorem State.exists_spawn_of_step {s s' : State M} (hn : s.registry.Numbered) {a : Action M}
    (hs : s.step a = some s') {c : ℕ} (hc : s.streams.length ≤ c) {conn' : Connection M}
    (hconn' : s'.streams[c]? = some conn') :
    ∃ p, (Connection.spawn p).Touch (s'.Released c) conn' := by
  obtain ⟨hlt, -⟩ := List.getElem?_eq_some_iff.1 hconn'
  rcases step_cases hs with ⟨-, hphase, rfl⟩ | ⟨source, choice, incoming, t, -, -, hr, rfl⟩ |
    ⟨i, old, new, -, -, rfl⟩ | ⟨st, reader, -, -, rfl⟩ | ⟨st, writer, -, -, rfl⟩ |
    ⟨x, -, rfl⟩ | ⟨e, ch, sender, -, -, rfl⟩
  · exact (Handled.loopTop hphase hn).new c conn' hc hconn'
  · have hreg := registry_taken (taken_of_nextIncoming hr)
    have hlen : t.streams.length = s.streams.length := by
      rw [← length_connections, ← length_connections, hreg]
    refine (Handled.handleIncoming { t with phase := .top } ?_ incoming choice).new c conn' ?_ hconn'
    · show t.registry.Numbered
      rwa [hreg]
    · show t.streams.length ≤ c
      omega
  · simp only [modifyConnection, List.length_modify] at hlt
    omega
  all_goals exact absurd hlt (Nat.not_lt_of_le hc)

/-- **The induction over a run, for its connections.** What holds of a connection as the broker
leaves it when it accepts it, and is kept by every step of a connection, holds of all. -/
theorem Run.connection_induction {I : List (State M × Action M) → ℕ → Connection M → Prop}
    (hspawn : ∀ hist c p released (conn : Connection M),
      (Connection.spawn p).Touch released conn → I hist c conn)
    (hstep : ∀ hist (s : State M) a c conn conn' released, I hist c conn →
      s.streams[c]? = some conn → conn.Steps released c a (s.incoming? a) conn' →
      I (hist ++ [(s, a)]) c conn')
    {hist : List (State M × Action M)} {s : State M} (h : Run hist s) {c : ℕ}
    {conn : Connection M} (hconn : s.streams[c]? = some conn) : I hist c conn := by
  induction h generalizing conn with
  | start h =>
    obtain ⟨profile, config, rfl⟩ := h
    cases hconn
  | @next hist s s' a h hs ih =>
    rcases Nat.lt_or_ge c s.streams.length with hlt | hge
    · obtain ⟨old, hold, hsteps⟩ :=
        State.exists_connection_of_step (Run.numbered h) hs hlt hconn
      exact hstep hist s a c old conn _ (ih hold) hold hsteps
    · obtain ⟨p, htouch⟩ := State.exists_spawn_of_step (Run.numbered h) hs hge hconn
      exact hspawn _ c p _ conn htouch

/-- What the sink of a connection was handed is not taken back. -/
theorem Connection.Steps.handed_isPrefix {released : Prop} {c : ℕ} {a : Action M}
    {taken : Option (Incoming M)} {conn conn' : Connection M}
    (h : conn.Steps released c a taken conn') :
    conn.writer.sink.handed <+: conn'.writer.sink.handed := by
  have htouch : ∀ {conn conn' : Connection M}, conn.Touch released conn' →
      conn'.writer.sink = conn.writer.sink := by
    intro conn conn' h
    induction h with
    | refl => rfl
    | send _ msg ih => exact ih
    | shutdownReader _ _ ih | shutdownWriter _ _ ih | dropReader _ _ ih | dropWriter _ _ ih
    | closeReader _ _ ih => exact ih
  cases h with
  | touched h => exact htouch h ▸ List.prefix_rfl
  | @taken incoming mid _ hi ht h =>
    rw [htouch h]
    cases ht <;> exact List.prefix_rfl
  | moves h =>
    cases h with
    | writer hstep => exact WriteActor.handed_isPrefix_of_step hstep
    | reader _ | frame _ | ends => exact List.prefix_rfl

end Server

end NetStream
