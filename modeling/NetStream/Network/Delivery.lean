import NetStream.Network.Link

/-!
# Delivery over TCP, end to end

A message of the client goes through the commands of its actor, the commands of its write actor and
the connection to the read actor at the server, and through the channel of that actor to the broker,
which emits it as an event. Each part keeps the order: the client's by `Client.Run.forwarding`, the
connection's by `Run.carried`, the server's by `Server.Run.readPipeline`. So the messages from the
peer are at every moment an initial part of those that were accepted from the client's handles.

They are all of them if the client has ended because its last handle was dropped and the server has
read to the end of the stream: the actor forwards every command before it takes the end of them, the
write actor sends everything before it leaves its loop, the stream ends after everything sent, and
the end of the reader comes after everything read.
-/

namespace NetStream

variable {M : MessageTypes}

/-- The messages that have been decoded of what was read from a connection. -/
def Server.Connection.decoded (conn : Server.Connection M) : List (TcpToServer M) :=
  conn.reader.stream.sent.filterMap Except.toOption

/-- The messages of the application among them. -/
theorem Server.Connection.filterMap_applicationMessage? {conn : Server.Connection M}
    {l : List M.TcpToServer} (h : conn.decoded = l.map .applicationLogic) :
    conn.reader.stream.sent.filterMap Server.applicationMessage? = l := by
  have hframe : ∀ frame : Except TcpError (TcpToServer M), Server.applicationMessage? frame =
      frame.toOption.bind fun msg ↦ Server.applicationMessage? (.ok msg) := by
    rintro (_ | _) <;> rfl
  calc conn.reader.stream.sent.filterMap Server.applicationMessage?
    _ = conn.decoded.filterMap fun msg ↦ Server.applicationMessage? (.ok msg) := by
        rw [decoded, List.filterMap_filterMap]
        exact List.filterMap_congr fun frame _ ↦ hframe frame
    _ = l := by
        rw [h, List.filterMap_map]
        exact List.filterMap_some

namespace Network.Link

/-! ### What the connection carries -/

/-- **The connection carries what the client sends.** With `holds`, the sink of the client has not
failed. -/
structure Carries (holds : Prop) (client : Client.State M) (conn : Server.Connection M) : Prop where
  /-- The messages that arrived were sent in this order. -/
  inOrder : conn.decoded <+: WriteActor.items client.tcpWriteActor.actorMsg.taken
  /-- Nothing but messages arrives before a failure. -/
  whole : conn.readFailed = false → conn.reader.stream.sent = conn.decoded.map .ok
  /-- Without a failure the stream ends after everything that the write actor was told to send. -/
  ended : holds → conn.reader.stream.senderAlive = false → conn.readFailed = false →
    client.tcpWriteActor.actorMsg.senderAlive = false ∧
      conn.decoded = WriteActor.items client.tcpWriteActor.actorMsg.sent

namespace Carries

variable {holds holds' : Prop} {client client' : Client.State M} {conn conn' : Server.Connection M}

/-- Nothing has been read from a new connection. -/
theorem of_new (hsent : conn.reader.stream.sent = [])
    (halive : conn.reader.stream.senderAlive = true) : Carries holds client conn where
  inOrder := by
    rw [Server.Connection.decoded, hsent]
    exact List.nil_prefix
  whole _ := by
    rw [Server.Connection.decoded, hsent]
    rfl
  ended _ hended := absurd (halive.symm.trans hended) Bool.noConfusion

theorem of_imp (h : Carries holds client conn) (himp : holds' → holds) :
    Carries holds' client conn :=
  ⟨h.inOrder, h.whole, fun hholds ↦ h.ended (himp hholds)⟩

/-- The connection's stream does not change. -/
theorem same (h : Carries holds client conn)
    (hsent : conn'.reader.stream.sent = conn.reader.stream.sent)
    (halive : conn'.reader.stream.senderAlive = conn.reader.stream.senderAlive) :
    Carries holds client conn' := by
  obtain ⟨hinOrder, hwhole, hended⟩ := h
  unfold Server.Connection.readFailed Server.Connection.decoded at hwhole hended
  refine ⟨?_, ?_, ?_⟩
  · rwa [Server.Connection.decoded, hsent]
  · rwa [Server.Connection.readFailed, Server.Connection.decoded, hsent]
  · rwa [Server.Connection.readFailed, Server.Connection.decoded, hsent, halive]

/-- The client takes a step. -/
theorem step (h : Carries holds client conn) {accepted : List M.TcpToServer}
    (hf : client.Forwarding accepted) {a : Client.Action M} (hs : client.step a = some client') :
    Carries holds client' conn where
  inOrder := by
    obtain ⟨more, hmore⟩ := Client.State.taken_isPrefix_of_step hs
    rw [← hmore, WriteActor.items_append]
    exact h.inOrder.trans (List.prefix_append _ _)
  whole := h.whole
  ended hholds halive hfailed := by
    obtain ⟨hdropped, hall⟩ := h.ended hholds halive hfailed
    obtain ⟨hdropped', hsent⟩ := hf.dropped hdropped hs
    exact ⟨hdropped', hsent ▸ hall⟩

/-- The next message arrives. -/
theorem message (h : Carries holds client conn) {msg : TcpToServer M}
    (hfailed : conn.readFailed = false) (halive : conn.reader.stream.senderAlive = true)
    (hmsg : (WriteActor.items client.tcpWriteActor.actorMsg.taken)[
      conn.reader.stream.sent.length]? = some msg)
    (hsent : conn'.reader.stream.sent = conn.reader.stream.sent ++ [.ok msg])
    (halive' : conn'.reader.stream.senderAlive = conn.reader.stream.senderAlive) :
    Carries holds client conn' := by
  have hdecoded : conn'.decoded = conn.decoded ++ [msg] := by
    rw [Server.Connection.decoded, hsent, List.filterMap_append]
    rfl
  have hlength : conn.reader.stream.sent.length = conn.decoded.length := by
    rw [h.whole hfailed, List.length_map]
  rw [hlength] at hmsg
  obtain ⟨hlt, rfl⟩ := List.getElem?_eq_some_iff.1 hmsg
  refine ⟨?_, fun _ ↦ ?_, fun _ hended ↦ ?_⟩
  · rw [hdecoded]
    exact List.concat_get_prefix h.inOrder hlt
  · rw [hsent, hdecoded, List.map_append, ← h.whole hfailed]
    rfl
  · exact absurd ((halive'.trans halive).symm.trans hended) Bool.noConfusion

/-- The connection fails. -/
theorem failure (h : Carries holds client conn)
    (hsent : conn'.reader.stream.sent = conn.reader.stream.sent ++ [.error .io]) :
    Carries holds client conn' := by
  have hfailed : conn'.readFailed = true := by
    rw [Server.Connection.readFailed_iff, hsent]
    exact List.mem_append_right _ (List.mem_singleton_self _)
  refine ⟨?_, fun hclean ↦ ?_, fun _ _ hclean ↦ ?_⟩
  · rw [Server.Connection.decoded, hsent, List.filterMap_append]
    exact (List.append_nil conn.decoded).symm ▸ h.inOrder
  · exact absurd (hfailed.symm.trans hclean) Bool.noConfusion
  · exact absurd (hfailed.symm.trans hclean) Bool.noConfusion

/-- The end of the stream arrives: of one that had failed, or of one that the client shut down. -/
theorem closed (h : Carries holds client conn)
    (hflushes : holds → client.tcpWriteActor.Flushes)
    (hend : conn.readFailed = true ∨ client.tcpWriteActor.isOver = true ∧
      client.tcpWriteActor.sink.flushed ≤ conn.reader.stream.sent.length)
    (hsent : conn'.reader.stream.sent = conn.reader.stream.sent) : Carries holds client conn' := by
  have hdecoded : conn'.decoded = conn.decoded := by
    rw [Server.Connection.decoded, hsent, Server.Connection.decoded]
  have hsame : conn'.readFailed = conn.readFailed := by
    rw [Server.Connection.readFailed, hsent, Server.Connection.readFailed]
  refine ⟨hdecoded ▸ h.inOrder, ?_, fun hholds _ hfailed ↦ ?_⟩
  · rw [hsame, hsent, hdecoded]
    exact h.whole
  · rw [hsame] at hfailed
    rcases hend with hend | ⟨hover, hflushed⟩
    · exact absurd (hend.symm.trans hfailed) Bool.noConfusion
    · -- all that was queued is flushed, and all that is flushed has arrived
      have hf := hflushes hholds
      obtain ⟨hdropped, hhanded⟩ := hf.ended hover
      refine ⟨hdropped, hdecoded.trans ?_⟩
      have hprefix : conn.decoded <+: WriteActor.items client.tcpWriteActor.actorMsg.sent := by
        refine h.inOrder.trans ?_
        rw [← client.tcpWriteActor.actorMsg.taken_append_queue, WriteActor.items_append]
        exact List.prefix_append _ _
      have hlength : conn.reader.stream.sent.length = conn.decoded.length := by
        rw [h.whole hfailed, List.length_map]
      refine hprefix.eq_of_length_le ?_
      rw [← hhanded, ← hf.flushed, ← hlength]
      exact hflushed

end Carries

variable {hist : List (State M × Action M)} {s : State M}

theorem clientHist_append_singleton (hist : List (State M × Action M)) (s : State M)
    (a : Action M) : clientHist (hist ++ [(s, a)]) =
      clientHist hist ++ ((s.clientAction a).map fun b ↦ (s.client, b)).toList :=
  TransitionSystem.projectHist_append_singleton hist s a

/-- What holds of the sink so far held before. -/
theorem sinkHolds_of_append {a : Action M}
    (h : Client.SinkHolds (clientHist (hist ++ [(s, a)]))) : Client.SinkHolds (clientHist hist) := by
  rw [clientHist_append_singleton] at h
  exact fun x hx ↦ h x (List.mem_append_left _ hx)

/-- **The client's connection carries what it sends**, in every run. -/
theorem Run.carries (h : Run hist s) {c : ℕ} (hc : s.connection = some c) :
    ∃ conn, s.server.streams[c]? = some conn ∧
      Carries (Client.SinkHolds (clientHist hist)) s.client conn := by
  induction h with
  | start h =>
    obtain ⟨profile, config, rfl⟩ := h
    cases hc
  | @next hist s s' a h hs ih =>
    have hn := Server.Run.numbered (Run.server h)
    have hholds : Client.SinkHolds (clientHist (hist ++ [(s, a)])) →
        Client.SinkHolds (clientHist hist) := sinkHolds_of_append
    -- a step of the server, for a connection that is there
    have hstep : ∀ {b : Server.Action M} {server : Server.State M}, s.server.step b = some server →
        s.connection = some c → ∃ conn conn', s.server.streams[c]? = some conn ∧
          Carries (Client.SinkHolds (clientHist (hist ++ [(s, a)]))) s.client conn ∧
          server.streams[c]? = some conn' ∧
          conn.Steps (server.Released c) c b (s.server.incoming? b) conn' := by
      intro b server hb hc
      obtain ⟨conn, hconn, hcarries⟩ := ih hc
      have hlt : c < s.server.streams.length := (List.getElem?_eq_some_iff.1 hconn).1
      have hle := Server.State.length_streams_le_of_step hb
      have hconn' := List.getElem?_eq_getElem (Nat.lt_of_lt_of_le hlt hle)
      obtain ⟨old, hold, hsteps⟩ := Server.State.exists_connection_of_step hn hb hlt hconn'
      obtain rfl := Option.some.inj (hold.symm.trans hconn)
      exact ⟨old, _, hconn, hcarries.of_imp hholds, hconn', hsteps⟩
    rcases step_cases hs with ⟨b, server, rfl, helse, hb, rfl⟩ |
      ⟨peerAddr, choice, server, rfl, -, hb, rfl⟩ | ⟨b, client, rfl, hb, rfl⟩ |
      ⟨e, server, -, -, hreads, hb, rfl⟩
    · obtain ⟨conn, conn', -, hcarries, hconn', hsteps⟩ := hstep hb hc
      refine ⟨conn', hconn', ?_⟩
      rcases hsteps.stream with ⟨hsent, halive⟩ | ⟨frame, rfl, -⟩ | ⟨rfl, -⟩
      · exact hcarries.same hsent halive
      · exact absurd hc (connection_ne_of_isElsewhere (s := s) helse rfl)
      · exact absurd hc (connection_ne_of_isElsewhere (s := s) helse rfl)
    · -- the connection is new
      have hc : (if s.server.streams.length < server.streams.length then
          some s.server.streams.length else none) = some c := hc
      split at hc
      · rename_i hlt
        obtain rfl := Option.some.inj hc
        have hconn := List.getElem?_eq_getElem hlt
        obtain ⟨p, htouch⟩ := Server.State.exists_spawn_of_step hn hb (Nat.le_refl _) hconn
        have hstream := htouch.stream_phase.1
        exact ⟨_, hconn, .of_new (by rw [hstream]; rfl) (by rw [hstream]; rfl)⟩
      · cases hc
    · obtain ⟨conn, hconn, hcarries⟩ := ih hc
      exact ⟨conn, hconn, (hcarries.of_imp hholds).step (Run.client h).forwarding hb⟩
    · obtain ⟨conn, conn', hconn, hcarries, hconn', hsteps⟩ := hstep hb hc
      refine ⟨conn', hconn', ?_⟩
      obtain ⟨c', old, hc', hold, hread⟩ := reads?_cases hreads
      obtain rfl := Option.some.inj (hc'.symm.trans hc)
      obtain rfl := Option.some.inj (hold.symm.trans hconn)
      rcases hsteps.stream with ⟨hsent, halive⟩ | ⟨frame, heq, halive, hsent, halive'⟩ | ⟨heq, hsent⟩
      · exact hcarries.same hsent halive
      · obtain rfl := Server.Action.env.inj heq
        rcases hread with ⟨msg, hframe, hfailed, hmsg⟩ | ⟨hframe, -⟩ | ⟨hframe, -⟩
        · obtain ⟨-, rfl⟩ := Server.Env.tcpFrame.inj hframe
          exact hcarries.message hfailed halive hmsg hsent halive'
        · obtain ⟨-, rfl⟩ := Server.Env.tcpFrame.inj hframe
          exact hcarries.failure hsent
        · cases hframe
      · obtain rfl := Server.Action.env.inj heq
        rcases hread with ⟨msg, hframe, -⟩ | ⟨hframe, -⟩ | ⟨-, hend⟩
        · cases hframe
        · cases hframe
        · refine hcarries.closed (fun hC ↦ (Run.client h).flushes (hholds hC)) ?_ hsent
          refine hend.imp_right fun hshut ↦ ?_
          obtain ⟨hover, hflushed⟩ := Bool.and_eq_true_iff.1 hshut
          exact ⟨hover, of_decide_eq_true hflushed⟩

/-! ### The delivery -/

open Server (PeerUid tcpMessagesFrom)
open Client (acceptedTcp SinkHolds)

/-- The client has ended because its last handle was dropped. -/
def EndedByHandles (hist : List (Client.State M × Client.Action M)) : Prop :=
  ∃ t now, (t, .next .actorMessageEnd now) ∈ hist

/-- The server has read to the end of the stream of a peer before it dropped it. -/
def ReadToEnd (hist : List (Server.State M × Server.Action M)) (p : PeerUid) : Prop :=
  ∃ t a, (t, a) ∈ hist ∧
    t.incoming? a = some (.endOfStream (.tcpReader p (.controlled .endOfStream))) ∧
    p ∈ t.peers.keys

/-- **Delivery**: the messages over TCP from the client's peer, against those that were accepted from
its handles. -/
structure Delivery (hist : List (State M × Action M)) (s : State M) (p : PeerUid) : Prop where
  /-- They come without a gap, each once, in the order of acceptance. -/
  inOrder : tcpMessagesFrom p s.server.events <+: acceptedTcp (clientHist hist)
  /-- None is missing when both sides have come to their end. -/
  complete : EndedByHandles (clientHist hist) → SinkHolds (clientHist hist) →
    ReadToEnd (serverHist hist) p →
    tcpMessagesFrom p s.server.events = acceptedTcp (clientHist hist)

/-- The messages that arrived are an initial part of those accepted. -/
theorem Run.exists_decoded_eq (h : Run hist s) {holds : Prop} {conn : Server.Connection M}
    (hcarries : Carries holds s.client conn) :
    ∃ l, l <+: acceptedTcp (clientHist hist) ∧ conn.decoded = l.map .applicationLogic := by
  have htaken : WriteActor.items s.client.tcpWriteActor.actorMsg.taken <+:
      WriteActor.items s.client.tcpWriteActor.actorMsg.sent := by
    rw [← s.client.tcpWriteActor.actorMsg.taken_append_queue, WriteActor.items_append]
    exact List.prefix_append _ _
  exact List.prefix_map_iff.1
    ((hcarries.inOrder.trans htaken).trans (Run.client h).forwarding.items_isPrefix)

/-- **Messages are delivered**, in every run of the server and the client, if the client's uid has
been given to no other connection. -/
theorem Run.delivery (h : Run hist s) {c : ℕ} {conn : Server.Connection M}
    (hc : s.connection = some c) (hconn : s.server.streams[c]? = some conn)
    (hsole : s.server.SoleUid c) : Delivery hist s conn.peerUid := by
  obtain ⟨conn', hconn', hcarries⟩ := Run.carries h hc
  obtain rfl := Option.some.inj (hconn'.symm.trans hconn)
  have hpipe := Server.Run.readPipeline (Run.server h) hconn hsole
  obtain ⟨l, hl, hdecoded⟩ := Run.exists_decoded_eq h hcarries
  have hmessages := Server.Connection.filterMap_applicationMessage? hdecoded
  refine ⟨?_, fun hended hholds hread ↦ ?_⟩
  · obtain ⟨frames, hframes, hmsgs⟩ := hpipe.delivered
    have hsent : frames <+: conn'.reader.stream.sent := hframes.trans (List.take_prefix _ _)
    have hinitial := hsent.filterMap Server.applicationMessage?
    rw [← hmsgs, hmessages] at hinitial
    exact hinitial.trans hl
  · obtain ⟨t, now, hmem⟩ := hended
    obtain ⟨u, a, hmem', hi, hkey⟩ := hread
    obtain ⟨hist₁, hist₂, heq⟩ := List.append_of_mem hmem'
    obtain ⟨hstreamEnded, -, hall⟩ := hpipe.complete hist₁ hist₂ u a heq hi
    have huid := Server.State.peerUid_eq (Server.Run.numbered (Run.server h)) hconn
    rw [huid] at hi hkey
    have hclean := (Run.server h).readFailed_of_reported hconn hsole hmem' hi hkey
    obtain ⟨-, hwhole⟩ := hcarries.ended hholds hstreamEnded hclean
    have haccepted := (Run.client h).items_sent_eq hmem
    rw [← hwhole] at haccepted
    rw [hall]
    exact Server.Connection.filterMap_applicationMessage? haccepted

/-- The next message is sent, read, and handled by the broker, with these peers connected; the
connection is the first. -/
def Action.carry (peers : List ℕ) : List (Action M) :=
  List.map .client [.task (.tcpWriter .recv), .task (.tcpWriter (.operate true))] ++ .message ::
    List.map .server ([.task (.tcpReader 0 .item), .task (.tcpReader 0 .send),
      .task (.tcpReader 0 .flush)] ++ Server.Action.take (.tcpReader 0) peers)

/-- The client stops, the end of the stream is read, and the peer is dropped. -/
def Action.stop (peers : List ℕ) : List (Action M) :=
  List.map .client [.next .actorMessageEnd 0, .task (.tcpWriter .recv),
    .task (.tcpWriter (.close true))] ++ .ended ::
    List.map .server (.task (.tcpReader 0 .streamEnd) ::
      Server.Action.take (.tcpReaderEnd 0) peers ++ [.loopTop])

/-- Two handles send a message each while another peer sends one too; then the handles are dropped,
and the server reads to the end. -/
theorem Run.delivery_of_drained : ∃ hist, ∃ s : State Client.numberedMessages, Run hist s ∧
    s.server.events = [.newPeer ⟨.ofNat 0⟩, .newPeer ⟨.ofNat 1⟩, .tcpMessage ⟨.ofNat 0, (7 : ℕ)⟩,
      .tcpMessage ⟨.ofNat 1, (9 : ℕ)⟩, .tcpMessage ⟨.ofNat 0, (8 : ℕ)⟩,
      .peerDisconnect ⟨.ofNat 0, .peerClosedConnection⟩] ∧
    acceptedTcp (clientHist hist) = [(7 : ℕ), (8 : ℕ)] ∧ EndedByHandles (clientHist hist) ∧
    SinkHolds (clientHist hist) ∧ ReadToEnd (serverHist hist) (.ofNat 0) ∧
    Delivery hist s (.ofNat 0) := by
  have h : Run _ _ := TransitionSystem.run_of_exec (T := system Client.numberedMessages)
    (s := .start .dev ⟨2⟩) (l := [.server .loopTop, .accept (.ok (Server.address 1))
      ⟨Server.uuid 1, [], []⟩] ++ List.map .server (Server.Action.connect 2 2 [0]) ++
      List.map .client [.env (.cloneHandle 0), .env (.sendMessageTcp 0 (7 : ℕ)),
        .env (.sendMessageTcp 1 (8 : ℕ)), .next .actorMessage 0, .env (.dropHandle 0)] ++
      Action.carry [0, 1] ++ List.map .server (Server.Action.frame 1 (.ok (.applicationLogic (9 : ℕ))) ++
        Server.Action.take (.tcpReader 1) [0, 1]) ++
      List.map .client [.env (.dropHandle 1), .next .actorMessage 0] ++ Action.carry [0, 1] ++
      Action.stop [0, 1])
    ⟨.dev, ⟨2⟩, rfl⟩ rfl
  refine ⟨_, _, h, rfl, rfl, ?_, ?_, ?_, ?_⟩
  · exact ⟨_, 0, List.mem_of_getElem? (i := 11) rfl⟩
  · exact Client.sinkHolds_iff.2 rfl
  · exact ⟨_, _, List.mem_of_getElem? (i := 25) rfl, rfl, HashMap.mem_keys_of_get? rfl⟩
  · exact Run.delivery h rfl rfl ((Run.server h).soleUid (Or.inl rfl) (by decide))

/-! ### A client under the uid of another -/

/-- Before its connection is accepted, the client leaves the server alone. -/
theorem exists_run_of_server {hist : List (Server.State M × Server.Action M)} {s : Server.State M}
    (h : Server.Run hist s) :
    ∃ hist', Run hist' ⟨s, .start, false, none⟩ ∧ clientHist hist' = [] := by
  induction h with
  | start h =>
    obtain ⟨profile, config, rfl⟩ := h
    exact ⟨[], .start ⟨profile, config, rfl⟩, rfl⟩
  | @next hist s s' a _ hs ih =>
    obtain ⟨hist', h', hnone⟩ := ih
    have helse : State.isElsewhere ⟨s, .start, false, none⟩ a = true := by
      unfold State.isElsewhere
      split <;> rfl
    have hs : s.step a = some s' := hs
    have hstep : State.step ⟨s, .start, false, none⟩ (.server a) =
        some ⟨s', .start, false, none⟩ := by
      rw [State.step, if_pos helse, hs]
      rfl
    refine ⟨_, TransitionSystem.Run.next (T := system M) (a := .server a) h' hstep, ?_⟩
    rw [clientHist_append_singleton, hnone]
    rfl

/-- **Messages of another peer.** The first peer has sent a message, and after `2 ^ 64` connections
the client gets its uid. It has sent nothing. -/
theorem delivery_fails_after_wraparound : ∃ hist, ∃ s : State Server.plainMessages, Run hist s ∧
    ∃ c conn, s.connection = some c ∧ s.server.streams[c]? = some conn ∧
      ¬ Delivery hist s conn.peerUid := by
  obtain ⟨hist, s, h, hs, hone, haddr, hindex, hfirst, hevents, -⟩ := Server.exists_talkativeGuest
  obtain ⟨hist', gone, evs, choice, hlen, h', hstep, -⟩ :=
    h.exists_wrapped hs hone hfirst haddr hindex
  obtain ⟨hist'', hidle, hnone⟩ := exists_run_of_server h'
  let t := (s.later gone evs).accepted (Server.address 12) (Server.uuid (2 ^ 64))
  have hcount : (s.later gone evs).streams.length = 2 ^ 64 := by
    rw [← hlen]
    exact List.length_append
  have hlast : ∃ conn, t.streams[2 ^ 64]? = some conn := by
    have hlength := (s.later gone evs).length_streamsWithout
      ((s.later gone evs).peers.get? (s.later gone evs).nextPeerUid)
    rw [hcount] at hlength
    exact ⟨_, hlength ▸ List.getElem?_concat_length⟩
  obtain ⟨conn, hconn⟩ := hlast
  have hlt : (s.later gone evs).streams.length < t.streams.length := by
    rw [hcount]
    exact (List.getElem?_eq_some_iff.1 hconn).1
  have haccept : State.step ⟨s.later gone evs, .start, false, none⟩
      (.accept (.ok (Server.address 12)) choice) = some ⟨t, .start, true, some (2 ^ 64)⟩ := by
    rw [State.step, if_neg Bool.false_ne_true, hstep, Option.map_some, if_pos hlt, hcount]
  have h'' : Run _ _ := TransitionSystem.Run.next (T := system Server.plainMessages)
    (a := .accept _ choice) hidle haccept
  refine ⟨_, _, h'', 2 ^ 64, conn, rfl, hconn, fun hdelivery ↦ ?_⟩
  have huid : conn.peerUid = .ofNat 0 :=
    (Server.State.peerUid_eq (c := 2 ^ 64) (Server.Run.numbered (Run.server h'')) hconn).trans rfl
  -- the client has sent nothing, but there is a message
  have hinOrder := hdelivery.inOrder
  rw [clientHist_append_singleton, hnone, huid] at hinOrder
  have hle := hinOrder.length_le
  have hsent : t.events = s.events ++ evs ++ [.newPeer ⟨(s.later gone evs).nextPeerUid⟩] := by
    show (evs.foldl Channel.push s.eventSender).sent ++ _ = _
    rw [Server.State.sent_foldl_push]
    rfl
  have hfirst : (tcpMessagesFrom (.ofNat 0) s.events).length = 1 := by
    rw [hevents]
    rfl
  change (tcpMessagesFrom (.ofNat 0) t.events).length ≤ 0 at hle
  rw [hsent, Server.length_tcpMessagesFrom_append, Server.length_tcpMessagesFrom_append, hfirst] at hle
  omega

end Network.Link

end NetStream
