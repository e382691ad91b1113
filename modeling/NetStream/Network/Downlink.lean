import NetStream.Client.Narration
import NetStream.Network.Readiness
import NetStream.Server.Commands
import NetStream.Server.TcpDelivery

/-!
# From the server's application to a client's

A message that the server's application sends over TCP goes through the commands of the broker, the
commands of the peer's write actor, the connection, the client's read actor, and the loop of the
client's actor, which waits whenever its own application does not keep up. At every moment, what the
client's application has heard and what is on the way make up what the commands handled since the
acceptance have for the peer (`Downlink.accounted`).

There is one place where a message is lost while all parts work, the full queue of a write actor:
the broker does not wait for it. Even then what is heard is in order and not repeated.
-/

namespace NetStream.Network

open Server (PeerUid commanded commandsSince CommandsAdmitted)
open Client (narrate tcpApplication?)

variable {M : MessageTypes} {hist : List (State M × Action M)} {s : State M}

/-- What the commands handled since a connection was accepted have for its peer. -/
def addressed (hist : List (State M × Action M)) (c : ℕ) : List M.TcpFromServer :=
  (commandsSince (serverHist hist) c).filterMap (Server.Message.heardBy (.ofNat c))

/-- What a client's application has heard over TCP. -/
def Node.heard (node : Node M) : List M.TcpFromServer :=
  node.client.events.filterMap Client.Event.tcpMessage?

/-- The messages that were handed to the write actor of a connection and that the client's
application has not heard, the oldest first. -/
def Node.onTheWay (node : Node M) (conn : Server.Connection M) : List M.TcpFromServer :=
  node.client.phase.due.filterMap Client.Event.tcpMessage? ++
    node.client.tcpReadActor.onTheWay.filterMap tcpApplication? ++
    (conn.writer.sink.handed.drop node.arrived ++ conn.writer.onTheWay).filterMap
      TcpFromServer.application?

/-- All parts of a connection work. -/
structure Working (s : State M) (node : Node M) (c : ℕ) (conn : Server.Connection M) : Prop where
  /-- The peer is connected. -/
  peer : s.server.registry.writerOf (.ofNat c) = some c
  /-- Its write actor has not left its loop. -/
  writer : conn.writer.isOver = false
  /-- The client's read actor runs. -/
  reader : ∀ reason, node.client.tcpReadActor.phase ≠ .finished reason
  /-- The client's application has its event receiver. -/
  listener : node.client.eventSender.receiverAlive = true

/-- No message for a connection meets a full queue. -/
def NoneLost (hist : List (State M × Action M)) : Prop :=
  ∀ x ∈ serverHist hist, CommandsAdmitted WriteActor.HasRoom x.1 x.2

instance (hist : List (State M × Action M)) : Decidable (NoneLost hist) :=
  inferInstanceAs (Decidable (∀ x ∈ serverHist hist, CommandsAdmitted WriteActor.HasRoom x.1 x.2))

/-- What a client's application hears, against what the server's commands have for it. -/
structure Downlink (hist : List (State M × Action M)) (s : State M) (node : Node M) (c : ℕ)
    (conn : Server.Connection M) : Prop where
  /-- Nothing else is heard, and nothing out of order or twice. -/
  inOrder : node.heard.Sublist (addressed hist c)
  /-- Where none is lost, the messages are heard without a gap … -/
  gapless : NoneLost hist → node.heard <+: addressed hist c
  /-- … and what has not been heard is on the way. -/
  accounted : NoneLost hist → Working s node c conn →
    node.heard ++ node.onTheWay conn = addressed hist c

theorem filterMap_tcpApplication? (client : Client.State M) :
    client.tcpReadActor.stream.sent.filterMap tcpApplication? =
      client.arrivedTcp.filterMap TcpFromServer.application? :=
  (List.filterMap_filterMap ..).symm

/-- What has been heard is among what has arrived. -/
theorem Run.heard_isPrefix (h : Run hist s) {k : ℕ} {node : Node M}
    (hnode : s.nodes[k]? = some node) :
    node.heard <+: node.client.arrivedTcp.filterMap TcpFromServer.application? := by
  have hnarrates := (Run.client h k).narrates
  rw [State.clientOf_eq hnode] at hnarrates
  rw [← filterMap_tcpApplication?]
  refine (hnarrates.isPrefix.filterMap _).trans ?_
  rw [Client.filterMap_tcpMessage?_narrate]
  exact hnarrates.tcp.isPrefix.filterMap _

/-- It was handed to the sink of the client's connection. -/
theorem Run.heard_isPrefix_handed (h : Run hist s) {k c : ℕ} {node : Node M}
    {conn : Server.Connection M} (hnode : s.nodes[k]? = some node) (howner : s.owners[c]? = some k)
    (hconn : s.server.streams[c]? = some conn) :
    node.heard <+: conn.writer.sink.handed.filterMap TcpFromServer.application? :=
  (Run.heard_isPrefix h hnode).trans
    (((Run.fed h k node hnode).owned c conn howner hconn).filterMap _)

/-- **Nothing is lost in a client.** -/
theorem Run.heard_append_onTheWay (h : Run hist s) {k : ℕ} {node : Node M}
    (hnode : s.nodes[k]? = some node)
    (hreader : ∀ reason, node.client.tcpReadActor.phase ≠ .finished reason)
    (hlistener : node.client.eventSender.receiverAlive = true) :
    node.heard ++ node.client.phase.due.filterMap Client.Event.tcpMessage? ++
        node.client.tcpReadActor.onTheWay.filterMap tcpApplication? =
      node.client.arrivedTcp.filterMap TcpFromServer.application? := by
  have hnarrates := (Run.client h k).narrates
  rw [State.clientOf_eq hnode] at hnarrates
  rw [← filterMap_tcpApplication?, ← hnarrates.tcp.append_onTheWay hreader, List.filterMap_append,
    ← Client.filterMap_tcpMessage?_narrate, ← hnarrates.complete hlistener, List.filterMap_append]
  rfl

/-- **The messages of the server's application, end to end**, in every run. -/
theorem Run.downlink (h : Run hist s) {k c : ℕ} {node : Node M} {conn : Server.Connection M}
    (hnode : s.nodes[k]? = some node) (howner : s.owners[c]? = some k)
    (hconn : s.server.streams[c]? = some conn) : Downlink hist s node c conn := by
  have hserver := Run.server h
  have hfed := Run.fed h k node hnode
  have harrived := hfed.owned c conn howner hconn
  have hheard := Run.heard_isPrefix_handed h hnode howner hconn
  have hcommanded := Server.Run.application_commanded hserver c
  refine ⟨?_, fun hroom ↦ ?_, fun hroom hworking ↦ ?_⟩
  · have hhanded := (Server.Run.handed_sublist_commanded hserver hconn).filterMap
      TcpFromServer.application?
    exact (hheard.sublist.trans hhanded).trans hcommanded.1.sublist
  · have hhanded := Server.Run.handed_isPrefix hserver hroom hconn
    exact (hheard.trans (hhanded.filterMap _)).trans hcommanded.1
  · have hfollows := (Server.Run.writers hserver WriteActor.offerRule_follows hroom).related c conn
      hconn
    have hopen := (Server.Run.writers hserver WriteActor.offerRule_open
      fun _ _ _ _ _ _ ↦ trivial).related c conn hconn hworking.writer
    have hclient := Run.heard_append_onTheWay h hnode hworking.reader hworking.listener
    have hwire : node.client.arrivedTcp ++ conn.writer.sink.handed.drop node.arrived =
        conn.writer.sink.handed := by
      rw [← hfed.length]
      exact List.prefix_iff_eq_append.1 harrived
    calc node.heard ++ node.onTheWay conn
      _ = (node.client.arrivedTcp ++ conn.writer.sink.handed.drop node.arrived ++
            conn.writer.onTheWay).filterMap TcpFromServer.application? := by
          rw [List.filterMap_append, List.filterMap_append, ← hclient, Node.onTheWay,
            List.filterMap_append]
          simp only [List.append_assoc]
      _ = (commanded (serverHist hist) c).filterMap TcpFromServer.application? := by
          rw [hwire, hfollows.append_onTheWay hworking.writer hopen]
      _ = addressed hist c := hcommanded.2 hworking.peer

/-- The first of two clients has heard a message; the next is with the loop of its actor, the third
with its read actor and the last with the write actor. -/
theorem Run.downlink_of_four : ∃ hist, ∃ s : State Server.numberedMessages, ∃ node conn,
    Run hist s ∧ s.nodes[0]? = some node ∧ s.owners[0]? = some 0 ∧
    s.server.streams[0]? = some conn ∧ Working s node 0 conn ∧ node.heard = [(5 : ℕ)] ∧
    node.onTheWay conn = [(7 : ℕ), (8 : ℕ), (9 : ℕ)] ∧
    addressed hist 0 = [(5 : ℕ), (7 : ℕ), (8 : ℕ), (9 : ℕ)] ∧
    Downlink hist s node 0 conn := by
  have h : Run _ _ := TransitionSystem.run_of_exec (T := system Server.numberedMessages)
    (s := .start .dev ⟨2⟩) (l := Action.connect 0 10 1 [] ++ Action.connect 1 11 2 [0] ++
      List.map .server ([.toPeerTcp (.ofNat 0) (5 : ℕ), .announceTcp (7 : ℕ),
        .toPeerTcp (.ofNat 1) (4 : ℕ), .announceTcp (8 : ℕ), .toPeerTcp (.ofNat 0) (9 : ℕ)].flatMap fun msg ↦ Server.Action.command msg [0, 1]) ++
      Action.deliver 0 0 ++
      Action.deliver 0 0 ++ List.map (.client 0) [.send 0, .flush 0] ++
      Action.deliver 0 0 ++
      [.server (.task (.tcpWriter 0 .recv)), .server (.task (.tcpWriter 0 (.operate true))), .tcp 0,
        .client 0 (.task (.tcpReader .item)), .server (.task (.tcpWriter 0 .recv))])
    ⟨.dev, ⟨2⟩, rfl⟩ rfl
  exact ⟨_, _, _, _, h, rfl, rfl, rfl, ⟨rfl, rfl, fun _ ↦ nofun, rfl⟩, rfl, rfl, rfl,
    Run.downlink h rfl rfl rfl⟩

end NetStream.Network
