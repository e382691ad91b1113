import NetStream.Client.TcpForwarding
import NetStream.Server.DisconnectReasons

/-!
# One client at the server

The server and one of its clients, with the TCP connection between them in the direction from the
client to the server. The rest is left open: the other peers and what they send, what comes over
UDP, what the server sends to the client, and when anyone takes a step.

TCP with the framing and the codec on both ends is a reliable first-in first-out stream of messages.
A message may arrive once the client's sink has begun to send it. The stream ends after the client's
write actor has left its loop, and then all that was flushed has arrived before. The connection may
also fail, at any time, and nothing but the end arrives after that.
-/

namespace NetStream.Network.Link

variable {M : MessageTypes}

structure State (M : MessageTypes) where
  server : Server.State M
  client : Client.State M
  /-- The broker has taken the client's connection from the listener. -/
  offered : Bool
  /-- The client's connection, if it was accepted. -/
  connection : Option ℕ

inductive Action (M : MessageTypes)
  /-- The server takes a step in which nothing is read from the client's connection. -/
  | server (a : Server.Action M)
  /-- The broker takes the client's connection from the listener. -/
  | accept (peerAddr : Except Unit SocketAddr) (choice : Server.Choice)
  /-- The client takes a step. -/
  | client (a : Client.Action M)
  /-- The next message of the client arrives. -/
  | message
  /-- The connection fails. -/
  | failure
  /-- The end of the stream arrives. -/
  | ended

/-- The connection from which a step of the server reads. -/
def readsFrom? : Server.Action M → Option ℕ
  | .env (.tcpFrame c _) => some c
  | .env (.tcpEnd c) => some c
  | _ => none

namespace State

/-- The state in which the server starts, and the client. -/
def start (profile : Profile) (config : Server.Config) : State M where
  server := .start profile config
  client := .start
  offered := false
  connection := none

/-- The client's connection at the server. -/
def stream? (s : State M) : Option (ℕ × Server.Connection M) := do
  let c ← s.connection
  let conn ← s.server.streams[c]?
  return (c, conn)

/-- The next message to arrive. -/
def nextMessage? (s : State M) (conn : Server.Connection M) : Option (TcpToServer M) :=
  (WriteActor.items s.client.tcpWriteActor.actorMsg.taken)[conn.reader.stream.sent.length]?

/-- The client has shut the stream down, and what it flushed before has arrived. -/
def isShutDown (s : State M) (conn : Server.Connection M) : Bool :=
  s.client.tcpWriteActor.isOver &&
    decide (s.client.tcpWriteActor.sink.flushed ≤ conn.reader.stream.sent.length)

/-- What is read from the client's connection in a step. -/
def reads? (s : State M) : Action M → Option (Server.Env M)
  | .message => s.stream?.bind fun x ↦
    if x.2.readFailed then none
    else (s.nextMessage? x.2).map fun msg ↦ .tcpFrame x.1 (.ok msg)
  | .failure => s.stream?.bind fun x ↦
    if x.2.readFailed then none else some (.tcpFrame x.1 (.error .io))
  | .ended => s.stream?.bind fun x ↦
    if x.2.readFailed || s.isShutDown x.2 then some (.tcpEnd x.1) else none
  | _ => none

/-- A step of the server does not read from the client's connection. -/
def isElsewhere (s : State M) (a : Server.Action M) : Bool :=
  match readsFrom? a with
  | none => true
  | some c => s.connection != some c

/-- The action of the server in a step of the whole. -/
def serverAction (s : State M) : Action M → Option (Server.Action M)
  | .server a => some a
  | .accept peerAddr choice => some (.next (.tcpListener (.ok ⟨peerAddr⟩)) choice)
  | .client _ => none
  | a => (s.reads? a).map .env

/-- The action of the client in a step of the whole. -/
def clientAction (_ : State M) : Action M → Option (Client.Action M)
  | .client a => some a
  | _ => none

/-- The state after an action, where it is enabled. -/
def step (s : State M) : Action M → Option (State M)
  | .server a =>
    if s.isElsewhere a then (s.server.step a).map fun server ↦ { s with server := server } else none
  | .accept peerAddr choice =>
    if s.offered then none
    else (s.server.step (.next (.tcpListener (.ok ⟨peerAddr⟩)) choice)).map fun server ↦
      { s with
        server := server
        offered := true
        connection :=
          if s.server.streams.length < server.streams.length then some s.server.streams.length
          else none }
  | .client a => (s.client.step a).map fun client ↦ { s with client := client }
  | a => (s.reads? a).bind fun e ↦
    (s.server.step (.env e)).map fun server ↦ { s with server := server }

end State

/-- The server and a client of it: the server starts with any configuration, in any build. -/
def system (M : MessageTypes) : TransitionSystem (State M) (Action M) where
  init s := ∃ profile config, s = .start profile config
  step := State.step

/-- A run of the server and the client, with its history. -/
abbrev Run (hist : List (State M × Action M)) (s : State M) : Prop :=
  (system M).Run hist s

/-- The history of the server. -/
def serverHist (hist : List (State M × Action M)) : List (Server.State M × Server.Action M) :=
  TransitionSystem.projectHist State.server State.serverAction hist

/-- The history of the client. -/
def clientHist (hist : List (State M × Action M)) : List (Client.State M × Client.Action M) :=
  TransitionSystem.projectHist State.client State.clientAction hist

/-! ### What a step does -/

section Step

variable {s s' : State M}

theorem stream?_eq_some_iff {c : ℕ} {conn : Server.Connection M} :
    s.stream? = some (c, conn) ↔ s.connection = some c ∧ s.server.streams[c]? = some conn := by
  simp only [State.stream?, Option.bind_eq_bind, Option.bind_eq_some_iff, Option.pure_def,
    Option.some.injEq, Prod.mk.injEq]
  constructor
  · rintro ⟨c', hc, conn', hconn, rfl, rfl⟩
    exact ⟨hc, hconn⟩
  · rintro ⟨hc, hconn⟩
    exact ⟨c, hc, conn, hconn, rfl, rfl⟩

theorem connection_ne_of_isElsewhere {a : Server.Action M} {c : ℕ} (h : s.isElsewhere a = true)
    (ha : readsFrom? a = some c) : s.connection ≠ some c := by
  rw [State.isElsewhere, ha] at h
  exact bne_iff_ne.1 h

/-- **What is read**: a message or a failure of a connection that has not failed yet, or its end. -/
theorem reads?_cases {a : Action M} {e : Server.Env M} (h : s.reads? a = some e) :
    ∃ c conn, s.connection = some c ∧ s.server.streams[c]? = some conn ∧
      ((∃ msg, e = .tcpFrame c (.ok msg) ∧ conn.readFailed = false ∧
          s.nextMessage? conn = some msg) ∨
        (e = .tcpFrame c (.error .io) ∧ conn.readFailed = false) ∨
        (e = .tcpEnd c ∧ (conn.readFailed = true ∨ s.isShutDown conn = true))) := by
  cases a with
  | message =>
    obtain ⟨⟨c, conn⟩, hstream, h⟩ := Option.bind_eq_some_iff.1 h
    obtain ⟨hc, hconn⟩ := stream?_eq_some_iff.1 hstream
    split at h
    · cases h
    · rename_i hfailed
      obtain ⟨msg, hmsg, rfl⟩ := Option.map_eq_some_iff.1 h
      exact ⟨c, conn, hc, hconn, Or.inl ⟨msg, rfl, Bool.not_eq_true _ ▸ hfailed, hmsg⟩⟩
  | failure =>
    obtain ⟨⟨c, conn⟩, hstream, h⟩ := Option.bind_eq_some_iff.1 h
    obtain ⟨hc, hconn⟩ := stream?_eq_some_iff.1 hstream
    split at h
    · cases h
    · rename_i hfailed
      obtain rfl := Option.some.inj h
      exact ⟨c, conn, hc, hconn, Or.inr (Or.inl ⟨rfl, Bool.not_eq_true _ ▸ hfailed⟩)⟩
  | ended =>
    obtain ⟨⟨c, conn⟩, hstream, h⟩ := Option.bind_eq_some_iff.1 h
    obtain ⟨hc, hconn⟩ := stream?_eq_some_iff.1 hstream
    split at h
    · rename_i hend
      obtain rfl := Option.some.inj h
      exact ⟨c, conn, hc, hconn, Or.inr (Or.inr ⟨rfl, Bool.or_eq_true_iff.1 hend⟩)⟩
    · cases h
  | server _ | accept _ _ | client _ => cases h

/-- **Inversion**: the action, and the state after it. -/
theorem step_cases {a : Action M} (h : s.step a = some s') :
    (∃ b server, a = .server b ∧ s.isElsewhere b = true ∧ s.server.step b = some server ∧
      s' = { s with server := server }) ∨
    (∃ peerAddr choice server, a = .accept peerAddr choice ∧ s.offered = false ∧
      s.server.step (.next (.tcpListener (.ok ⟨peerAddr⟩)) choice) = some server ∧
      s' = { s with
        server := server
        offered := true
        connection :=
          if s.server.streams.length < server.streams.length then some s.server.streams.length
          else none }) ∨
    (∃ b client, a = .client b ∧ s.client.step b = some client ∧
      s' = { s with client := client }) ∨
    (∃ e server, s.serverAction a = some (.env e) ∧ s.clientAction a = none ∧
      s.reads? a = some e ∧ s.server.step (.env e) = some server ∧
      s' = { s with server := server }) := by
  cases a with
  | server b =>
    simp only [State.step] at h
    split at h
    · obtain ⟨server, hs, rfl⟩ := Option.map_eq_some_iff.1 h
      exact Or.inl ⟨b, server, rfl, ‹_›, hs, rfl⟩
    · cases h
  | accept peerAddr choice =>
    simp only [State.step] at h
    split at h
    · cases h
    · rename_i hoffered
      obtain ⟨server, hs, rfl⟩ := Option.map_eq_some_iff.1 h
      exact Or.inr (Or.inl
        ⟨peerAddr, choice, server, rfl, Bool.not_eq_true _ ▸ hoffered, hs, rfl⟩)
  | client b =>
    obtain ⟨client, hs, rfl⟩ := Option.map_eq_some_iff.1 h
    exact Or.inr (Or.inr (Or.inl ⟨b, client, rfl, hs, rfl⟩))
  | message | failure | ended =>
    obtain ⟨e, he, h⟩ := Option.bind_eq_some_iff.1 h
    obtain ⟨server, hs, rfl⟩ := Option.map_eq_some_iff.1 h
    exact Or.inr (Or.inr (Or.inr ⟨e, server, Option.map_eq_some_iff.2 ⟨e, he, rfl⟩, rfl, he, hs, rfl⟩))

end Step

variable {hist : List (State M × Action M)} {s : State M}

/-- **The server runs as such**, whatever it reads from the client. -/
theorem Run.server (h : Run hist s) : Server.Run (serverHist hist) s.server := by
  refine TransitionSystem.Run.project (U := Server.system M) ?_ ?_ ?_ h
  · rintro s ⟨profile, config, rfl⟩
    exact ⟨profile, config, rfl⟩
  · intro s a s' hs b hb
    rcases step_cases hs with ⟨b', server, rfl, -, hstep, rfl⟩ |
      ⟨peerAddr, choice, server, rfl, -, hstep, rfl⟩ | ⟨b', client, rfl, -, -⟩ |
      ⟨e, server, he, -, -, hstep, rfl⟩
    · obtain rfl := Option.some.inj hb
      exact hstep
    · obtain rfl := Option.some.inj hb
      exact hstep
    · cases hb
    · obtain rfl := Option.some.inj (he.symm.trans hb)
      exact hstep
  · intro s a s' hs hb
    rcases step_cases hs with ⟨b', server, rfl, -, -, -⟩ | ⟨peerAddr, choice, server, rfl, -, -, -⟩ |
      ⟨b', client, rfl, -, rfl⟩ | ⟨e, server, he, -, -, -, -⟩
    · cases hb
    · cases hb
    · rfl
    · cases he.symm.trans hb

/-- **So does the client.** -/
theorem Run.client (h : Run hist s) : Client.Run (clientHist hist) s.client := by
  refine TransitionSystem.Run.project (U := Client.system M) ?_ ?_ ?_ h
  · rintro s ⟨profile, config, rfl⟩
    exact rfl
  · intro s a s' hs b hb
    rcases step_cases hs with ⟨b', server, rfl, -, -, -⟩ | ⟨peerAddr, choice, server, rfl, -, -, -⟩ |
      ⟨b', client, rfl, hstep, rfl⟩ | ⟨e, server, -, hnone, -, -, -⟩
    · cases hb
    · cases hb
    · obtain rfl := Option.some.inj hb
      exact hstep
    · cases hnone.symm.trans hb
  · intro s a s' hs hb
    rcases step_cases hs with ⟨b', server, -, -, -, rfl⟩ | ⟨peerAddr, choice, server, -, -, -, rfl⟩ |
      ⟨b', client, rfl, -, -⟩ | ⟨e, server, -, -, -, -, rfl⟩
    · rfl
    · rfl
    · cases hb
    · rfl

end NetStream.Network.Link
