import NetStream.Network.Downlink
import NetStream.Network.TcpUplink
import NetStream.TcpChat.Conversation

/-!
# The chat: the server and its users

The chat server's loop, the server below it, and any number of clients, with the network between
them. What the loop does is that of `TcpChat.System`, and the network with the clients that of
`Network.System`; the server is part of both. Over a connection comes what the client at the other
end sends, until it fails (`Network.TcpUplink`).

A run of the chat is a run of either (`Run.room`, `Run.network`), with the same history of the
server (`serverHist_eq`). So what is known of the loop, of a message's way to the server and of its
way back to the clients goes together: the users read what the others have typed, and all of them in
the same order (`Run.chatted`).
-/

namespace NetStream.TcpChat.Chat

open Client (acceptedTcp)
open Network (FramesArrive NoneLost clientHist)
open Server (PeerUid)

structure State where
  /-- The loop, with the server. -/
  room : TcpChat.State
  /-- The clients, in the order in which they joined. -/
  nodes : List (Network.Node messageTypes)
  /-- For each accepted connection, the client at its other end. -/
  owners : List ℕ

inductive Action
  /-- The server, a client or the network takes a step in which the loop takes no part and nothing is
  read from a connection. -/
  | network (a : Network.Action messageTypes)
  /-- The next message of its client arrives on a connection. -/
  | message (c : ℕ)
  /-- A connection fails. -/
  | failure (c : ℕ)
  /-- The loop takes an event. -/
  | takeEvent (order : List PeerUid)
  /-- The loop gives the next command. -/
  | send
  /-- The loop finds that there are no more events. -/
  | finish

/-- The step of the loop. -/
def Action.loop? : Action → Option TcpChat.Action
  | .takeEvent order => some (.takeEvent order)
  | .send => some .send
  | .finish => some .finish
  | _ => none

/-- Something is read from a connection. -/
def isRead : Server.Action messageTypes → Bool
  | .env (.tcpFrame _ _) => true
  | _ => false

/-- The loop takes no part, and nothing is read from a connection. -/
def isElsewhere : Network.Action messageTypes → Bool
  | .server a => !isApplication a && !isRead a
  | _ => true

namespace State

/-- The state in which the chat server starts. -/
def start (profile : Profile) (config : Server.Config) : State where
  room := .start profile config
  nodes := []
  owners := []

def network (s : State) : Network.State messageTypes :=
  ⟨s.room.server, s.nodes, s.owners⟩

def withNetwork (s : State) (network : Network.State messageTypes) : State where
  room := { s.room with server := network.server }
  nodes := network.nodes
  owners := network.owners

/-- The step of the network. -/
def networkAction (s : State) : Action → Option (Network.Action messageTypes)
  | .network a => if isElsewhere a then some a else none
  | .message c => (s.network.nextMessage? c).map fun msg ↦ .server (.env (.tcpFrame c (.ok msg)))
  | .failure c => some (.server (.env (.tcpFrame c (.error .io))))
  | .send => (s.room.serverAction .send).map .server
  | _ => none

/-- The step of the loop, or of the server below it. -/
def roomAction (s : State) (a : Action) : Option TcpChat.Action :=
  match a.loop? with
  | some b => some b
  | none => ((s.networkAction a).bind s.network.serverAction).map .server

/-- The state after an action, where it is enabled. -/
def step (s : State) (a : Action) : Option State :=
  match a.loop?, s.room.phase with
  | some b, _ => (s.room.step b).map fun room ↦ { s with room := room }
  | none, .running _ =>
    (s.networkAction a).bind fun b ↦ (s.network.step b).map s.withNetwork
  | none, _ => none

end State

/-- The chat: the server starts with any configuration, in any build. -/
def system : TransitionSystem State Action where
  init s := ∃ profile config, s = .start profile config
  step := State.step

/-- A run of the chat, with its history. -/
abbrev Run (hist : List (State × Action)) (s : State) : Prop :=
  system.Run hist s

/-- The history of the loop. -/
def roomHist (hist : List (State × Action)) : List (TcpChat.State × TcpChat.Action) :=
  TransitionSystem.projectHist State.room State.roomAction hist

/-- The history of the network. -/
def networkHist (hist : List (State × Action)) :
    List (Network.State messageTypes × Network.Action messageTypes) :=
  TransitionSystem.projectHist State.network State.networkAction hist

/-! ### What a step does -/

section Step

variable {s s' : State} {a : Action}

/-- **Inversion**: a step of the loop, or of the network while the loop goes on. -/
theorem step_cases (h : s.step a = some s') :
    (∃ b room, a.loop? = some b ∧ s.room.step b = some room ∧ s' = { s with room := room }) ∨
    (∃ b network pending, a.loop? = none ∧ s.room.phase = .running pending ∧
      s.networkAction a = some b ∧ s.network.step b = some network ∧ s' = s.withNetwork network) := by
  rw [State.step] at h
  split at h
  · rename_i b hloop
    obtain ⟨room, hroom, rfl⟩ := Option.map_eq_some_iff.1 h
    exact Or.inl ⟨b, room, hloop, hroom, rfl⟩
  · rename_i pending hloop hphase
    obtain ⟨b, hb, h⟩ := Option.bind_eq_some_iff.1 h
    obtain ⟨network, hnetwork, rfl⟩ := Option.map_eq_some_iff.1 h
    exact Or.inr ⟨b, network, pending, hloop, hphase, hb, hnetwork, rfl⟩
  · cases h

/-- What the loop does to the server is to give it a command. -/
theorem exists_command_of_loop {b : TcpChat.Action} (hloop : a.loop? = some b)
    {d : Server.Action messageTypes} (hd : s.room.serverAction b = some d) :
    ∃ command, d = .env (.command command) := by
  cases a with
  | send =>
    obtain rfl := Option.some.inj hloop
    rw [TcpChat.State.serverAction] at hd
    split at hd
    · rename_i command rest hphase
      exact ⟨command, (Option.some.inj (Option.ite_none_right_eq_some.1 hd).2).symm⟩
    · cases hd
  | takeEvent _ | finish =>
    obtain rfl := Option.some.inj hloop
    cases hd
  | network _ | message _ | failure _ => cases hloop

/-- The loop's part in the server is also its part in the network. -/
theorem networkAction_of_loop {b : TcpChat.Action} (hloop : a.loop? = some b) :
    s.networkAction a = (s.room.serverAction b).map .server := by
  cases a with
  | takeEvent order | send | finish =>
    obtain rfl := Option.some.inj hloop
    rfl
  | network _ | message _ | failure _ => cases hloop

/-- In other steps the application of the server takes no part. -/
theorem isApplication_of_networkAction (hloop : a.loop? = none)
    {b : Network.Action messageTypes} (hb : s.networkAction a = some b)
    {d : Server.Action messageTypes} (hd : s.network.serverAction b = some d) :
    isApplication d = false := by
  cases a with
  | network b' =>
    obtain ⟨helse, hb⟩ := Option.ite_none_right_eq_some.1 hb
    obtain rfl := Option.some.inj hb
    cases b' with
    | server d' =>
      obtain rfl := Option.some.inj hd
      rw [isElsewhere, Bool.and_eq_true, Bool.not_eq_true'] at helse
      exact helse.1
    | accept k peerAddr choice =>
      obtain rfl := Option.some.inj hd
      rfl
    | udp k i =>
      obtain ⟨x, -, rfl⟩ := Option.map_eq_some_iff.1 hd
      rfl
    | join _ | client _ _ | tcp _ => cases hd
  | message c =>
    obtain ⟨msg, -, rfl⟩ := Option.map_eq_some_iff.1 hb
    obtain rfl := Option.some.inj hd
    rfl
  | failure c =>
    obtain rfl := Option.some.inj hb
    obtain rfl := Option.some.inj hd
    rfl
  | takeEvent _ | send | finish => cases hloop

/-- What is read from a connection comes from its client. -/
theorem framesArrive_of_networkAction {b : Network.Action messageTypes}
    (hb : s.networkAction a = some b) : FramesArrive s.network b := by
  intro c frame hframe
  cases a with
  | network b' =>
    obtain ⟨helse, hb⟩ := Option.ite_none_right_eq_some.1 hb
    obtain rfl := Option.some.inj hb
    cases b' with
    | server d =>
      obtain rfl := Option.some.inj hframe
      cases helse
    | udp k i =>
      obtain ⟨x, -, hx⟩ := Option.map_eq_some_iff.1 hframe
      cases hx
    | accept _ _ _ | join _ | client _ _ | tcp _ => cases hframe
  | message c' =>
    obtain ⟨msg, hmsg, rfl⟩ := Option.map_eq_some_iff.1 hb
    obtain ⟨rfl, rfl⟩ := Server.Env.tcpFrame.inj (Server.Action.env.inj (Option.some.inj hframe))
    exact .message hmsg
  | failure c' =>
    obtain rfl := Option.some.inj hb
    obtain ⟨rfl, rfl⟩ := Server.Env.tcpFrame.inj (Server.Action.env.inj (Option.some.inj hframe))
    exact .failure
  | send =>
    obtain ⟨d, hd, rfl⟩ := Option.map_eq_some_iff.1 hb
    obtain ⟨command, rfl⟩ := exists_command_of_loop (a := .send) rfl hd
    cases hframe
  | takeEvent _ | finish => cases hb

end Step

variable {hist : List (State × Action)} {s : State}

/-- **The loop runs as such** above its server. -/
theorem Run.room (h : Run hist s) : TcpChat.Run (roomHist hist) s.room := by
  refine TransitionSystem.Run.project (U := TcpChat.system) ?_ ?_ ?_ h
  · rintro s ⟨profile, config, rfl⟩
    exact ⟨profile, config, rfl⟩
  · intro s a s' hs b hb
    rcases step_cases hs with ⟨b', room, hloop, hroom, rfl⟩ |
      ⟨b', network, pending, hloop, hphase, haction, hnetwork, rfl⟩
    · rw [State.roomAction, hloop] at hb
      obtain rfl := Option.some.inj hb
      exact hroom
    · rw [State.roomAction, hloop, haction] at hb
      obtain ⟨d, hd, rfl⟩ := Option.map_eq_some_iff.1 hb
      have hserver : s.room.server.step d = some network.server := Network.server_step hnetwork hd
      show s.room.step (.server d) = some { s.room with server := network.server }
      simp only [TcpChat.State.step, hphase, isApplication_of_networkAction hloop haction hd,
        hserver, Bool.false_eq_true, if_false, Option.map_some]
  · intro s a s' hs hnone
    rcases step_cases hs with ⟨b', room, hloop, hroom, rfl⟩ |
      ⟨b', network, pending, hloop, hphase, haction, hnetwork, rfl⟩
    · rw [State.roomAction, hloop] at hnone
      cases hnone
    · rw [State.roomAction, hloop, haction] at hnone
      have hserver : network.server = s.room.server :=
        Network.server_eq_of_step hnetwork (Option.map_eq_none_iff.1 hnone)
      rw [State.withNetwork, hserver]

/-- **So does the network**, with the loop as the application of its server. -/
theorem Run.network (h : Run hist s) : Network.Run (networkHist hist) s.network := by
  induction h with
  | start h =>
    obtain ⟨profile, config, rfl⟩ := h
    exact .start ⟨profile, config, rfl⟩
  | @next hist s s' a h hs ih =>
    rw [networkHist, TransitionSystem.projectHist_append_singleton]
    rcases step_cases hs with ⟨b, room, hloop, hroom, rfl⟩ |
      ⟨b, network, pending, hloop, hphase, haction, hnetwork, rfl⟩
    · rw [networkAction_of_loop hloop]
      rcases (TcpChat.Run.attached (Run.room h)).server_step hroom with
        ⟨d, pending, hd, hserver, -, -⟩ | ⟨hnone, hsame⟩
      · have hstep : s.network.step (.server d) = some ⟨room.server, s.nodes, s.owners⟩ := by
          obtain ⟨command, rfl⟩ := exists_command_of_loop hloop hd
          rw [Network.State.step]
          exact (if_pos rfl).trans (Option.map_eq_some_iff.2 ⟨_, hserver, rfl⟩)
        rw [hd]
        exact ih.next hstep
      · rw [hnone, Option.map_none, Option.map_none, Option.toList_none, List.append_nil]
        show Network.Run _ ⟨room.server, s.nodes, s.owners⟩
        rw [hsame]
        exact ih
    · rw [haction]
      exact ih.next hnetwork

/-- The server of the loop is that of the network. -/
theorem serverHist_eq (hist : List (State × Action)) :
    TcpChat.serverHist (roomHist hist) = Network.serverHist (networkHist hist) := by
  have haction : ∀ (s : State) a, (s.roomAction a).bind s.room.serverAction =
      (s.networkAction a).bind s.network.serverAction := by
    intro s a
    rw [State.roomAction]
    cases hloop : a.loop? with
    | some b =>
      rw [networkAction_of_loop hloop]
      show s.room.serverAction b = _
      cases s.room.serverAction b <;> rfl
    | none => cases (s.networkAction a).bind s.network.serverAction <;> rfl
  rw [TcpChat.serverHist, Network.serverHist, roomHist, networkHist,
    TransitionSystem.projectHist_projectHist, TransitionSystem.projectHist_projectHist]
  exact congrArg (TransitionSystem.projectHist _ · hist) (funext fun s ↦ funext (haction s))

theorem framesArrive_of_mem {x : Network.State messageTypes × Network.Action messageTypes}
    (hx : x ∈ networkHist hist) : FramesArrive x.1 x.2 := by
  obtain ⟨t, a, -, hstate, hb⟩ := TransitionSystem.exists_of_mem_projectHist hx
  exact hstate ▸ framesArrive_of_networkAction hb

/-! ### What is typed and what is read -/

/-- What was typed at a client: the lines that its actor accepted. -/
def typed (hist : List (State × Action)) (k : ℕ) : List String :=
  (acceptedTcp (clientHist k (networkHist hist))).map FromPeerToServer.text

/-- What a client has read of what was said in the room. -/
def State.read (s : State) (k : ℕ) : List Message :=
  ((s.network.clientOf k).events.filterMap Client.Event.tcpMessage?).filterMap spoken

/-- What a client has read is of what has been heard over its connection. -/
theorem Run.read_heard (h : Run hist s) {c k : ℕ} (howner : s.owners[c]? = some k) :
    (s.read k).Sublist ((heard (roomHist hist) c).filterMap spoken) ∧
      (NoneLost (networkHist hist) → s.read k <+: (heard (roomHist hist) c).filterMap spoken) := by
  have hnetwork := Run.network h
  have hserver := Network.Run.server hnetwork
  have hwired := Network.Run.wired hnetwork
  obtain ⟨hlt, -⟩ := List.getElem?_eq_some_iff.1 howner
  obtain ⟨node, hnode, -⟩ := hwired.offered k (List.mem_of_getElem? howner)
  obtain ⟨conn, hconn⟩ : ∃ conn, s.network.server.streams[c]? = some conn :=
    ⟨_, List.getElem?_eq_getElem (hwired.length_owners ▸ hlt)⟩
  have hread : s.read k = node.heard.filterMap spoken := by
    rw [State.read, Network.State.clientOf_eq hnode]
    rfl
  have hheard := Network.Run.heard_isPrefix_handed hnetwork hnode howner hconn
  rw [hread, heard, serverHist_eq]
  refine ⟨List.Sublist.filterMap _ (hheard.sublist.trans ?_), fun hnone ↦ ?_⟩
  · exact (Server.Run.handed_sublist_commanded hserver hconn).filterMap _
  · exact (hheard.trans ((Server.Run.handed_isPrefix hserver hnone hconn).filterMap _)).filterMap _

/-- **The chat**: what is read, said and typed. -/
structure Chatted (hist : List (State × Action)) (s : State) : Prop where
  /-- Under the name of a user is said what was typed at its client, in this order, nothing left out
  in between. -/
  typed : ∀ c k : ℕ, s.owners[c]? = some k →
    saidBy (userOf (.ofNat c)) (conversation s.room.consumed) <+: typed hist k
  /-- Nobody else says anything. -/
  authors : ∀ msg ∈ conversation s.room.consumed,
    ∃ c < s.owners.length, msg.from_ = userOf (.ofNat c)
  /-- A client reads what is said, in the order in which it is said, and nothing twice. -/
  inOrder : ∀ c k : ℕ, s.owners[c]? = some k → (s.read k).Sublist (conversation s.room.consumed)
  /-- Where no message meets a full queue, it reads a part of the conversation without a gap. -/
  gapless : NoneLost (networkHist hist) → ∀ c k : ℕ, s.owners[c]? = some k →
    s.read k <:+: conversation s.room.consumed
  /-- So what it reads of another user was typed by that one, in this order. -/
  faithful : ∀ c k d j : ℕ, s.owners[c]? = some k → s.owners[d]? = some j →
    (saidBy (userOf (.ofNat d)) (s.read k)).Sublist (Chat.typed hist j) ∧
      (NoneLost (networkHist hist) → saidBy (userOf (.ofNat d)) (s.read k) <:+: Chat.typed hist j)

/-- Whoever has said something has a connection. -/
theorem Run.exists_author (h : Run hist s) (hlt : s.room.server.streams.length < 2 ^ 64)
    {msg : Message} (hmsg : msg ∈ conversation s.room.consumed) :
    ∃ c < s.owners.length, msg.from_ = userOf (.ofNat c) := by
  have hroom := Run.room h
  obtain ⟨ev, hev, hsaid⟩ := List.mem_filterMap.1 hmsg
  have hev : ev ∈ s.room.server.events := List.mem_of_mem_take hev
  cases ev with
  | tcpMessage m =>
    obtain ⟨p, ⟨text⟩⟩ := m
    obtain rfl := Option.some.inj hsaid
    obtain ⟨before, after, hsplit⟩ := List.append_of_mem hev
    have hannounced : p ∈ Server.newPeers s.room.server.events := by
      have hbefore := (TcpChat.Run.server hroom).tcpMessages_announced _ _ _ hsplit _ rfl
      rw [hsplit, Server.newPeers_append]
      exact List.mem_append_left _ hbefore
    rw [newPeers_of_run (TcpChat.Run.server hroom) (TcpChat.Run.attached hroom).events hlt]
      at hannounced
    obtain ⟨c, hc, rfl⟩ := List.mem_map.1 hannounced
    exact ⟨c, (Network.Run.wired (Run.network h)).length_owners.symm ▸ List.mem_range.1 hc, rfl⟩
  | newPeer _ | peerDisconnect _ | udpMessage _ => cases hsaid

/-- What is said under the name of a user was typed at its client. -/
theorem Run.saidBy_isPrefix (h : Run hist s) (hlt : s.room.server.streams.length < 2 ^ 64) {c k : ℕ}
    (howner : s.owners[c]? = some k) :
    saidBy (userOf (.ofNat c)) (conversation s.room.consumed) <+: typed hist k := by
  have hnetwork := Run.network h
  obtain ⟨hc, -⟩ := List.getElem?_eq_some_iff.1 howner
  have hsole := Server.Run.soleUid (Network.Run.server hnetwork) (Or.inr (Nat.le_of_lt hlt))
    ((Network.Run.wired hnetwork).length_owners ▸ hc)
  rw [saidBy_conversation]
  have hconsumed : s.room.consumed <+: s.room.server.events := List.take_prefix _ _
  exact ((hconsumed.filterMap _).trans (Network.Run.tcpMessagesFrom_isPrefix hnetwork
    (fun x ↦ framesArrive_of_mem) howner hsole)).map _

/-- **The users read what the others have typed**, in every run of the chat with up to `2 ^ 64`
connections: each reads a part of one conversation, and in it everyone what was typed there. -/
theorem Run.chatted (h : Run hist s) (hlt : s.room.server.streams.length < 2 ^ 64) :
    Chatted hist s where
  typed c k howner := Run.saidBy_isPrefix h hlt howner
  authors msg hmsg := Run.exists_author h hlt hmsg
  inOrder c k howner := (Run.read_heard h howner).1.trans
    (Run.spoken_heard (Run.room h) hlt c List.prefix_rfl).sublist
  gapless hnone c k howner := ((Run.read_heard h howner).2 hnone).isInfix.trans
    (Run.spoken_heard (Run.room h) hlt c List.prefix_rfl)
  faithful c k d j howner howner' := by
    have hread := Run.read_heard h howner
    have hheard := Run.spoken_heard (Run.room h) hlt c List.prefix_rfl
    have htyped := Run.saidBy_isPrefix h hlt howner'
    refine ⟨((hread.1.trans hheard.sublist).filterMap _).trans htyped.sublist, fun hnone ↦ ?_⟩
    exact (((hread.2 hnone).isInfix.trans hheard).filterMap _).trans htyped.isInfix

/-- Client `k` joins as in `Network.Action.connect`, and the loop welcomes its peer; with it, these
are connected. -/
def Action.enter (k : ℕ) (peers : List ℕ) : List Action :=
  (Network.Action.connect k (10 + k) (1 + k) (peers.erase k)).map .network ++
    [.takeEvent (peers.map PeerUid.ofNat), .send, .send] ++
    (Server.Action.take .actorMessage peers ++ Server.Action.take .actorMessage peers).map
      (.network ∘ .server)

/-- A line is typed at client `0` and handled by the loop. -/
def Action.type (line : String) (peers : List ℕ) : List Action :=
  List.map (.network ∘ .client 0) [.env (.sendMessageTcp 0 (.message line)), .next .actorMessage 0,
    .task (.tcpWriter .recv), .task (.tcpWriter (.operate true))] ++ .message 0 ::
    List.map (.network ∘ .server) ([.task (.tcpReader 0 .item), .task (.tcpReader 0 .send),
      .task (.tcpReader 0 .flush)] ++ Server.Action.take (.tcpReader 0) peers) ++
    [.takeEvent (peers.map PeerUid.ofNat), .send] ++
    (Server.Action.take .actorMessage peers).map (.network ∘ .server)

/-- The second of two clients has read the first of two lines that were typed at the first. -/
theorem Run.chatted_of_two : ∃ hist s, Run hist s ∧ s.owners = [0, 1] ∧
    typed hist 0 = ["hi", "ho"] ∧ s.read 1 = [⟨⟨"User 1"⟩, "hi"⟩] ∧ Chatted hist s := by
  have h : Run _ _ := TransitionSystem.run_of_exec (T := system) (s := .start .release ⟨4⟩)
    (l := Action.enter 0 [0] ++ Action.enter 1 [0, 1] ++ Action.type "hi" [0, 1] ++
      Action.type "ho" [0, 1] ++ List.map .network (Network.Action.deliver 1 1 ++
        (List.replicate 3 (Network.Action.deliver 1 1 ++
          List.map (.client 1) [.send 0, .flush 0])).flatten))
    ⟨.release, ⟨4⟩, rfl⟩ rfl
  exact ⟨_, _, h, rfl, rfl, rfl, Run.chatted h (by decide)⟩

end NetStream.TcpChat.Chat
