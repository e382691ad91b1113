import NetStream.Server.Lifecycle

/-!
# The chat server

`server` of `examples/tcp-chat/main.rs`: a chat room on top of the server. It keeps who is in the
room and the latest messages, and answers each event of the server with commands to it.

`handleEvent` is the body of its loop. It returns the commands in the order in which they are given;
giving them is the business of `TcpChat.System`, because other tasks may run in between. The state
of the room is a local variable of the loop, so it makes no difference that it is brought up to date
before the first command and not between two.
-/

namespace NetStream.TcpChat

open Server (PeerUid)

/-- Messages from a peer to the chat server. -/
inductive FromPeerToServer
  /-- Send message to chat room. -/
  | message (s : String)
  deriving DecidableEq

structure User where
  name : String
  deriving DecidableEq

structure Message where
  from_ : User
  message : String
  deriving DecidableEq

/-- Welcome message received upon connecting to the server. -/
structure WelcomeMessage where
  yourName : String
  /-- Who is in the chat room. -/
  connectedUsers : List User
  /-- List of recent messages for some history. -/
  latestMessages : List Message
  deriving DecidableEq

inductive FromServerToPeer
  /-- Welcome message. -/
  | welcome (msg : WelcomeMessage)
  /-- New user connected. -/
  | userConnect (user : User)
  /-- User disconnected. -/
  | userDisconnect (user : User)
  /-- New message. -/
  | newMessage (msg : Message)
  deriving DecidableEq

/-- The payloads of the chat. No UDP messages are used. -/
abbrev messageTypes : MessageTypes :=
  ⟨FromPeerToServer, FromServerToPeer, Unit, Unit⟩

/-- An event of the server. -/
abbrev Event :=
  Server.Event messageTypes

/-- A command to the server. -/
abbrev Command :=
  Server.Message messageTypes

structure ServerState where
  /-- The connected users at any time. -/
  connectedUsers : HashMap PeerUid User
  /-- The latest messages, oldest first. -/
  messages : List Message
  /-- Counter incremented for each user that connects. It is a `usize` of 64 bits. -/
  userCounter : ℕ

/-- The places where the chat server panics. -/
inductive PanicSite
  /-- The overflow of the user counter. -/
  | userCounterOverflow
  /-- `connected_users.get(&from).unwrap()`. -/
  | senderUnknown
  /-- `connected_users.remove(&peer_uid).unwrap()`. -/
  | leaverUnknown
  /-- `Actor is not accepting any new messages`. -/
  | actorGone
  deriving DecidableEq

namespace ServerState

/-- `ServerState::default()`. -/
def default : ServerState where
  connectedUsers := .new
  messages := []
  userCounter := 0

/-- `state.user_counter += 1`; `none` where the addition panics. -/
def nextCounter (profile : Profile) (st : ServerState) : Option ℕ :=
  if profile.overflowChecks = true ∧ st.userCounter + 1 = 2 ^ 64 then none
  else some ((st.userCounter + 1) % 2 ^ 64)

end ServerState

/-- The name given to the user with this number. -/
def userName (n : ℕ) : String :=
  "User " ++ toString n

/-- `while state.messages.len() > 10 { state.messages.pop_front(); }` -/
def dropOldest : List Message → List Message
  | [] => []
  | m :: rest => if (m :: rest).length > 10 then dropOldest rest else m :: rest

/-- The body of the loop for one event: the state after it and the commands, in order. For a new
peer, `order` is an order in which the map of users is iterated with the new one in it. -/
def handleEvent (profile : Profile) (st : ServerState) (order : List PeerUid) :
    Event → Except PanicSite (ServerState × List Command)
  | .newPeer newPeer =>
    match st.nextCounter profile with
    | none => .error .userCounterOverflow
    | some userCounter =>
      -- Give the user a username.
      let user : User := ⟨userName userCounter⟩
      let connectedUsers := st.connectedUsers.insert newPeer.peerUid user
      let welcomeMsg : WelcomeMessage :=
        { yourName := user.name
          connectedUsers := order.filterMap connectedUsers.get?
          latestMessages := st.messages }
      .ok ({ st with userCounter := userCounter, connectedUsers := connectedUsers },
        [.toPeerTcp newPeer.peerUid (.welcome welcomeMsg), .announceTcp (.userConnect user)])
  | .tcpMessage tcpMessage =>
    match st.connectedUsers.get? tcpMessage.from_ with
    | none => .error .senderUnknown
    | some user =>
      match tcpMessage.message with
      | .message s =>
        let message : Message := ⟨user, s⟩
        -- Don't keep more than 10 messages.
        .ok ({ st with messages := dropOldest (st.messages ++ [message]) },
          [.announceTcp (.newMessage message)])
  | .peerDisconnect peerDisconnect =>
    match st.connectedUsers.get? peerDisconnect.peerUid with
    | none => .error .leaverUnknown
    | some user =>
      .ok ({ st with connectedUsers := st.connectedUsers.remove peerDisconnect.peerUid },
        [.announceTcp (.userDisconnect user)])
  | .udpMessage _ => .ok (st, [])

/-- The latest ten. -/
def latest (l : List Message) : List Message :=
  l.drop (l.length - 10)

theorem dropOldest_eq_latest (l : List Message) : dropOldest l = latest l := by
  induction l with
  | nil => rfl
  | cons m rest ih =>
    rw [dropOldest, latest]
    split
    · rename_i hlong
      have hsucc : (m :: rest).length - 10 = rest.length - 10 + 1 := by
        simp only [List.length_cons] at hlong ⊢
        omega
      rw [ih, latest, hsucc, List.drop_succ_cons]
    · rename_i hshort
      rw [Nat.sub_eq_zero_of_le (Nat.le_of_not_lt hshort), List.drop_zero]

/-- To keep the latest ten of what was kept and one more is to keep the latest ten of all. -/
theorem latest_append_singleton (l : List Message) (m : Message) :
    latest (latest l ++ [m]) = latest (l ++ [m]) := by
  simp only [latest, List.length_append, List.length_drop, List.length_singleton]
  rcases Nat.lt_or_ge l.length 10 with hlt | hge
  · have hzero : l.length - 10 = 0 := by omega
    rw [hzero, List.drop_zero, Nat.sub_zero]
  · have hten : l.length - (l.length - 10) + 1 - 10 = 1 := by omega
    have hmore : l.length + 1 - 10 = (l.length - 10) + 1 := by omega
    rw [hten, hmore, List.drop_append_of_le_length (by rw [List.length_drop]; omega),
      List.drop_append_of_le_length (by omega), List.drop_drop]

/-- Different users have different names. -/
theorem userName_inj {m n : ℕ} (h : userName m = userName n) : m = n := by
  have hlist := congrArg String.toList h
  simp only [userName, String.toList_append] at hlist
  have hdigits : m.repr.toList = n.repr.toList := List.append_cancel_left hlist
  calc m = Nat.ofDigitChars 10 m.repr.toList 0 := by simp
    _ = Nat.ofDigitChars 10 n.repr.toList 0 := by rw [hdigits]
    _ = n := by simp

end NetStream.TcpChat
