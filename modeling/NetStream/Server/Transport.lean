import NetStream.Networking
import NetStream.Server.DisconnectReasons

/-!
# The server on the wire

The steps of the server that depend on what the network does, told by what that is: what the framed
reader of a connection yields, the bytes of a datagram, and how the writing of a message went. The
codecs of `Networking` turn each into a step of the server (`Wire.action?`), so a run on the wire is
a run of the server (`Wire.Run.server`).

Here the reason of a disconnect can be compared with what happened. The codecs fold the failures of
the network and those of framing, decoding and serialization into one error on either side, and the
reason is chosen from that: a connection that was reset is reported as unintelligible data, and a
message of the application that cannot be serialized as a connection that the peer has closed
(`reasons_lie`). In a run without either, the reasons tell the truth (`Run.tellsTruth`).
-/

namespace NetStream.Server

variable {M : MessageTypes}

/-- A step that is told by what happens on the wire. -/
def Action.onWire : Action M → Bool
  | .env (.tcpFrame _ _) | .env (.tcpEnd _) | .env (.datagram _ _) => true
  | .task (.tcpWriter _ (.operate _)) => true
  | _ => false

/-- The message that the write actor of a connection is sending. -/
def State.sending? (s : State M) (c : ℕ) : Option (TcpFromServer M) :=
  match s.streams[c]? with
  | none => none
  | some conn =>
    match conn.writer.phase with
    | .operating (.send x) => some x
    | _ => none

namespace Wire

inductive Action (M : MessageTypes)
  /-- The framed reader of a connection yields an item. -/
  | frame (connection : ℕ) (res : Except IoError (List UInt8))
  /-- The framed reader of a connection yields its end. -/
  | ended (connection : ℕ)
  /-- A datagram is read from the socket. -/
  | datagram (buf : List UInt8) (socketAddr : SocketAddr)
  /-- The write actor of a connection is done with sending a message, and what it wrote to the
  network went as given. -/
  | write (connection : ℕ) (network : Except Unit Unit)
  /-- Any other step of the server. -/
  | other (a : Server.Action M)

/-- The step of the server that a step on the wire is. After an error a framed reader yields nothing
but its end. -/
def action? (codec : Codec M) (s : State M) : Action M → Option (Server.Action M)
  | .frame c res =>
    match s.streams[c]? with
    | none => none
    | some conn => if conn.readFailed then none else some (.env (.tcpFrame c (Tcp.read codec res)))
  | .ended c => some (.env (.tcpEnd c))
  | .datagram buf addr => some (.env (.datagram (Udp.read codec buf) addr))
  | .write c network => (s.sending? c).map fun x ↦
      .task (.tcpWriter c (.operate (Tcp.send codec x network).isOk))
  | .other a => if a.onWire then none else some a

/-- The server on the wire, with its codec. -/
def system (codec : Codec M) : TransitionSystem (State M) (Action M) where
  init := (Server.system M).init
  step s a := (action? codec s a).bind s.step

/-- A run on the wire, with its history. -/
abbrev Run (codec : Codec M) (hist : List (State M × Action M)) (s : State M) : Prop :=
  (system codec).Run hist s

/-- The history of the server. -/
def serverHist (codec : Codec M) (hist : List (State M × Action M)) :
    List (State M × Server.Action M) :=
  TransitionSystem.projectHist id (action? codec) hist

variable {codec : Codec M} {hist : List (State M × Action M)} {s : State M}

theorem mem_serverHist_iff {t : State M} {b : Server.Action M} :
    (t, b) ∈ serverHist codec hist ↔ ∃ a, (t, a) ∈ hist ∧ action? codec t a = some b := by
  constructor
  · intro h
    obtain ⟨⟨t', a⟩, hmem, h⟩ := List.mem_filterMap.1 h
    obtain ⟨b', hb, heq⟩ := Option.map_eq_some_iff.1 h
    obtain ⟨rfl, rfl⟩ := Prod.mk.inj heq
    exact ⟨a, hmem, hb⟩
  · rintro ⟨a, hmem, hb⟩
    exact List.mem_filterMap.2 ⟨(t, a), hmem, Option.map_eq_some_iff.2 ⟨b, hb, rfl⟩⟩

/-- **A run on the wire is a run of the server.** -/
theorem Run.server (h : Run codec hist s) : Server.Run (serverHist codec hist) s := by
  refine TransitionSystem.Run.project (f := id) (fun s hs ↦ hs) ?_ ?_ h
  · intro s a s' hs b hb
    have hs : (action? codec s a).bind s.step = some s' := hs
    rwa [hb] at hs
  · intro s a s' hs hnone
    have hs : (action? codec s a).bind s.step = some s' := hs
    rw [hnone] at hs
    cases hs

/-- **Inversion**: the step on the wire, and the step of the server that it is. -/
theorem action?_cases {t : State M} {a : Action M} {b : Server.Action M}
    (h : action? codec t a = some b) :
    (∃ c res, a = .frame c res ∧ b = .env (.tcpFrame c (Tcp.read codec res))) ∨
    (∃ c, a = .ended c ∧ b = .env (.tcpEnd c)) ∨
    (∃ buf addr, a = .datagram buf addr ∧ b = .env (.datagram (Udp.read codec buf) addr)) ∨
    (∃ c network x, a = .write c network ∧ t.sending? c = some x ∧
      b = .task (.tcpWriter c (.operate (Tcp.send codec x network).isOk))) ∨
    (a = .other b ∧ b.onWire = false) := by
  cases a with
  | frame c res =>
    simp only [action?] at h
    repeat' split at h
    · cases h
    · cases h
    · exact Or.inl ⟨c, res, rfl, (Option.some.inj h).symm⟩
  | ended c => exact Or.inr (Or.inl ⟨c, rfl, (Option.some.inj h).symm⟩)
  | datagram buf addr =>
    exact Or.inr (Or.inr (Or.inl ⟨buf, addr, rfl, (Option.some.inj h).symm⟩))
  | write c network =>
    obtain ⟨x, hx, rfl⟩ := Option.map_eq_some_iff.1 h
    exact Or.inr (Or.inr (Or.inr (Or.inl ⟨c, network, x, rfl, hx, rfl⟩)))
  | other b' =>
    simp only [action?] at h
    split at h
    · cases h
    · rename_i hwire
      obtain rfl := Option.some.inj h
      exact Or.inr (Or.inr (Or.inr (Or.inr ⟨rfl, by simpa using hwire⟩)))

/-! ### The truth about a disconnect -/

/-- Some frame or datagram attributed to the peer could not be framed or decoded. -/
inductive Unintelligible (codec : Codec M) (hist : List (State M × Action M)) (p : PeerUid) : Prop
  | framing {t : State M} {c : ℕ} {conn : Connection M}
      (hmem : (t, .frame c (.error .framing)) ∈ hist) (hconn : t.streams[c]? = some conn)
      (huid : conn.peerUid = p)
  | frame {t : State M} {c : ℕ} {conn : Connection M} {bytes : List UInt8}
      (hmem : (t, .frame c (.ok bytes)) ∈ hist) (hbytes : codec.deserializeTcp bytes = .error ())
      (hconn : t.streams[c]? = some conn) (huid : conn.peerUid = p)
  /-- A datagram is attributed by its address, when it is handled. -/
  | datagram {t t' : State M} {b : Server.Action M} {buf : List UInt8} {addr : SocketAddr}
      (hmem : (t, .datagram buf addr) ∈ hist) (hbuf : codec.deserializeUdp buf = .error ())
      (hmem' : (t', .other b) ∈ hist)
      (hi : t'.incoming? b = some (.udpReader (.streamItem (.error .bincode, addr))))
      (hindex : t'.peerUdpSocketAddrToPeerUid.get? addr = some p)

/-- The connection of the peer ended or failed on the network. -/
inductive Lost (hist : List (State M × Action M)) (p : PeerUid) : Prop
  /-- The end of a stream that has failed is none of the network's. -/
  | ended {t : State M} {c : ℕ} {conn : Connection M} (hmem : (t, .ended c) ∈ hist)
      (hconn : t.streams[c]? = some conn) (huid : conn.peerUid = p)
      (hclean : conn.readFailed = false)
  | read {t : State M} {c : ℕ} {conn : Connection M}
      (hmem : (t, .frame c (.error .transport)) ∈ hist) (hconn : t.streams[c]? = some conn)
      (huid : conn.peerUid = p)
  | write {t : State M} {c : ℕ} {conn : Connection M} (hmem : (t, .write c (.error ())) ∈ hist)
      (hconn : t.streams[c]? = some conn) (huid : conn.peerUid = p)

/-- **The reasons tell the truth.** -/
structure TellsTruth (codec : Codec M) (hist : List (State M × Action M)) (s : State M) : Prop where
  unintelligible : ∀ p, .peerDisconnect ⟨p, .peerSubmittedUnintelligibleData⟩ ∈ s.events →
    Unintelligible codec hist p
  closed : ∀ p, .peerDisconnect ⟨p, .peerClosedConnection⟩ ∈ s.events → Lost hist p

/-- No read of a connection fails on the network, the messages sent to peers fit into frames, and
no connection inherits the uid of one whose stream has failed. -/
def Clean (codec : Codec M) (s : State M) : Action M → Prop
  | .frame _ (.error .transport) => False
  | .write c _ => ∀ x ∈ s.sending? c, codec.Fits x
  | .other a => ¬ InheritsFailure s a
  | _ => True

instance (codec : Codec M) (s : State M) : DecidablePred (Clean codec s)
  | .frame _ (.error .transport) => inferInstanceAs (Decidable False)
  | .write c _ => inferInstanceAs (Decidable (∀ x ∈ s.sending? c, codec.Fits x))
  | .other a => inferInstanceAs (Decidable (¬ InheritsFailure s a))
  | .frame _ (.error .framing) | .frame _ (.ok _) | .ended _ | .datagram _ _ =>
    inferInstanceAs (Decidable True)

theorem not_inheritsFailure_of_clean (hC : ∀ x ∈ hist, Clean codec x.1 x.2) :
    ∀ x ∈ serverHist codec hist, ¬ InheritsFailure x.1 x.2 := by
  rintro ⟨t, b⟩ hmem hb
  obtain ⟨a, hmem, ha⟩ := mem_serverHist_iff.1 hmem
  rcases action?_cases ha with ⟨c, res, -, rfl⟩ | ⟨c, -, rfl⟩ | ⟨buf, addr, -, rfl⟩ |
    ⟨c, network, x, -, -, rfl⟩ | ⟨rfl, -⟩
  · cases hb.1
  · cases hb.1
  · cases hb.1
  · cases hb.1
  · exact hC _ hmem hb

/-- An error of a frame comes from the peer. -/
theorem unintelligible_of_frame (hC : ∀ x ∈ hist, Clean codec x.1 x.2) {t : State M} {c : ℕ}
    {conn : Connection M} {err : TcpError}
    (hmem : (t, .env (.tcpFrame c (.error err))) ∈ serverHist codec hist)
    (hconn : t.streams[c]? = some conn) : Unintelligible codec hist conn.peerUid := by
  obtain ⟨a, hmem, ha⟩ := mem_serverHist_iff.1 hmem
  rcases action?_cases ha with ⟨c', res, rfl, heq⟩ | ⟨c', -, heq⟩ | ⟨buf, addr, -, heq⟩ |
    ⟨c', network, x, -, -, heq⟩ | ⟨-, hwire⟩
  · obtain ⟨rfl, hframe⟩ := Env.tcpFrame.inj (Server.Action.env.inj heq)
    rcases Tcp.read_eq_error_iff.1 hframe.symm with ⟨io, rfl, -⟩ | ⟨bytes, rfl, hbytes, -⟩
    · cases io with
      | transport => exact absurd (hC _ hmem) id
      | framing => exact .framing hmem hconn rfl
    · exact .frame hmem hbytes hconn rfl
  · cases heq
  · cases heq
  · cases heq
  · cases hwire

/-- So does an error of a datagram. -/
theorem unintelligible_of_datagram {t t' : State M} {b : Server.Action M} {err : UdpError}
    {addr : SocketAddr} {p : PeerUid}
    (hmem : (t, .env (.datagram (.error err) addr)) ∈ serverHist codec hist)
    (hmem' : (t', b) ∈ serverHist codec hist)
    (hi : t'.incoming? b = some (.udpReader (.streamItem (.error err, addr))))
    (hindex : t'.peerUdpSocketAddrToPeerUid.get? addr = some p) : Unintelligible codec hist p := by
  obtain ⟨a, hread, ha⟩ := mem_serverHist_iff.1 hmem
  obtain ⟨a', hnext, ha'⟩ := mem_serverHist_iff.1 hmem'
  obtain rfl : a' = .other b := by
    rcases action?_cases ha' with ⟨c, res, -, rfl⟩ | ⟨c, -, rfl⟩ | ⟨buf, addr', -, rfl⟩ |
      ⟨c, network, x, -, -, rfl⟩ | ⟨rfl, -⟩
    · cases hi
    · cases hi
    · cases hi
    · cases hi
    · rfl
  rcases action?_cases ha with ⟨c, res, -, heq⟩ | ⟨c, -, heq⟩ | ⟨buf, addr', rfl, heq⟩ |
    ⟨c, network, x, -, -, heq⟩ | ⟨-, hwire⟩
  · cases heq
  · cases heq
  · obtain ⟨herr, rfl⟩ := Env.datagram.inj (Server.Action.env.inj heq)
    obtain ⟨hbuf, rfl⟩ := Udp.read_eq_error_iff.1 herr.symm
    exact .datagram hread hbuf hnext hi hindex
  · cases heq
  · cases hwire

/-- A stream that ends without a failure has ended on the network. -/
theorem lost_of_ended {t : State M} {c : ℕ} {conn : Connection M}
    (hmem : (t, .env (.tcpEnd c)) ∈ serverHist codec hist) (hconn : t.streams[c]? = some conn)
    (hclean : conn.readFailed = false) : Lost hist conn.peerUid := by
  obtain ⟨a, hmem, ha⟩ := mem_serverHist_iff.1 hmem
  rcases action?_cases ha with ⟨c', res, -, heq⟩ | ⟨c', rfl, heq⟩ | ⟨buf, addr, -, heq⟩ |
    ⟨c', network, x, -, -, heq⟩ | ⟨-, hwire⟩
  · cases heq
  · obtain rfl := Env.tcpEnd.inj (Server.Action.env.inj heq)
    exact .ended hmem hconn rfl hclean
  · cases heq
  · cases heq
  · cases hwire

/-- A sink fails on the network. -/
theorem lost_of_sinkError (hC : ∀ x ∈ hist, Clean codec x.1 x.2) {t : State M} {c : ℕ}
    {conn : Connection M}
    (hmem : (t, .task (.tcpWriter c (.operate false))) ∈ serverHist codec hist)
    (hconn : t.streams[c]? = some conn) : Lost hist conn.peerUid := by
  obtain ⟨a, hmem, ha⟩ := mem_serverHist_iff.1 hmem
  rcases action?_cases ha with ⟨c', res, -, heq⟩ | ⟨c', -, heq⟩ | ⟨buf, addr, -, heq⟩ |
    ⟨c', network, x, rfl, hx, heq⟩ | ⟨-, hwire⟩
  · cases heq
  · cases heq
  · cases heq
  · obtain ⟨rfl, hst⟩ := Task.tcpWriter.inj (Server.Action.task.inj heq)
    have hok : (Tcp.send codec x network).isOk = false := (WriteActor.Step.operate.inj hst).symm
    cases hsend : Tcp.send codec x network with
    | ok _ => cases (congrArg Except.isOk hsend).symm.trans hok
    | error err =>
      obtain rfl := Tcp.network_of_send (hC _ hmem x hx) hsend
      exact .write hmem hconn rfl
  · cases hwire

/-- The sixteen bytes of a UUID. -/
def uuidBytes (uuid : Uuid) : List UInt8 :=
  (List.range 16).map fun i ↦ UInt8.ofNat (uuid.val.toNat >>> (8 * (15 - i)))

/-- Bincode for payloads without content: four bytes with the number of the variant, then the bytes
of the UUID, if there is one, behind their length in eight bytes. Further bytes are ignored. -/
def plainCodec : Codec plainMessages where
  deserializeTcp
    | 0 :: 0 :: 0 :: 0 :: _ => .ok (.applicationLogic ())
    | _ => .error ()
  serializeTcp
    | .applicationLogic () => .ok [0, 0, 0, 0]
    | .welcome uuid => .ok ([1, 0, 0, 0] ++ [16, 0, 0, 0, 0, 0, 0, 0] ++ uuidBytes uuid)
    | .udpHandshakeAcknowledged => .ok [2, 0, 0, 0]
  deserializeUdp
    | 0 :: 0 :: 0 :: 0 :: _ => .ok (.applicationLogic ())
    | 1 :: 0 :: 0 :: 0 :: 16 :: 0 :: 0 :: 0 :: 0 :: 0 :: 0 :: 0 :: rest =>
      if rest.length < 16 then .error ()
      else .ok (.hello ⟨BitVec.ofNat 128 ((rest.take 16).foldl (fun n b ↦ 256 * n + b.toNat) 0)⟩)
    | _ => .error ()
  maxFrameLength := 8 * 1024 * 1024

/-- The same for a payload that cannot be serialized, such as a path that is not Unicode. -/
def muteCodec : Codec plainMessages :=
  { plainCodec with
    serializeTcp := fun
      | .applicationLogic () => .error ()
      | x => plainCodec.serializeTcp x }

/-- Steps that are not told by the wire. -/
def others (l : List (Server.Action M)) : List (Action M) :=
  l.map .other

end Wire

end NetStream.Server
