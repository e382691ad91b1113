import NetStream.Network.Addresses
import NetStream.Network.Delivery

/-!
# The connections of many clients

`Network.System` leaves open what the server reads from a connection. Here it is what the client at
the other end sends (`FramesArrive`): its messages in order, as on the single connection of
`Network.Link`, until the connection fails. The argument is the same for each connection
(`Link.Carries`), whatever happens on the others, and so no peer's messages are another client's
(`Run.tcpMessagesFrom_isPrefix`).
-/

namespace NetStream.Network

open Client (acceptedTcp)
open Server (tcpMessagesFrom applicationMessage?)

variable {M : MessageTypes} {hist : List (State M × Action M)} {s s' : State M}

/-- The next message of its client to arrive on a connection. -/
def State.nextMessage? (s : State M) (c : ℕ) : Option (TcpToServer M) := do
  let k ← s.owners[c]?
  let conn ← s.server.streams[c]?
  if conn.readFailed then none
  else (WriteActor.items (s.clientOf k).tcpWriteActor.actorMsg.taken)[conn.reader.stream.sent.length]?

/-- What can be read from a connection: the next message of its client, or a failure. -/
inductive State.Arrives (s : State M) (c : ℕ) : Except TcpError (TcpToServer M) → Prop
  | message {msg : TcpToServer M} (h : s.nextMessage? c = some msg) : Arrives s c (.ok msg)
  | failure : Arrives s c (.error .io)

/-- A frame that is read comes from the client at the other end. -/
def FramesArrive (s : State M) (a : Action M) : Prop :=
  ∀ c frame, s.serverAction a = some (.env (.tcpFrame c frame)) → s.Arrives c frame

theorem nextMessage?_eq_some_iff {c : ℕ} {msg : TcpToServer M} :
    s.nextMessage? c = some msg ↔ ∃ k conn, s.owners[c]? = some k ∧
      s.server.streams[c]? = some conn ∧ conn.readFailed = false ∧
      (WriteActor.items (s.clientOf k).tcpWriteActor.actorMsg.taken)[
        conn.reader.stream.sent.length]? = some msg := by
  simp only [State.nextMessage?, Option.bind_eq_bind, Option.bind_eq_some_iff,
    Option.ite_none_left_eq_some, Bool.not_eq_true]
  constructor
  · rintro ⟨k, hk, conn, hconn, hfailed, hmsg⟩
    exact ⟨k, conn, hk, hconn, hfailed, hmsg⟩
  · rintro ⟨k, conn, hk, hconn, hfailed, hmsg⟩
    exact ⟨k, hk, conn, hconn, hfailed, hmsg⟩

/-- Each connection carries what its client sends; of its end nothing is said. -/
def State.CarriesTcp (s : State M) : Prop :=
  ∀ (c k : ℕ) conn, s.owners[c]? = some k → s.server.streams[c]? = some conn →
    Link.Carries False (s.clientOf k) conn

/-- The server takes a step, and the clients have not moved. -/
theorem State.CarriesTcp.server (h : s.CarriesTcp) (hn : s.server.registry.Numbered)
    (hlen : s.owners.length = s.server.streams.length) {b : Server.Action M}
    (hs : s.server.step b = some s'.server) (howners : s.owners <+: s'.owners)
    (hframes : ∀ c frame, b = .env (.tcpFrame c frame) → s.Arrives c frame) {c k : ℕ}
    {conn : Server.Connection M} (hk : s'.owners[c]? = some k)
    (hconn : s'.server.streams[c]? = some conn) : Link.Carries False (s.clientOf k) conn := by
  rcases Nat.lt_or_ge c s.server.streams.length with hlt | hge
  · have hold : s.owners[c]? = some k := by
      obtain ⟨more, hmore⟩ := howners
      rwa [← hmore, List.getElem?_append_left (hlen.symm ▸ hlt)] at hk
    obtain ⟨old, hconn', hsteps⟩ := Server.State.exists_connection_of_step hn hs hlt hconn
    have hcarries := h c k old hold hconn'
    rcases hsteps.stream with ⟨hsent, halive⟩ | ⟨frame, rfl, halive, hsent, halive'⟩ | ⟨rfl, hsent⟩
    · exact hcarries.same hsent halive
    · cases hframes c frame rfl with
      | message hmsg =>
        obtain ⟨k', conn', hk', hsame, hfailed, hmsg⟩ := nextMessage?_eq_some_iff.1 hmsg
        obtain rfl := Option.some.inj (hk'.symm.trans hold)
        obtain rfl := Option.some.inj (hsame.symm.trans hconn')
        exact hcarries.message hfailed halive hmsg hsent halive'
      | failure => exact hcarries.failure hsent
    · refine ⟨?_, fun hfailed ↦ ?_, nofun⟩
      · rw [Server.Connection.decoded, hsent]
        exact hcarries.inOrder
      · rw [Server.Connection.readFailed, hsent] at hfailed
        rw [Server.Connection.decoded, hsent]
        exact hcarries.whole hfailed
  · obtain ⟨p, htouch⟩ := Server.State.exists_spawn_of_step hn hs hge hconn
    have hstream := htouch.stream_phase.1
    exact .of_new (by rw [hstream]; rfl) (by rw [hstream]; rfl)

/-- **Each connection carries what its client sends**, in every run. -/
theorem Run.carriesTcp (h : Run hist s) (hframes : ∀ x ∈ hist, FramesArrive x.1 x.2) :
    s.CarriesTcp := by
  induction h with
  | start h =>
    obtain ⟨profile, config, rfl⟩ := h
    exact fun c k conn hk ↦ by cases hk
  | @next hist s s' a h hs ih =>
    have hcarries := ih fun x hx ↦ hframes x (List.mem_append_left _ hx)
    intro c k conn hk hconn
    have hstepped : Link.Carries False (s.clientOf k) conn := by
      cases hb : s.serverAction a with
      | none =>
        rw [owners_eq_of_step hs hb] at hk
        rw [server_eq_of_step hs hb] at hconn
        exact hcarries c k conn hk hconn
      | some b =>
        refine hcarries.server (Server.Run.numbered (Run.server h)) (Run.wired h).length_owners
          (server_step hs hb) (owners_isPrefix_of_step hs) (fun i frame hframe ↦ ?_) hk hconn
        exact hframes (s, a) (List.mem_append_right _ (List.mem_singleton_self _)) i frame
          (hframe ▸ hb)
    rcases client_step hs k with ⟨-, hsame⟩ | ⟨b, -, hclient⟩
    · rw [hsame]
      exact hstepped
    · exact hstepped.step (Run.client h k).forwarding hclient

/-- **A client's messages over TCP** are what the server's application hears of its peer: in order,
without a gap, and nothing else. -/
theorem Run.tcpMessagesFrom_isPrefix (h : Run hist s)
    (hframes : ∀ x ∈ hist, FramesArrive x.1 x.2) {c k : ℕ} (howner : s.owners[c]? = some k)
    (hsole : s.server.SoleUid c) :
    tcpMessagesFrom (.ofNat c) s.server.events <+: acceptedTcp (clientHist k hist) := by
  have hserver := Run.server h
  have hforwarding := (Run.client h k).forwarding
  obtain ⟨hlt, -⟩ := List.getElem?_eq_some_iff.1 howner
  obtain ⟨conn, hconn⟩ : ∃ conn, s.server.streams[c]? = some conn :=
    ⟨_, List.getElem?_eq_getElem ((Run.wired h).length_owners ▸ hlt)⟩
  have hcarries := Run.carriesTcp h hframes c k conn howner hconn
  obtain ⟨items, hitems, -, hmsgs⟩ := hserver.exists_taken hsole
  obtain ⟨frames, hframes, rfl⟩ :=
    List.prefix_map_iff.1 (hitems.trans (hserver.takenFrames_isPrefix hconn))
  have htaken : WriteActor.items (s.clientOf k).tcpWriteActor.actorMsg.taken <+:
      WriteActor.items (s.clientOf k).tcpWriteActor.actorMsg.sent := by
    rw [← Channel.taken_append_queue, WriteActor.items_append]
    exact List.prefix_append _ _
  obtain ⟨l, hl, hdecoded⟩ := List.prefix_map_iff.1
    ((hcarries.inOrder.trans htaken).trans hforwarding.items_isPrefix)
  calc tcpMessagesFrom (.ofNat c) s.server.events
    _ = frames.filterMap applicationMessage? := by rw [hmsgs, Server.filterMap_message?_map]
    _ <+: conn.reader.stream.sent.filterMap applicationMessage? :=
        (hframes.trans (List.take_prefix _ _)).filterMap _
    _ = l := Server.Connection.filterMap_applicationMessage? hdecoded
    _ <+: acceptedTcp (clientHist k hist) := hl

end NetStream.Network
