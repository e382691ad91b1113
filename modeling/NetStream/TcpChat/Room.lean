import NetStream.Server.DeadConnections
import NetStream.Server.TcpWindow
import NetStream.TcpChat.System

/-!
# Who is in the room

What the chat server keeps is a function of the events that it has taken (`Attends`): in the room are
the peers that were announced and are not yet reported as disconnected, each under the number of its
announcement, and the messages kept are the latest ten of all.

That rests on the order of the server's events (`Regular`, from the account of the peers' lives), and
it is where one of them breaks the order that the chat server comes to its end: the sender of a
message over TCP may be reported as disconnected before it, and then the loop panics
(`Run.attendance`, `Run.endings`).
-/

namespace NetStream.TcpChat

open Server (PeerUid newPeers peerDisconnects connectedPeers DisconnectAnnounced TcpAnnounced
  TcpInWindow)

/-- The user that a peer is. -/
def userOf (p : PeerUid) : User :=
  ⟨userName (p.toNat + 1)⟩

/-- The message that an event carries to the room. -/
def said : Event → Option Message
  | .tcpMessage msg =>
    match msg.message with
    | .message s => some ⟨userOf msg.from_, s⟩
  | _ => none

/-- All that was said in the room. -/
def conversation (log : List Event) : List Message :=
  log.filterMap said

theorem conversation_append_singleton (log : List Event) (ev : Event) :
    conversation (log ++ [ev]) = conversation log ++ (said ev).toList :=
  List.filterMap_append_singleton said log ev

theorem userOf_inj {p q : PeerUid} (h : userOf p = userOf q) : p = q := by
  have hnum : p.toNat + 1 = q.toNat + 1 := userName_inj (User.mk.inj h)
  rw [← PeerUid.ofNat_toNat p, ← PeerUid.ofNat_toNat q, Nat.succ.inj hnum]

/-! ### The order of the events -/

/-- Peers are announced in the order of their numbers, and disconnects are reported once and of
announced peers. -/
structure Regular (log : List Event) : Prop where
  newPeers_eq : newPeers log = (List.range (newPeers log).length).map PeerUid.ofNat
  length_lt : (newPeers log).length < 2 ^ 64
  nodup : (peerDisconnects log).Nodup
  disconnects : EventLog.Justified DisconnectAnnounced log
  messages : EventLog.Justified TcpAnnounced log

namespace Regular

variable {log log' : List Event}

theorem of_isPrefix (h : Regular log) (hl : log' <+: log) : Regular log' := by
  have hnew : newPeers log' <+: newPeers log := hl.filterMap _
  have hlen := hnew.length_le
  refine ⟨?_, Nat.lt_of_le_of_lt hlen h.length_lt, h.nodup.sublist (hl.filterMap _).sublist,
    EventLog.Justified.of_isPrefix h.disconnects hl,
    EventLog.Justified.of_isPrefix h.messages hl⟩
  have htake := List.prefix_iff_eq_take.1 hnew
  rw [h.newPeers_eq, ← List.map_take, List.take_range, Nat.min_eq_left hlen] at htake
  exact htake

/-- The next peer has the next number. -/
theorem eq_ofNat_of_newPeer {p : PeerUid} (h : Regular (log ++ [.newPeer ⟨p⟩])) :
    p = .ofNat (newPeers log).length := by
  have heq := h.newPeers_eq
  rw [Server.newPeers_append, List.length_append] at heq
  have hone : newPeers [(.newPeer ⟨p⟩ : Event)] = [p] := rfl
  rw [hone, List.length_singleton, List.range_succ, List.map_append] at heq
  exact List.singleton_inj.1 (List.append_inj' heq rfl).2

theorem lt_of_newPeer {p : PeerUid} (h : Regular (log ++ [.newPeer ⟨p⟩])) :
    (newPeers log).length + 1 < 2 ^ 64 := by
  have hlt := h.length_lt
  rw [Server.newPeers_append, List.length_append] at hlt
  exact hlt

/-- A number that was not given yet is nobody's. -/
theorem ofNat_notMem_of_le (h : Regular log) {c : ℕ} (hle : (newPeers log).length ≤ c)
    (hlt : c < 2 ^ 64) : .ofNat c ∉ newPeers log := by
  rw [h.newPeers_eq, List.mem_map]
  rintro ⟨m, hm, heq⟩
  rw [List.mem_range] at hm
  have hmc := PeerUid.ofNat_inj (by omega) hlt heq
  omega

/-- A new peer was not there before. -/
theorem notMem_of_newPeer {p : PeerUid} (h : Regular (log ++ [.newPeer ⟨p⟩])) :
    p ∉ newPeers log := by
  have hlt := h.lt_of_newPeer
  rw [h.eq_ofNat_of_newPeer]
  exact (h.of_isPrefix (List.prefix_append _ _)).ofNat_notMem_of_le (Nat.le_refl _) (by omega)

end Regular

section Server

variable {hist : List (Server.State messageTypes × Server.Action messageTypes)}
  {s : Server.State messageTypes}

/-- The server announces its connections, in the order in which it accepted them. -/
theorem newPeers_of_run (h : Server.Run hist s) (hopen : s.eventSender.receiverAlive = true)
    (hlt : s.streams.length < 2 ^ 64) :
    newPeers s.events = (List.range s.streams.length).map PeerUid.ofNat := by
  rw [← s.length_connections]
  exact (h.accounted hopen (Nat.le_of_lt hlt)).newPeers_eq.trans h.numbered.connections_eq

/-- **The server's events are regular.** -/
theorem regular_of_run (h : Server.Run hist s) (hopen : s.eventSender.receiverAlive = true)
    (hlt : s.streams.length < 2 ^ 64) : Regular s.events := by
  have hacc := h.accounted hopen (Nat.le_of_lt hlt)
  have hnews := newPeers_of_run h hopen hlt
  have hlen : (newPeers s.events).length = s.streams.length := by
    rw [hnews, List.length_map, List.length_range]
  refine ⟨?_, hlen ▸ hlt, hacc.nodup, hacc.announced, h.tcpMessages_announced⟩
  rw [hlen, hnews]

end Server

/-! ### Attendance -/

/-- **What the chat server keeps** after these events. -/
structure Attends (st : ServerState) (log : List Event) : Prop where
  userCounter : st.userCounter = (newPeers log).length
  connected : ∀ p u, st.connectedUsers.get? p = some u ↔ p ∈ connectedPeers log ∧ u = userOf p
  messages : st.messages = latest (conversation log)

theorem attends_default : Attends .default [] where
  userCounter := rfl
  connected p u := by simp [ServerState.default, connectedPeers, newPeers]
  messages := rfl

namespace Attends

variable {st : ServerState} {log : List Event}

theorem get?_eq_none_iff (h : Attends st log) {p : PeerUid} :
    st.connectedUsers.get? p = none ↔ p ∉ connectedPeers log := by
  rw [Option.eq_none_iff_forall_ne_some]
  constructor
  · exact fun hnone hmem ↦ hnone (userOf p) ((h.connected p _).2 ⟨hmem, rfl⟩)
  · exact fun hnot u hu ↦ hnot ((h.connected p u).1 hu).1

theorem get?_of_mem (h : Attends st log) {p : PeerUid} (hp : p ∈ connectedPeers log) :
    st.connectedUsers.get? p = some (userOf p) :=
  (h.connected p _).2 ⟨hp, rfl⟩

/-- A new peer enters the room. -/
theorem newPeer (h : Attends st log) {p : PeerUid} (hreg : Regular (log ++ [.newPeer ⟨p⟩])) :
    Attends { st with
      userCounter := (newPeers log).length + 1
      connectedUsers := st.connectedUsers.insert p (userOf p) } (log ++ [.newPeer ⟨p⟩]) where
  userCounter := by
    rw [Server.newPeers_append, List.length_append]
    rfl
  connected q u := by
    have hbefore := hreg.of_isPrefix (List.prefix_append _ _)
    have hfresh := hreg.notMem_of_newPeer
    have hnot : p ∉ peerDisconnects log := fun hmem ↦
      hfresh (Server.mem_newPeers_of_mem_peerDisconnects hbefore.disconnects hmem)
    have hnews : newPeers (log ++ [.newPeer ⟨p⟩]) = newPeers log ++ [p] :=
      Server.newPeers_append _ _
    have hdiscs : peerDisconnects (log ++ [.newPeer ⟨p⟩]) = peerDisconnects log := by
      rw [Server.peerDisconnects_append]
      exact List.append_nil _
    rw [HashMap.get?_insert_eq_some_iff, h.connected q u, Server.mem_connectedPeers_iff,
      Server.mem_connectedPeers_iff, hnews, hdiscs, List.mem_append, List.mem_singleton]
    constructor
    · rintro (⟨rfl, rfl⟩ | ⟨-, ⟨hnew, hdisc⟩, rfl⟩)
      · exact ⟨⟨Or.inr rfl, hnot⟩, rfl⟩
      · exact ⟨⟨Or.inl hnew, hdisc⟩, rfl⟩
    · rintro ⟨⟨hnew | rfl, hdisc⟩, rfl⟩
      · exact Or.inr ⟨fun hqp ↦ hfresh (hqp ▸ hnew), ⟨hnew, hdisc⟩, rfl⟩
      · exact Or.inl ⟨rfl, rfl⟩
  messages := by
    rw [conversation_append_singleton]
    exact h.messages.trans (congrArg latest (List.append_nil _).symm)

/-- A peer leaves the room. -/
theorem peerDisconnect (h : Attends st log) (ev : Server.PeerDisconnect) :
    Attends { st with connectedUsers := st.connectedUsers.remove ev.peerUid }
      (log ++ [.peerDisconnect ev]) where
  userCounter := by
    rw [Server.newPeers_append]
    exact h.userCounter.trans (congrArg List.length (List.append_nil _).symm)
  connected q u := by
    have hnews : newPeers (log ++ [.peerDisconnect ev]) = newPeers log := by
      rw [Server.newPeers_append]
      exact List.append_nil _
    have hdiscs : peerDisconnects (log ++ [.peerDisconnect ev]) =
        peerDisconnects log ++ [ev.peerUid] :=
      Server.peerDisconnects_append _ _
    rw [HashMap.get?_remove_eq_some_iff, h.connected q u, Server.mem_connectedPeers_iff,
      Server.mem_connectedPeers_iff, hnews, hdiscs, List.mem_append, List.mem_singleton]
    tauto
  messages := by
    rw [conversation_append_singleton]
    exact h.messages.trans (congrArg latest (List.append_nil _).symm)

/-- Something else happens: the peers stay. -/
theorem of_quiet (h : Attends st log) {ev : Event} (hnew : ev.newPeer? = none)
    (hdisc : ev.peerDisconnect? = none) :
    Attends { st with messages := latest (conversation (log ++ [ev])) } (log ++ [ev]) := by
  have hnews : newPeers (log ++ [ev]) = newPeers log := by
    simp [newPeers, hnew]
  have hdiscs : peerDisconnects (log ++ [ev]) = peerDisconnects log := by
    simp [peerDisconnects, hdisc]
  refine ⟨by rw [hnews]; exact h.userCounter, fun p u ↦ ?_, rfl⟩
  rw [Server.mem_connectedPeers_iff, hnews, hdiscs, ← Server.mem_connectedPeers_iff]
  exact h.connected p u

/-! ### How an event is handled -/

variable (profile : Profile) (order : List PeerUid)

/-- The peer is welcomed with what is kept then, and announced. -/
theorem handleEvent_newPeer (h : Attends st log) {p : PeerUid}
    (hreg : Regular (log ++ [.newPeer ⟨p⟩])) :
    handleEvent profile st order (.newPeer ⟨p⟩) = .ok ({ st with
        userCounter := (newPeers log).length + 1
        connectedUsers := st.connectedUsers.insert p (userOf p) },
      [.toPeerTcp p (.welcome
        ⟨(userOf p).name, order.filterMap (st.connectedUsers.insert p (userOf p)).get?, st.messages⟩),
        .announceTcp (.userConnect (userOf p))]) := by
  have hlt := hreg.lt_of_newPeer
  have hcounter : st.nextCounter profile = some ((newPeers log).length + 1) := by
    rw [ServerState.nextCounter, h.userCounter, if_neg (by omega), Nat.mod_eq_of_lt hlt]
  have huser : userOf p = ⟨userName ((newPeers log).length + 1)⟩ := by
    rw [userOf, hreg.eq_ofNat_of_newPeer, PeerUid.toNat_ofNat (by omega)]
  rw [huser]
  simp only [handleEvent, hcounter]

/-- What a peer in the room says is announced and kept. -/
theorem handleEvent_tcpMessage (h : Attends st log) {msg : Server.PeerMessage FromPeerToServer}
    (hp : msg.from_ ∈ connectedPeers log) : ∃ m, said (.tcpMessage msg) = some m ∧
    handleEvent profile st order (.tcpMessage msg) = .ok
      ({ st with messages := latest (conversation (log ++ [.tcpMessage msg])) },
        [.announceTcp (.newMessage m)]) := by
  obtain ⟨p, ⟨text⟩⟩ := msg
  refine ⟨⟨userOf p, text⟩, rfl, ?_⟩
  have hkept : dropOldest (st.messages ++ [⟨userOf p, text⟩]) =
      latest (conversation (log ++ [.tcpMessage ⟨p, .message text⟩])) := by
    rw [dropOldest_eq_latest, h.messages, latest_append_singleton, conversation_append_singleton]
    rfl
  simp only [handleEvent, h.get?_of_mem hp, hkept]

/-- What comes from a peer that has left is not handled. -/
theorem handleEvent_tcpMessage_of_gone (h : Attends st log)
    {msg : Server.PeerMessage FromPeerToServer} (hp : msg.from_ ∉ connectedPeers log) :
    handleEvent profile st order (.tcpMessage msg) = .error .senderUnknown := by
  simp only [handleEvent, h.get?_eq_none_iff.2 hp]

/-- The peer that leaves is in the room until then. -/
theorem handleEvent_peerDisconnect (h : Attends st log) {ev : Server.PeerDisconnect}
    (hreg : Regular (log ++ [.peerDisconnect ev])) : ev.peerUid ∈ connectedPeers log ∧
    handleEvent profile st order (.peerDisconnect ev) = .ok
      ({ st with connectedUsers := st.connectedUsers.remove ev.peerUid },
        [.announceTcp (.userDisconnect (userOf ev.peerUid))]) := by
  have hannounced : ev.peerUid ∈ newPeers log :=
    hreg.disconnects log (.peerDisconnect ev) [] rfl _ rfl
  have honce : ev.peerUid ∉ peerDisconnects log := by
    have hnodup := hreg.nodup
    have hdiscs : peerDisconnects (log ++ [.peerDisconnect ev]) =
        peerDisconnects log ++ [ev.peerUid] :=
      Server.peerDisconnects_append _ _
    rw [hdiscs, List.nodup_append] at hnodup
    exact fun hmem ↦ hnodup.2.2 _ hmem _ (List.mem_singleton_self _) rfl
  have hp := Server.mem_connectedPeers_iff.2 ⟨hannounced, honce⟩
  refine ⟨hp, ?_⟩
  simp only [handleEvent, h.get?_of_mem hp]

/-- **An event is handled, or the loop panics at it**: exactly at a message from outside the window
of its sender. -/
theorem handleEvent_cases (h : Attends st log) {ev : Event} (hreg : Regular (log ++ [ev])) :
    (¬ TcpInWindow log ev ∧ handleEvent profile st order ev = .error .senderUnknown) ∨
    (TcpInWindow log ev ∧ ∃ st' commands,
      handleEvent profile st order ev = .ok (st', commands) ∧ Attends st' (log ++ [ev])) := by
  cases ev with
  | newPeer ev =>
    exact Or.inr ⟨by simp [TcpInWindow], _, _, h.handleEvent_newPeer profile order hreg, h.newPeer hreg⟩
  | peerDisconnect ev =>
    exact Or.inr ⟨by simp [TcpInWindow], _, _, (h.handleEvent_peerDisconnect profile order hreg).2,
      h.peerDisconnect ev⟩
  | udpMessage msg =>
    have hsame : latest (conversation (log ++ [.udpMessage msg])) = st.messages := by
      rw [conversation_append_singleton, h.messages]
      exact congrArg latest (List.append_nil _)
    have hquiet : Attends _ (log ++ [.udpMessage msg]) := h.of_quiet rfl rfl
    rw [hsame] at hquiet
    exact Or.inr ⟨by simp [TcpInWindow], st, [], rfl, hquiet⟩
  | tcpMessage msg =>
    have hwindow : TcpInWindow log (.tcpMessage msg) ↔ msg.from_ ∈ connectedPeers log := by
      rw [Server.mem_connectedPeers_iff]
      simp [TcpInWindow]
    by_cases hp : msg.from_ ∈ connectedPeers log
    · obtain ⟨m, -, hresult⟩ := h.handleEvent_tcpMessage profile order hp
      exact Or.inr ⟨hwindow.2 hp, _, _, hresult, h.of_quiet rfl rfl⟩
    · exact Or.inl ⟨fun hw ↦ hp (hwindow.1 hw), h.handleEvent_tcpMessage_of_gone profile order hp⟩

end Attends

/-! ### Runs -/

section Run

variable {hist : List (State × Action)} {s : State}

/-- Events are only added. -/
theorem events_isPrefix_of_step {s s' : Server.State messageTypes}
    {a : Server.Action messageTypes} (hs : s.step a = some s') : s.events <+: s'.events := by
  have hreg : s'.events = (s.registry.after (s.op a)).events :=
    congrArg Server.Registry.events (Server.State.registry_step hs)
  rw [hreg]
  exact Server.Registry.events_prefix_after s.registry (s.op a)

/-- The loop has taken no more events than there are. -/
theorem Run.handled_le (h : Run hist s) : s.handled ≤ s.server.events.length := by
  refine TransitionSystem.Run.invariant (T := system)
    (I := fun s ↦ s.handled ≤ s.server.events.length) ?_ ?_ h
  · rintro s ⟨profile, config, rfl⟩
    exact Nat.le_refl 0
  · intro s a s' hle hs
    rcases step_cases hs with ⟨b, server, pending, -, -, -, hserver, rfl⟩ |
      ⟨order, ev, -, -, hev, hhandle⟩ | ⟨command, rest, server, -, -, -, hsend, rfl⟩ |
      ⟨command, rest, -, -, -, rfl⟩ | ⟨-, -, -, -, rfl⟩
    · exact Nat.le_trans hle (events_isPrefix_of_step hserver).length_le
    · obtain ⟨hlt, -⟩ := List.getElem?_eq_some_iff.1 hev
      rcases handle_eq_some_iff.1 hhandle with ⟨site, -, rfl⟩ | ⟨chat, commands, -, -, rfl⟩
      · exact hlt
      · exact hlt
    · obtain ⟨-, rfl⟩ := Server.ActorHandle.send_eq_some_iff.1 hsend
      exact hle
    · exact hle
    · exact hle

/-- What the loop has taken does not change behind its back. -/
theorem consumed_of_server {server : Server.State messageTypes} {b : Server.Action messageTypes}
    (hle : s.handled ≤ s.server.events.length) (hs : s.server.step b = some server) :
    ({ s with server := server } : State).consumed = s.consumed := by
  obtain ⟨rest, hrest⟩ := events_isPrefix_of_step hs
  show server.events.take s.handled = s.server.events.take s.handled
  rw [← hrest, List.take_append_of_le_length hle]

/-- The next event is taken. -/
theorem take_handled_succ {ev : Event} (hev : s.server.events[s.handled]? = some ev) :
    s.server.events.take (s.handled + 1) = s.consumed ++ [ev] := by
  obtain ⟨hlt, rfl⟩ := List.getElem?_eq_some_iff.1 hev
  rw [List.take_succ_eq_append_getElem hlt, State.consumed]

/-- Handling an event gives no command yet, so it does not find the actor gone. -/
theorem handleEvent_ne_actorGone (profile : Profile) (st : ServerState) (order : List PeerUid)
    (ev : Event) : handleEvent profile st order ev ≠ .error .actorGone := by
  cases ev with
  | newPeer _ | tcpMessage _ | peerDisconnect _ =>
    intro h
    simp only [handleEvent] at h
    split at h <;> cases h
  | udpMessage _ =>
    intro h
    cases h

/-- Where the loop stands with the events that it has taken. -/
structure State.Settled (s : State) : Prop where
  attends : s.phase ≠ .panicked .senderUnknown → Attends s.chat s.consumed
  sites : ∀ site, s.phase = .panicked site → site = .senderUnknown ∨ site = .actorGone
  window : s.phase = .panicked .senderUnknown ↔ ¬ EventLog.Justified TcpInWindow s.consumed

/-- The loop has not panicked, and goes on or ends otherwise. -/
theorem State.Settled.of_phase {s s' : State} (h : s.Settled) (hchat : s'.chat = s.chat)
    (hconsumed : s'.consumed = s.consumed) (hs : s.phase ≠ .panicked .senderUnknown)
    (hs' : s'.phase ≠ .panicked .senderUnknown)
    (hsites : ∀ site, s'.phase = .panicked site → site = .actorGone) : s'.Settled where
  attends _ := by
    rw [hchat, hconsumed]
    exact h.attends hs
  sites site hp := Or.inr (hsites site hp)
  window := by
    rw [hconsumed]
    exact iff_of_false hs' fun hnot ↦ hs (h.window.2 hnot)

theorem State.settled_start (profile : Profile) (config : Server.Config) :
    (start profile config).Settled where
  attends _ := attends_default
  sites _ hp := by cases hp
  window := iff_of_false nofun fun hnot ↦ hnot EventLog.justified_nil

/-- An event is taken. -/
theorem State.Settled.handle {s s' : State} (h : s.Settled) (hphase : s.phase = .running [])
    {ev : Event} {order : List PeerUid} (hev : s.server.events[s.handled]? = some ev)
    (hreg : Regular (s.consumed ++ [ev])) (hhandle : s.handle ev order = some s') : s'.Settled := by
  have hrunning : s.phase ≠ .panicked .senderUnknown := by
    rw [hphase]
    exact nofun
  have hattends := h.attends hrunning
  have hbefore : EventLog.Justified TcpInWindow s.consumed := by
    by_contra hnot
    exact hrunning (h.window.2 hnot)
  have htaken := take_handled_succ hev
  rcases handle_eq_some_iff.1 hhandle with ⟨site, hresult, rfl⟩ |
    ⟨chat, commands, hresult, -, rfl⟩
  · rcases hattends.handleEvent_cases _ _ hreg with ⟨hnot, herror⟩ | ⟨-, st', commands, hok, -⟩
    · obtain rfl := Except.error.inj (hresult.symm.trans herror)
      refine { attends := fun hne ↦ absurd rfl hne, sites := ?_, window := iff_of_true rfl ?_ }
      · exact fun _ hp ↦ Or.inl (Phase.panicked.inj hp).symm
      · intro hjust
        rw [State.consumed, htaken, EventLog.justified_append_singleton_iff] at hjust
        exact hnot hjust.2
    · cases hresult.symm.trans hok
  · rcases hattends.handleEvent_cases _ _ hreg with ⟨-, herror⟩ | ⟨hwindow, st', commands', hok, hst'⟩
    · cases hresult.symm.trans herror
    · obtain ⟨rfl, rfl⟩ := Prod.mk.inj (Except.ok.inj (hresult.symm.trans hok))
      refine ⟨fun _ ↦ ?_, nofun, iff_of_false nofun fun hnot ↦ hnot ?_⟩
      · rw [State.consumed, htaken]
        exact hst'
      · rw [State.consumed, htaken, EventLog.justified_append_singleton_iff]
        exact ⟨hbefore, hwindow⟩

theorem Run.regular (h : Run hist s) (hlt : s.server.streams.length < 2 ^ 64) :
    Regular s.server.events :=
  regular_of_run h.server h.attached.events hlt

/-- **What the loop keeps over a run.** -/
theorem Run.settled (h : Run hist s) : s.server.streams.length < 2 ^ 64 → s.Settled := by
  induction h with
  | start h =>
    obtain ⟨profile, config, rfl⟩ := h
    exact fun _ ↦ State.settled_start profile config
  | @next hist s s' a h hs ih =>
    intro hlt
    have hne : ∀ {pending}, s.phase = .running pending → s.phase ≠ .panicked .senderUnknown := by
      intro pending hphase hp
      cases hphase.symm.trans hp
    rcases step_cases hs with ⟨b, server, pending, -, -, hphase, hserver, rfl⟩ |
      ⟨order, ev, -, hphase, hev, hhandle⟩ | ⟨command, rest, server, -, hphase, -, hsend, rfl⟩ |
      ⟨command, rest, -, hphase, -, rfl⟩ | ⟨-, hphase, -, -, rfl⟩
    · have hmono := Server.State.length_streams_le_of_step hserver
      refine (ih (Nat.lt_of_le_of_lt hmono hlt)).of_phase rfl
        (consumed_of_server (Run.handled_le h) hserver) (hne hphase) (hne hphase) ?_
      intro site hp
      cases hphase.symm.trans hp
    · have hserver : s'.server = s.server := by
        rcases handle_eq_some_iff.1 hhandle with ⟨site, -, rfl⟩ | ⟨chat, commands, -, -, rfl⟩
        · rfl
        · rfl
      rw [hserver] at hlt
      refine (ih hlt).handle hphase hev ?_ hhandle
      rw [← take_handled_succ hev]
      exact (Run.regular h hlt).of_isPrefix (List.take_prefix _ _)
    · obtain ⟨-, rfl⟩ := Server.ActorHandle.send_eq_some_iff.1 hsend
      exact (ih hlt).of_phase rfl rfl (hne hphase) nofun fun _ hp ↦ by cases hp
    · exact (ih hlt).of_phase rfl rfl (hne hphase) nofun fun _ hp ↦ (Phase.panicked.inj hp).symm
    · exact (ih hlt).of_phase rfl rfl (hne hphase) nofun fun _ hp ↦ by cases hp

/-! ### How the loop ends -/

/-- How the chat server comes to its end. -/
structure State.Endings (s : State) : Prop where
  sites : ∀ site, s.phase = .panicked site → site = .senderUnknown ∨ site = .actorGone
  senderUnknown : s.phase = .panicked .senderUnknown ↔ ¬ EventLog.Justified TcpInWindow s.consumed
  actorGone : s.phase = .panicked .actorGone → s.server.Panicked
  finished : s.phase = .finished → s.server.Panicked ∧ s.consumed = s.server.events

/-- A command is refused, and the events end, only after a panic of the broker: the loop keeps its
handle. -/
theorem Run.over (h : Run hist s) : (s.phase = .panicked .actorGone → s.server.Panicked) ∧
    (s.phase = .finished → s.server.Panicked ∧ s.consumed = s.server.events) := by
  cases h with
  | start h =>
    obtain ⟨profile, config, rfl⟩ := h
    exact ⟨nofun, nofun⟩
  | @next hist s₀ s a h hs =>
    have hserving := (Run.server h).serving
    rcases step_cases hs with ⟨b, server, pending, -, -, hphase, -, rfl⟩ |
      ⟨order, ev, -, -, -, hhandle⟩ | ⟨command, rest, server, -, -, -, -, rfl⟩ |
      ⟨command, rest, -, -, hgone, rfl⟩ | ⟨-, -, hall, hend, rfl⟩
    · rw [hphase]
      exact ⟨nofun, nofun⟩
    · rcases handle_eq_some_iff.1 hhandle with ⟨site, hresult, rfl⟩ | ⟨chat, commands, -, -, rfl⟩
      · refine ⟨fun hp ↦ ?_, nofun⟩
        rw [Phase.panicked.inj hp] at hresult
        exact absurd hresult (handleEvent_ne_actorGone _ _ _ _)
      · exact ⟨nofun, nofun⟩
    · exact ⟨nofun, nofun⟩
    · refine ⟨fun _ ↦ ?_, nofun⟩
      by_contra hnot
      rw [hserving.commands.2 hnot] at hgone
      cases hgone
    · refine ⟨nofun, fun _ ↦ ⟨?_, ?_⟩⟩
      · by_contra hnot
        rw [hserving.events.2 hnot] at hend
        cases hend
      · rw [State.consumed, hall, List.take_length]

/-- **Who is in the room.** Up to `2 ^ 64` connections, and until the loop panics at a message: in
the room are the peers announced and not reported as disconnected in the events that the loop has
taken, each under its own name, and the messages kept are the latest ten. -/
theorem Run.attendance (h : Run hist s) (hlt : s.server.streams.length < 2 ^ 64)
    (hs : s.phase ≠ .panicked .senderUnknown) : Attends s.chat s.consumed ∧
    ∀ p q u, s.chat.connectedUsers.get? p = some u → s.chat.connectedUsers.get? q = some u →
      p = q := by
  have hattends := (h.settled hlt).attends hs
  refine ⟨hattends, fun p q u hp hq ↦ ?_⟩
  exact userOf_inj (((hattends.connected p u).1 hp).2.symm.trans ((hattends.connected q u).1 hq).2)

/-- Two peers, the first of which has said something. -/
theorem Run.attendance_of_two : ∃ hist s, Run hist s ∧
    s.chat.messages = [⟨⟨"User 1"⟩, "hi"⟩] ∧ s.chat.connectedUsers.keys.card = 2 ∧
    Attends s.chat s.consumed ∧
    ∀ p q u, s.chat.connectedUsers.get? p = some u → s.chat.connectedUsers.get? q = some u →
      p = q := by
  have h : Run _ _ := TransitionSystem.run_of_exec (T := system) (s := .start .release ⟨4⟩)
    (l := (Server.Action.connect 1 1 []).map .server ++ [.takeEvent [.ofNat 0], .send, .send] ++
      (Server.Action.connect 2 2 [0]).map .server ++ [.takeEvent [.ofNat 0, .ofNat 1], .send, .send] ++
      (Server.Action.frame 0 (.ok (.applicationLogic (FromPeerToServer.message "hi")))).map .server ++
      (Server.Action.take (.tcpReader 0) [0, 1]).map .server ++ [.takeEvent [.ofNat 1, .ofNat 0]])
    ⟨.release, ⟨4⟩, rfl⟩ rfl
  exact ⟨_, _, h, rfl, rfl, Run.attendance h (by decide) nofun⟩

/-- **How the chat server ends.** Up to `2 ^ 64` connections, it panics only at the user that is
not there or at the actor that is gone: the first exactly when it takes a message over TCP from
outside the window of its sender, the second only after a panic of the broker. It returns only after
a panic of the broker, with all events taken. -/
theorem Run.endings (h : Run hist s) (hlt : s.server.streams.length < 2 ^ 64) : s.Endings where
  sites := (h.settled hlt).sites
  senderUnknown := (h.settled hlt).window
  actorGone := h.over.1
  finished := h.over.2

/-- One peer brings the chat server down: a frame that is no message, and a good one after it. -/
theorem Run.endings_of_intruder : ∃ hist s, Run hist s ∧
    s.phase = .panicked .senderUnknown ∧ s.Endings := by
  have h : Run _ _ := TransitionSystem.run_of_exec (T := system) (s := .start .release ⟨4⟩)
    (l := (Server.Action.connect 1 1 []).map .server ++ [.takeEvent [.ofNat 0], .send, .send] ++
      (Server.Action.frame 0 (.error .bincode)).map .server ++
      (Server.Action.frame 0 (.ok (.applicationLogic (FromPeerToServer.message "hi")))).map .server ++
      (Server.Action.take (.tcpReader 0) [0]).map .server ++
      (Server.Action.take (.tcpReader 0) []).map .server ++
      [.takeEvent [], .send, .takeEvent []])
    ⟨.release, ⟨4⟩, rfl⟩ rfl
  exact ⟨_, _, h, rfl, Run.endings h (by decide)⟩

end Run

end NetStream.TcpChat
