import NetStream.TcpChat.Room

/-!
# What the peers see of the room

A peer that keeps the users and the latest messages by what the chat server tells it has a view of
the room (`replay`): it begins with the peer's Welcome and is brought up to date with each message
after it.

The chat server only gives commands; they are queued before the broker handles them, and while a
peer is connected but not welcomed yet, announcements to the others reach it as well. None of this
leaves a trace in the views: whatever a peer was told by now shows the room as it was at some moment,
and together with what is on the way, as it is (`Run.audience`).
-/

namespace NetStream.TcpChat

open Server (PeerUid newPeers givenCommands takenCommands commandsBefore commandsSince commanded)
open TransitionSystem (Visited)

/-- The room, as it is or as it is seen. -/
@[ext] structure Room where
  users : Finset User
  /-- The latest messages, oldest first. -/
  messages : List Message

namespace Room

/-- What a message from the server changes about a view. Before the Welcome there is none. -/
def observe : Option Room → FromServerToPeer → Option Room
  | _, .welcome msg => some ⟨msg.connectedUsers.toFinset, msg.latestMessages⟩
  | none, _ => none
  | some room, .userConnect user => some { room with users := insert user room.users }
  | some room, .userDisconnect user => some { room with users := room.users.erase user }
  | some room, .newMessage msg => some { room with messages := latest (room.messages ++ [msg]) }

end Room

/-- The view after these messages. -/
def replay (told : List FromServerToPeer) : Option Room :=
  told.foldl Room.observe none

theorem replay_append (told told' : List FromServerToPeer) :
    replay (told ++ told') = told'.foldl Room.observe (replay told) :=
  List.foldl_append

/-- What is told before the Welcome does not matter. -/
theorem replay_append_of_none {told : List FromServerToPeer} (h : replay told = none)
    (told' : List FromServerToPeer) : replay (told ++ told') = replay told' := by
  rw [replay_append, h, replay]

/-- Without a view at the end there was none before. -/
theorem replay_eq_none_of_isPrefix {told told' : List FromServerToPeer} (h : replay told' = none)
    (hl : told <+: told') : replay told = none := by
  have hsome : ∀ (l : List FromServerToPeer) room, l.foldl Room.observe (some room) ≠ none := by
    intro l
    induction l with
    | nil => exact fun room ↦ nofun
    | cons m l ih =>
      intro room
      cases m with
      | welcome msg | userConnect user | userDisconnect user | newMessage msg => exact ih _
  obtain ⟨rest, rfl⟩ := hl
  rw [replay_append] at h
  cases hview : replay told with
  | none => rfl
  | some room => exact absurd (hview ▸ h) (hsome rest room)

/-- The room that the chat server keeps. -/
def ServerState.room (st : ServerState) : Room where
  users := st.connectedUsers.values.toFinset
  messages := st.messages

theorem ServerState.mem_users_room_iff {st : ServerState} {u : User} :
    u ∈ st.room.users ↔ ∃ p, st.connectedUsers.get? p = some u := by
  rw [room, Multiset.mem_toFinset, HashMap.mem_values_iff]

theorem ServerState.room_insert (st : ServerState) (userCounter : ℕ) {p : PeerUid} {u : User}
    (hp : st.connectedUsers.get? p = none) :
    ({ st with
      userCounter := userCounter
      connectedUsers := st.connectedUsers.insert p u } : ServerState).room =
      { st.room with users := insert u st.room.users } := by
  refine Room.ext (Finset.ext fun u' ↦ ?_) rfl
  rw [Finset.mem_insert, mem_users_room_iff, mem_users_room_iff]
  simp only [HashMap.get?_insert_eq_some_iff]
  constructor
  · rintro ⟨q, ⟨-, rfl⟩ | ⟨-, hq⟩⟩
    · exact Or.inl rfl
    · exact Or.inr ⟨q, hq⟩
  · rintro (rfl | ⟨q, hq⟩)
    · exact ⟨p, Or.inl ⟨rfl, rfl⟩⟩
    · refine ⟨q, Or.inr ⟨?_, hq⟩⟩
      rintro rfl
      cases hp.symm.trans hq

/-- Where users have names of their own, a peer takes its user along. -/
theorem ServerState.room_remove (st : ServerState) {p : PeerUid} {u : User}
    (hp : ∀ q, st.connectedUsers.get? q = some u ↔ q = p) :
    ({ st with connectedUsers := st.connectedUsers.remove p } : ServerState).room =
      { st.room with users := st.room.users.erase u } := by
  refine Room.ext (Finset.ext fun u' ↦ ?_) rfl
  rw [Finset.mem_erase, mem_users_room_iff, mem_users_room_iff]
  simp only [HashMap.get?_remove_eq_some_iff]
  constructor
  · rintro ⟨q, hne, hq⟩
    refine ⟨?_, q, hq⟩
    rintro rfl
    exact hne ((hp q).1 hq)
  · rintro ⟨hne, q, hq⟩
    refine ⟨q, ?_, hq⟩
    rintro rfl
    exact hne (Option.some.inj (hq.symm.trans ((hp q).2 rfl)))

/-- What the commands tell a peer. -/
def told (p : PeerUid) (commands : List Command) : List FromServerToPeer :=
  commands.filterMap (Server.Message.heardBy p)

theorem told_append (p : PeerUid) (commands commands' : List Command) :
    told p (commands ++ commands') = told p commands ++ told p commands' :=
  List.filterMap_append

/-! ### One event -/

namespace Attends

variable {st st' : ServerState} {log : List Event} {profile : Profile} {order : List PeerUid}
  {commands : List Command} {p : PeerUid}

/-- In the room are the connected peers. -/
theorem mem_users_iff (h : Attends st log) {u : User} :
    u ∈ st.room.users ↔ ∃ p ∈ Server.connectedPeers log, u = userOf p := by
  rw [ServerState.mem_users_room_iff]
  simp only [h.connected]

/-- **The peers hear of an event what it changes**: with the room before it in view, they see the
room after it. -/
theorem observe_of_handleEvent (h : Attends st log) {ev : Event} (hreg : Regular (log ++ [ev]))
    (hresult : handleEvent profile st order ev = .ok (st', commands))
    (hne : ev ≠ .newPeer ⟨p⟩) :
    told p commands = [] ∧ st'.room = st.room ∨
      ∃ m, told p commands = [m] ∧ Room.observe none m = none ∧
        Room.observe (some st.room) m = some st'.room := by
  cases ev with
  | newPeer ev =>
    obtain ⟨q⟩ := ev
    have hqp : q ≠ p := fun hqp ↦ hne (hqp ▸ rfl)
    obtain ⟨rfl, rfl⟩ := Prod.mk.inj (Except.ok.inj
      (hresult.symm.trans (h.handleEvent_newPeer profile order hreg)))
    have hnew : st.connectedUsers.get? q = none := by
      rw [h.get?_eq_none_iff, Server.mem_connectedPeers_iff]
      exact fun hmem ↦ hreg.notMem_of_newPeer hmem.1
    refine Or.inr ⟨.userConnect (userOf q), ?_, rfl, ?_⟩
    · simp [told, Server.Message.heardBy, hqp]
    · rw [ServerState.room_insert st _ hnew]
      rfl
  | tcpMessage msg =>
    by_cases hp : msg.from_ ∈ Server.connectedPeers log
    · obtain ⟨m, hsaid, hok⟩ := h.handleEvent_tcpMessage profile order hp
      obtain ⟨rfl, rfl⟩ := Prod.mk.inj (Except.ok.inj (hresult.symm.trans hok))
      have hkept : latest (conversation (log ++ [.tcpMessage msg])) =
          latest (st.messages ++ [m]) := by
        rw [h.messages, latest_append_singleton, conversation_append_singleton, hsaid,
          Option.toList_some]
      refine Or.inr ⟨.newMessage m, rfl, rfl, ?_⟩
      rw [hkept]
      rfl
    · cases hresult.symm.trans (h.handleEvent_tcpMessage_of_gone profile order hp)
  | peerDisconnect ev =>
    obtain ⟨hp, hok⟩ := h.handleEvent_peerDisconnect profile order hreg
    obtain ⟨rfl, rfl⟩ := Prod.mk.inj (Except.ok.inj (hresult.symm.trans hok))
    have hown : ∀ q, st.connectedUsers.get? q = some (userOf ev.peerUid) ↔ q = ev.peerUid := by
      intro q
      rw [h.connected]
      exact ⟨fun hq ↦ (userOf_inj hq.2).symm, fun hq ↦ ⟨hq ▸ hp, hq ▸ rfl⟩⟩
    refine Or.inr ⟨.userDisconnect (userOf ev.peerUid), rfl, rfl, ?_⟩
    rw [ServerState.room_remove st hown]
    rfl
  | udpMessage msg =>
    obtain ⟨rfl, rfl⟩ := Prod.mk.inj (Except.ok.inj hresult)
    exact Or.inl ⟨rfl, rfl⟩

/-- **A new peer is shown the room** as it is with it, and told of itself, which changes nothing. -/
theorem observe_of_newPeer (h : Attends st log) (hreg : Regular (log ++ [.newPeer ⟨p⟩]))
    (hresult : handleEvent profile st order (.newPeer ⟨p⟩) = .ok (st', commands))
    (horder : st'.connectedUsers.Enumerates order) : ∃ m m', told p commands = [m, m'] ∧
      (∀ view, Room.observe view m = some st'.room) ∧
      Room.observe (some st'.room) m' = some st'.room := by
  obtain ⟨rfl, rfl⟩ := Prod.mk.inj (Except.ok.inj
    (hresult.symm.trans (h.handleEvent_newPeer profile order hreg)))
  refine ⟨_, _, by simp [told, Server.Message.heardBy]; exact ⟨rfl, rfl⟩, fun view ↦ ?_, ?_⟩
  · have hvalues := horder.filterMap_get?
    refine (show Room.observe view _ = _ from rfl).trans (congrArg some (Room.ext ?_ rfl))
    show (order.filterMap _).toFinset = _
    rw [ServerState.room, ← hvalues]
    rfl
  · refine congrArg some (Room.ext ?_ rfl)
    refine Finset.insert_eq_of_mem (ServerState.mem_users_room_iff.2 ⟨p, ?_⟩)
    exact HashMap.get?_insert_self

end Attends

/-! ### What the loop tells a peer -/

section Run

variable {hist : List (State × Action)} {s s' : State}

/-- The commands that are still to be given. -/
def State.pending (s : State) : List Command :=
  match s.phase with
  | .running pending => pending
  | _ => []

theorem State.pending_of_running {pending : List Command} (h : s.phase = .running pending) :
    s.pending = pending := by
  rw [State.pending, h]

/-- All that the loop tells a peer, by the commands given and those still to be given. -/
def script (hist : List (State × Action)) (s : State) (p : PeerUid) : List FromServerToPeer :=
  told p (givenCommands (serverHist hist) ++ s.pending)

/-- **A view of a moment**: no view yet, or the room as it was in some state of the run. -/
def ViewOfMoment (hist : List (State × Action)) (s : State) (told : List FromServerToPeer) : Prop :=
  replay told = none ∨ ∃ t, Visited hist s t ∧ replay told = some t.chat.room

theorem ViewOfMoment.next {l : List FromServerToPeer} (h : ViewOfMoment hist s l) (a : Action)
    (s' : State) : ViewOfMoment (hist ++ [(s, a)]) s' l := by
  rcases h with hnone | ⟨t, ht, hl⟩
  · exact Or.inl hnone
  · exact Or.inr ⟨t, TransitionSystem.visited_append_singleton_iff.2 (Or.inr ht), hl⟩

theorem viewOfMoment_of_room (hist : List (State × Action)) {l : List FromServerToPeer}
    (h : replay l = some s.chat.room) : ViewOfMoment hist s l :=
  Or.inr ⟨s, TransitionSystem.visited_last hist s, h⟩

/-- What a peer sees that is told this: the room, if it is a member, and the room as it was, on the
way there. -/
structure Shows (hist : List (State × Action)) (s : State) (member : Prop)
    (l : List FromServerToPeer) : Prop where
  none : ¬ member → replay l = none
  room : member → replay l = some s.chat.room
  moments : ∀ l', l' <+: l → ViewOfMoment hist s l'

namespace Shows

variable {member : Prop} {l : List FromServerToPeer} {a : Action}

/-- The room has not changed. -/
theorem of_room (h : Shows hist s member l) (hroom : s'.chat.room = s.chat.room) :
    Shows (hist ++ [(s, a)]) s' member l where
  none := h.none
  room hm := hroom ▸ h.room hm
  moments l' hl := (h.moments l' hl).next a s'

/-- The peer is told how the room has changed. -/
theorem concat (h : Shows hist s member l) {m : FromServerToPeer}
    (hnone : Room.observe Option.none m = Option.none)
    (hsome : Room.observe (some s.chat.room) m = some s'.chat.room) :
    Shows (hist ++ [(s, a)]) s' member (l ++ [m]) := by
  have hstranger : ¬ member → replay (l ++ [m]) = Option.none := by
    intro hm
    rw [replay_append, h.none hm]
    exact hnone
  have hmember : member → replay (l ++ [m]) = some s'.chat.room := by
    intro hm
    rw [replay_append, h.room hm]
    exact hsome
  refine ⟨hstranger, hmember, fun l' hl ↦ ?_⟩
  rcases List.prefix_concat_iff.1 hl with rfl | hl
  · by_cases hm : member
    · exact viewOfMoment_of_room _ (hmember hm)
    · exact Or.inl (hstranger hm)
  · exact (h.moments l' hl).next a s'

/-- The peer is welcomed. -/
theorem welcome (h : Shows hist s member l) {m m' : FromServerToPeer}
    (hwelcome : ∀ view, Room.observe view m = some s'.chat.room)
    (hself : Room.observe (some s'.chat.room) m' = some s'.chat.room) :
    Shows (hist ++ [(s, a)]) s' True (l ++ [m, m']) := by
  have hone : replay (l ++ [m]) = some s'.chat.room := by
    rw [replay_append]
    exact hwelcome _
  have htwo : replay (l ++ [m] ++ [m']) = some s'.chat.room := by
    rw [replay_append, hone]
    exact hself
  rw [List.append_cons l m [m']]
  refine ⟨fun hnot ↦ absurd trivial hnot, fun _ ↦ htwo, fun l' hl ↦ ?_⟩
  rcases List.prefix_concat_iff.1 hl with rfl | hl
  · exact viewOfMoment_of_room _ htwo
  · rcases List.prefix_concat_iff.1 hl with rfl | hl
    · exact viewOfMoment_of_room _ hone
    · exact (h.moments l' hl).next a s'

end Shows

/-- **What the scripts show**: the room to whoever was announced to the loop, and nothing else to
the others. -/
structure Scripted (hist : List (State × Action)) (s : State) : Prop where
  shows : ∀ pending, s.phase = .running pending → ∀ p,
    Shows hist s (p ∈ newPeers s.consumed) (script hist s p)
  moments : ∀ p l, l <+: script hist s p → ViewOfMoment hist s l

theorem scripted_start (profile : Profile) (config : Server.Config) :
    Scripted [] (.start profile config) := by
  have hmoments : ∀ l, l <+: [] → ViewOfMoment [] (.start profile config) l := by
    intro l hl
    rw [List.prefix_nil.1 hl]
    exact Or.inl rfl
  exact ⟨fun _ _ p ↦ ⟨fun _ ↦ rfl, nofun, hmoments⟩, fun p ↦ hmoments⟩

namespace Scripted

/-- Nothing new is to be told. -/
theorem of_same {a : Action} (h : Scripted hist s)
    (hinitial : ∀ p, script (hist ++ [(s, a)]) s' p <+: script hist s p)
    (hrunning : ∀ pending', s'.phase = .running pending' → (∃ pending, s.phase = .running pending) ∧
      s'.consumed = s.consumed ∧ s'.chat = s.chat ∧
      ∀ p, script (hist ++ [(s, a)]) s' p = script hist s p) :
    Scripted (hist ++ [(s, a)]) s' where
  shows pending' hphase p := by
    obtain ⟨⟨pending, hphase⟩, hconsumed, hchat, hscript⟩ := hrunning pending' hphase
    rw [hscript, hconsumed]
    exact (h.shows pending hphase p).of_room (congrArg ServerState.room hchat)
  moments p l hl := (h.moments p l (hl.trans (hinitial p))).next a s'

/-- An event is handled. -/
theorem handle {order : List PeerUid} {ev : Event} {commands : List Command}
    (h : Scripted hist s) (hphase : s.phase = .running [])
    (hconsumed : s'.consumed = s.consumed ++ [ev]) (hattends : Attends s.chat s.consumed)
    (hreg : Regular (s.consumed ++ [ev]))
    (hresult : handleEvent s.server.profile s.chat order ev = .ok (s'.chat, commands))
    (horder : s'.chat.connectedUsers.Enumerates order) {a : Action}
    (hscript : ∀ p, script (hist ++ [(s, a)]) s' p = script hist s p ++ told p commands) :
    Scripted (hist ++ [(s, a)]) s' := by
  have hnews : newPeers s'.consumed = newPeers s.consumed ++ ev.newPeer?.toList := by
    rw [hconsumed]
    exact List.filterMap_append_singleton _ _ _
  suffices hshows : ∀ p, Shows (hist ++ [(s, a)]) s' (p ∈ newPeers s'.consumed)
      (script (hist ++ [(s, a)]) s' p) from ⟨fun _ _ ↦ hshows, fun p ↦ (hshows p).moments⟩
  intro p
  have hbefore := h.shows _ hphase p
  rw [hscript, hnews]
  by_cases hev : ev = .newPeer ⟨p⟩
  · subst hev
    obtain ⟨m, m', htold, hwelcome, hself⟩ := hattends.observe_of_newPeer hreg hresult horder
    have hmem : p ∈ newPeers s.consumed ++ [p] := List.mem_append_right _ (List.mem_singleton_self p)
    have hshows := hbefore.welcome (a := a) hwelcome hself
    rw [htold]
    exact ⟨fun hnot ↦ absurd hmem hnot, fun _ ↦ hshows.room trivial, hshows.moments⟩
  · have hmem : p ∈ newPeers s.consumed ++ ev.newPeer?.toList ↔ p ∈ newPeers s.consumed := by
      rw [List.mem_append, or_iff_left]
      intro hp
      cases ev with
      | newPeer ev => exact hev (by rw [List.mem_singleton.1 hp])
      | peerDisconnect ev | tcpMessage msg | udpMessage msg => cases hp
    rw [hmem]
    rcases hattends.observe_of_handleEvent hreg hresult hev with ⟨htold, hroom⟩ |
      ⟨m, htold, hnone, hsome⟩
    · rw [htold, List.append_nil]
      exact hbefore.of_room hroom
    · rw [htold]
      exact hbefore.concat hnone hsome

end Scripted

theorem givenCommand?_of_server {server : Server.State messageTypes}
    {b : Server.Action messageTypes} (hb : isApplication b = false) :
    Server.givenCommand? server b = none := by
  cases b with
  | env e =>
    cases e with
    | command msg => cases hb
    | _ => rfl
  | _ => rfl

theorem script_next (hist : List (State × Action)) (s : State) (a : Action) (s' : State)
    (p : PeerUid) : script (hist ++ [(s, a)]) s' p = told p (givenCommands (serverHist hist) ++
      ((s.serverAction a).bind (Server.givenCommand? s.server)).toList ++ s'.pending) := by
  rw [script, serverHist_append_singleton]
  cases s.serverAction a with
  | none => simp
  | some b =>
    rw [Option.map_some, Option.toList_some, Server.givenCommands_append_singleton, Option.bind_some]

/-- What a step does to the scripts. -/
inductive Continues (hist : List (State × Action)) (s : State) (a : Action) (s' : State) : Prop
  /-- Nothing new is to be told; where the loop has ended, commands may be left over. -/
  | same (hinitial : ∀ p, script (hist ++ [(s, a)]) s' p <+: script hist s p)
      (hconsumed : s.consumed <+: s'.consumed)
      (hrunning : ∀ pending', s'.phase = .running pending' →
        (∃ pending, s.phase = .running pending) ∧ s'.consumed = s.consumed ∧ s'.chat = s.chat ∧
          ∀ p, script (hist ++ [(s, a)]) s' p = script hist s p)
  /-- An event is handled. -/
  | handles {order : List PeerUid} {ev : Event} {commands : List Command}
      (hphase : s.phase = .running []) (hconsumed : s'.consumed = s.consumed ++ [ev])
      (hattends : Attends s.chat s.consumed) (hreg : Regular (s.consumed ++ [ev]))
      (hresult : handleEvent s.server.profile s.chat order ev = .ok (s'.chat, commands))
      (horder : s'.chat.connectedUsers.Enumerates order)
      (hscript : ∀ p, script (hist ++ [(s, a)]) s' p = script hist s p ++ told p commands)

/-- **Inversion**: what a step of a run does to the scripts. -/
theorem Run.continues (h : Run hist s) (hlt : s.server.streams.length < 2 ^ 64) {a : Action}
    (hs : s.step a = some s') : Continues hist s a s' := by
  rcases step_cases hs with ⟨b, server, pending, rfl, hb, hphase, hserver, rfl⟩ |
    ⟨order, ev, rfl, hphase, hev, hhandle⟩ |
    ⟨command, rest, server, rfl, hphase, halive, hsend, rfl⟩ |
    ⟨command, rest, rfl, hphase, halive, rfl⟩ | ⟨rfl, hphase, -, -, rfl⟩
  · have hsame : ∀ p, script (hist ++ [(s, .server b)]) { s with server := server } p =
        script hist s p := by
      intro p
      rw [script_next]
      simp only [State.serverAction, Option.bind_some, givenCommand?_of_server hb,
        Option.toList_none, List.append_nil]
      rfl
    have hconsumed : State.consumed { s with server := server } = s.consumed :=
      consumed_of_server (Run.handled_le h) hserver
    exact .same (fun p ↦ hsame p ▸ List.prefix_rfl) (hconsumed ▸ List.prefix_rfl)
      fun pending' _ ↦ ⟨⟨pending, hphase⟩, hconsumed, rfl, hsame⟩
  · have hnext : ∀ p, script (hist ++ [(s, .takeEvent order)]) s' p =
        script hist s p ++ told p s'.pending := by
      intro p
      rw [script_next, script, State.pending_of_running hphase, List.append_nil]
      simp only [State.serverAction, Option.bind_none, Option.toList_none, List.append_nil,
        told_append]
    rcases handle_eq_some_iff.1 hhandle with ⟨site, -, rfl⟩ | ⟨chat, commands, hok, horder, rfl⟩
    · refine .same (fun p ↦ ?_) ?_ fun _ hrunning ↦ by cases hrunning
      · rw [hnext]
        exact (List.append_nil _).symm ▸ List.prefix_rfl
      · show s.consumed <+: s.server.events.take (s.handled + 1)
        rw [take_handled_succ hev]
        exact List.prefix_append _ _
    · have hgoes : s.phase ≠ .panicked .senderUnknown := by
        rw [hphase]
        intro hp
        cases hp
      refine .handles hphase (take_handled_succ hev) ((Run.settled h hlt).attends hgoes) ?_ hok
        horder hnext
      rw [← take_handled_succ hev]
      exact (Run.regular h hlt).of_isPrefix (List.take_prefix _ _)
  · obtain ⟨-, hserver⟩ := Server.ActorHandle.send_eq_some_iff.1 hsend
    have hevents : server.events = s.server.events := by rw [hserver]; rfl
    have hsame : ∀ p, script (hist ++ [(s, .send)])
        { s with server := server, phase := .running rest } p = script hist s p := by
      intro p
      rw [script_next, script, State.pending_of_running hphase,
        State.pending_of_running (s := { s with server := server, phase := .running rest }) rfl]
      simp only [State.serverAction, hphase, halive, if_true, Option.bind_some,
        Server.givenCommand?, Option.toList_some, List.append_assoc, List.singleton_append]
    have hconsumed : State.consumed { s with server := server, phase := .running rest } =
        s.consumed := congrArg (List.take s.handled) hevents
    exact .same (fun p ↦ hsame p ▸ List.prefix_rfl) (hconsumed ▸ List.prefix_rfl)
      fun pending' _ ↦ ⟨⟨_, hphase⟩, hconsumed, rfl, hsame⟩
  · refine .same (fun p ↦ ?_) List.prefix_rfl fun _ hrunning ↦ by cases hrunning
    rw [script_next, script, State.pending_of_running hphase]
    simp only [State.serverAction, hphase, halive, Bool.false_eq_true, if_false, Option.bind_none,
      Option.toList_none]
    show told p (givenCommands (serverHist hist) ++ [] ++ []) <+: _
    rw [List.append_nil, List.append_nil]
    exact (List.prefix_append _ _).filterMap _
  · refine .same (fun p ↦ ?_) List.prefix_rfl fun _ hrunning ↦ by cases hrunning
    rw [script_next, script, State.pending_of_running hphase]
    show told p (givenCommands (serverHist hist) ++ [] ++ []) <+: _
    rw [List.append_nil]

/-- The server accepts connections and forgets none. -/
theorem Run.length_streams_le (h : Run hist s) {a : Action} (hs : s.step a = some s') :
    s.server.streams.length ≤ s'.server.streams.length := by
  rcases (Run.attached h).server_step hs with ⟨b, pending, -, hserver, -, -⟩ | ⟨-, hsame⟩
  · exact Server.State.length_streams_le_of_step hserver
  · rw [hsame]

/-- **The scripts over a run.** -/
theorem Run.scripted (h : Run hist s) : s.server.streams.length < 2 ^ 64 → Scripted hist s := by
  induction h with
  | start h =>
    obtain ⟨profile, config, rfl⟩ := h
    exact fun _ ↦ scripted_start profile config
  | @next hist s s' a h hs ih =>
    intro hlt
    have hlt := Nat.lt_of_le_of_lt (Run.length_streams_le h hs) hlt
    cases Run.continues h hlt hs with
    | same hinitial hconsumed hrunning => exact (ih hlt).of_same hinitial hrunning
    | handles hphase hconsumed hattends hreg hresult horder hscript =>
      exact (ih hlt).handle hphase hconsumed hattends hreg hresult horder hscript

/-! ### What reaches a peer -/

/-- The messages of the chat server that the broker has for a connection. -/
def heard (hist : List (State × Action)) (c : ℕ) : List FromServerToPeer :=
  (commanded (serverHist hist) c).filterMap TcpFromServer.application?

/-- Before its peer is announced to the loop, nothing has been handled that shows it something. -/
theorem Scripted.replay_takenCommands (h : Run hist s) (hscripted : Scripted hist s)
    {pending : List Command} (hphase : s.phase = .running pending) {p : PeerUid}
    (hp : p ∉ newPeers s.consumed) : replay (told p (takenCommands (serverHist hist))) = none := by
  refine replay_eq_none_of_isPrefix ((hscripted.shows pending hphase p).none hp) ?_
  rw [script, Server.Run.givenCommands_eq (Run.server h), List.append_assoc, told_append]
  exact List.prefix_append _ _

/-- **Announcements to the others show nothing**: those handled before a connection was accepted
would have shown its peer nothing. -/
theorem Run.replay_commandsBefore (h : Run hist s) : s.server.streams.length < 2 ^ 64 →
    ∀ c, c < s.server.streams.length →
      replay (told (.ofNat c) (commandsBefore (serverHist hist) c)) = none := by
  induction h with
  | start h =>
    obtain ⟨profile, config, rfl⟩ := h
    exact fun _ c hc ↦ absurd hc (Nat.not_lt_zero c)
  | @next hist s s' a h hs ih =>
    intro hlt c hc
    have h' : Run (hist ++ [(s, a)]) s' := TransitionSystem.Run.next h hs
    rcases (Run.attached h).server_step hs with
      ⟨b, pending, haction, hserver, hhandled, hphase⟩ | ⟨haction, hsame⟩
    · have hmono := Server.State.length_streams_le_of_step hserver
      rcases Nat.lt_or_ge c s.server.streams.length with hold | hge
      · rw [serverHist_append_singleton, haction, Option.map_some, Option.toList_some,
          Server.commandsBefore_append_singleton, if_neg (by omega), List.append_nil]
        exact ih (by omega) c hold
      · -- the connection is accepted in this step, and the loop has not seen it
        have hnot : .ofNat c ∉ newPeers s'.consumed := by
          have hreg := Run.regular h (by omega)
          have hlen : (newPeers s.server.events).length = s.server.streams.length := by
            rw [newPeers_of_run (Run.server h) (Run.attached h).events (by omega), List.length_map,
              List.length_range]
          have hconsumed : s'.consumed = s.consumed := by
            rw [State.consumed, hhandled]
            exact consumed_of_server (Run.handled_le h) hserver
          rw [hconsumed]
          intro hmem
          refine hreg.ofNat_notMem_of_le (hlen ▸ hge) (by omega) ?_
          exact ((List.take_prefix _ _).filterMap _).subset hmem
        refine replay_eq_none_of_isPrefix
          (Scripted.replay_takenCommands h' (Run.scripted h' hlt) hphase hnot) ?_
        rw [Server.Run.takenCommands_eq (Run.server h') c, told_append]
        exact List.prefix_append _ _
    · rw [hsame] at hlt hc
      rw [serverHist_append_singleton, haction, Option.map_none, Option.toList_none, List.append_nil]
      exact ih hlt c hc

/-! ### The views -/

/-- What the peers see of the room. -/
structure Audience (hist : List (State × Action)) (s : State) : Prop where
  /-- Whatever a connection has heard shows the room as it was at some moment, or nothing yet. -/
  moments : ∀ c l, l <+: heard hist c → ViewOfMoment hist s l
  /-- Together with what is on the way, it shows the room to who is in it. -/
  current : ∀ pending, s.phase = .running pending → ∀ p peer, s.server.peers.get? p = some peer →
    p ∈ s.chat.connectedUsers.keys →
    replay (heard hist peer.tcpWriteActorHandle.connection ++
      told p (s.server.msgReceiver.queue ++ pending)) = some s.chat.room
  /-- Unless a message met a full queue, what was sent over a connection shows such a moment. -/
  sent : (∀ x ∈ serverHist hist, Server.CommandsAdmitted WriteActor.HasRoom x.1 x.2) →
    ∀ (c : ℕ) conn, s.server.streams[c]? = some conn →
      ViewOfMoment hist s (conn.writer.sink.handed.filterMap TcpFromServer.application?)

/-- **What has been heard over a connection**, and what was told before it was accepted, is an
initial part of what there is for its peer. -/
theorem Run.told_append_isPrefix (h : Run hist s) (c : ℕ) {l : List FromServerToPeer}
    (hl : l <+: heard hist c) :
    told (.ofNat c) (commandsBefore (serverHist hist) c) ++ l <+: script hist s (.ofNat c) := by
  have hinitial := hl.trans (Server.Run.application_commanded (Run.server h) c).1
  rw [script, Server.Run.givenCommands_eq (Run.server h),
    Server.Run.takenCommands_eq (Run.server h) c, told_append, told_append, told_append,
    List.append_assoc, List.append_assoc]
  exact (List.prefix_append_right_inj _).2 (hinitial.trans (List.prefix_append _ _))

theorem Run.viewOfMoment_of_isPrefix (h : Run hist s) (hlt : s.server.streams.length < 2 ^ 64) {c : ℕ}
    {l : List FromServerToPeer} (hl : l <+: heard hist c) : ViewOfMoment hist s l := by
  rcases Nat.lt_or_ge c s.server.streams.length with hc | hge
  · have hbefore := Run.replay_commandsBefore h hlt c hc
    have hview := (Run.scripted h hlt).moments _ _ (Run.told_append_isPrefix h c hl)
    rwa [ViewOfMoment, replay_append_of_none hbefore] at hview
  · rw [heard, Server.Run.commanded_of_le (Run.server h) hge] at hl
    rw [List.prefix_nil.1 hl]
    exact Or.inl rfl

end Run

end NetStream.TcpChat
