import NetStream.Server.ReadPipeline
import NetStream.TcpChat.Audience

/-!
# What is said in the room

The chat server announces what a user says to everybody, so the conversation is one list, and every
peer is told a part of it without a gap: from the acceptance of its connection on, as far as the
broker has come (`Run.spoken_heard`). No peer is told of it in another order than another.
-/

namespace NetStream.TcpChat

open Server (PeerUid commandsBefore)

/-- The message of a user in a message from the server. What a Welcome lists was said before. -/
def spoken : FromServerToPeer → Option Message
  | .newMessage msg => some msg
  | _ => none

/-- The text of a message to the chat server. -/
def FromPeerToServer.text : FromPeerToServer → String
  | .message s => s

/-- What a user has said, of these messages. -/
def saidBy (user : User) (l : List Message) : List String :=
  l.filterMap fun msg ↦ if msg.from_ = user then some msg.message else none

/-- **Everybody is told what is said** in an event, and of nothing else that was said. -/
theorem Attends.spoken_told {st st' : ServerState} {log : List Event} {profile : Profile}
    {order : List PeerUid} {commands : List Command} (h : Attends st log) {ev : Event}
    (hreg : Regular (log ++ [ev]))
    (hresult : handleEvent profile st order ev = .ok (st', commands)) (p : PeerUid) :
    (told p commands).filterMap spoken = (said ev).toList := by
  cases ev with
  | newPeer ev =>
    obtain ⟨q⟩ := ev
    obtain ⟨-, rfl⟩ := Prod.mk.inj (Except.ok.inj
      (hresult.symm.trans (h.handleEvent_newPeer profile order hreg)))
    by_cases hqp : q = p <;> simp [told, Server.Message.heardBy, hqp, spoken, said]
  | tcpMessage msg =>
    by_cases hp : msg.from_ ∈ Server.connectedPeers log
    · obtain ⟨m, hsaid, hok⟩ := h.handleEvent_tcpMessage profile order hp
      obtain ⟨-, rfl⟩ := Prod.mk.inj (Except.ok.inj (hresult.symm.trans hok))
      rw [hsaid]
      rfl
    · cases hresult.symm.trans (h.handleEvent_tcpMessage_of_gone profile order hp)
  | peerDisconnect ev =>
    obtain ⟨-, hok⟩ := h.handleEvent_peerDisconnect profile order hreg
    obtain ⟨-, rfl⟩ := Prod.mk.inj (Except.ok.inj (hresult.symm.trans hok))
    rfl
  | udpMessage msg =>
    obtain ⟨-, rfl⟩ := Prod.mk.inj (Except.ok.inj hresult)
    rfl

variable {hist : List (State × Action)} {s : State}

/-- **What is said in the scripts**: the conversation, of which commands may be left over where the
loop has ended. -/
structure Conversing (hist : List (State × Action)) (s : State) : Prop where
  running : ∀ pending, s.phase = .running pending → ∀ p,
    (script hist s p).filterMap spoken = conversation s.consumed
  isPrefix : ∀ p, (script hist s p).filterMap spoken <+: conversation s.consumed

theorem Run.conversing (h : Run hist s) : s.server.streams.length < 2 ^ 64 → Conversing hist s := by
  induction h with
  | start h =>
    obtain ⟨profile, config, rfl⟩ := h
    exact fun _ ↦ ⟨fun _ _ _ ↦ rfl, fun _ ↦ List.prefix_rfl⟩
  | @next hist s s' a h hs ih =>
    intro hlt
    have hlt := Nat.lt_of_le_of_lt (Run.length_streams_le h hs) hlt
    obtain ⟨hrunning, hisPrefix⟩ := ih hlt
    cases Run.continues h hlt hs with
    | same hinitial hconsumed hsame =>
      refine ⟨fun pending' hphase' p ↦ ?_, fun p ↦ ?_⟩
      · obtain ⟨⟨pending, hphase⟩, hconsumed, -, hscript⟩ := hsame pending' hphase'
        rw [hscript, hconsumed]
        exact hrunning pending hphase p
      · exact ((hinitial p).filterMap _).trans
          ((hisPrefix p).trans (hconsumed.filterMap _))
    | @handles order ev commands hphase hconsumed hattends hreg hresult horder hscript =>
      have hnext : ∀ p, (script (hist ++ [(s, a)]) s' p).filterMap spoken =
          conversation s'.consumed := by
        intro p
        rw [hscript, List.filterMap_append, hrunning _ hphase, hattends.spoken_told hreg hresult,
          hconsumed, conversation_append_singleton]
      exact ⟨fun _ _ ↦ hnext, fun p ↦ hnext p ▸ List.prefix_rfl⟩

/-- **What is heard over a connection of what is said**: a part of the conversation, without a gap. -/
theorem Run.spoken_heard (h : Run hist s) (hlt : s.server.streams.length < 2 ^ 64) (c : ℕ)
    {l : List FromServerToPeer} (hl : l <+: heard hist c) :
    l.filterMap spoken <:+: conversation s.consumed := by
  have hinitial := ((Run.told_append_isPrefix h c hl).filterMap spoken).trans
    ((Run.conversing h hlt).isPrefix _)
  rw [List.filterMap_append] at hinitial
  exact (List.suffix_append _ _).isInfix.trans hinitial.isInfix

/-- What a user has said are the messages from its peer. -/
theorem saidBy_conversation (p : PeerUid) (log : List Event) :
    saidBy (userOf p) (conversation log) =
      (Server.tcpMessagesFrom p log).map FromPeerToServer.text := by
  rw [saidBy, conversation, List.filterMap_filterMap, Server.tcpMessagesFrom, List.map_filterMap]
  refine List.filterMap_congr fun ev _ ↦ ?_
  cases ev with
  | tcpMessage msg =>
    obtain ⟨q, ⟨text⟩⟩ := msg
    by_cases hqp : q = p
    · simp [said, Server.Event.tcpMessageFrom?, hqp, FromPeerToServer.text]
    · have hother : userOf q ≠ userOf p := fun huser ↦ hqp (userOf_inj huser)
      simp [said, Server.Event.tcpMessageFrom?, hqp, hother]
  | newPeer _ | peerDisconnect _ | udpMessage _ => rfl

end NetStream.TcpChat
