import NetStream.Server.Shutdown
import NetStream.Server.StoppedActors
import NetStream.Server.Wraparound

/-!
# From the frames of a connection to the events of its peer

A frame passes through the read actor of its connection and the channel to the broker, which takes
items from the channels of all connections in any order. The items taken from one channel are an
initial part of the frames that its actor has read (`State.takenFrames_isPrefix`), each is handled
in the step that takes it (`State.tcpMessagesFrom_step`), and its message carries the uid with which
the channel is tagged. So the messages from a peer are those of an initial part of its frames, as
long as the uid stands for one connection (`Run.readPipeline`).

The end of a reader is not an item of its channel. It comes from the task itself, but only once the
channel has been drained, so nothing is left behind it (`Connection.Drained`).
-/

namespace NetStream.Server

variable {M : MessageTypes}

/-- What the read actor of a connection sends to the broker. -/
abbrev FrameItem (M : MessageTypes) : Type :=
  ReadActorEvent (Except TcpError (TcpToServer M))

/-- The message that a decoded frame brings. -/
def applicationMessage? : Except TcpError (TcpToServer M) → Option M.TcpToServer
  | .ok (.applicationLogic msg) => some msg
  | .error _ => none

/-- The message that an item brings. -/
def FrameItem.message? : FrameItem M → Option M.TcpToServer
  | .streamItem frame => applicationMessage? frame

/-- The message over TCP from this peer that an event brings. -/
def Event.tcpMessageFrom? (p : PeerUid) : Event M → Option M.TcpToServer
  | .tcpMessage msg => if msg.from_ = p then some msg.message else none
  | _ => none

/-- The messages over TCP from a peer, in order. -/
def tcpMessagesFrom (p : PeerUid) (events : List (Event M)) : List M.TcpToServer :=
  events.filterMap (Event.tcpMessageFrom? p)

/-- The message over TCP from this peer that an operation emits. -/
def Op.tcpMessageFrom? (p : PeerUid) : Op M → Option M.TcpToServer
  | .tcpMessage msg => if msg.from_ = p then some msg.message else none
  | _ => none

theorem Registry.tcpMessagesFrom_emit (r : Registry M) (p : PeerUid) (ev : Event M) :
    tcpMessagesFrom p (r.emit ev).events = tcpMessagesFrom p r.events ++
      if r.eventsOpen then (ev.tcpMessageFrom? p).toList else [] := by
  rw [Registry.events_emit]
  split
  · exact List.filterMap_append_singleton _ _ ev
  · rw [List.append_nil, List.append_nil]

/-- Only an operation that emits a message changes what the application was told. -/
theorem Registry.tcpMessagesFrom_after (r : Registry M) (p : PeerUid) (op : Op M) :
    tcpMessagesFrom p (r.after op).events = tcpMessagesFrom p r.events ++
      if r.eventsOpen then (op.tcpMessageFrom? p).toList else [] := by
  have hquiet : ∀ l : List M.TcpToServer, l ++ (if r.eventsOpen then ([] : List M.TcpToServer) else []) = l := by
    intro l
    rw [ite_self, List.append_nil]
  cases op with
  | drop l =>
    refine Eq.trans ?_ (hquiet _).symm
    refine dropPeers_eq (f := fun r ↦ tcpMessagesFrom p r.events) (fun r q peer reason ↦ ?_) r l
    rw [tcpMessagesFrom_emit]
    show tcpMessagesFrom p r.events ++ _ = _
    simp [Event.tcpMessageFrom?]
  | accept addr uuid next => exact tcpMessagesFrom_emit (r.register addr uuid next) p _
  | tcpMessage msg => exact tcpMessagesFrom_emit r p _
  | udpMessage msg addr => exact tcpMessagesFrom_emit r p _
  | bind q peer uuid addr => exact (hquiet _).symm
  | closeEvents => exact (hquiet _).symm
  | idle => exact (hquiet _).symm

namespace State

variable {s s' t : State M}

/-- The items that the broker has taken from a connection. -/
def takenFrames (s : State M) (c : ℕ) : List (FrameItem M) :=
  match s.streams[c]? with
  | none => []
  | some conn => conn.reader.tx.taken

/-- The item that a step takes from a connection. -/
def takes (s : State M) (c : ℕ) : Action M → Option (FrameItem M)
  | .next (.tcpReader i) _ =>
    if i = c then s.streams[c]?.bind fun conn ↦ conn.reader.tx.recv.map Prod.fst else none
  | _ => none

/-- No other connection has the uid of this one. -/
def SoleUid (s : State M) (c : ℕ) : Prop :=
  ∀ i < s.streams.length, PeerUid.ofNat i = .ofNat c → i = c

end State

theorem Connection.Touch.taken {released : Prop} {conn conn' : Connection M}
    (h : conn.Touch released conn') : conn'.reader.tx.taken = conn.reader.tx.taken := by
  induction h with
  | refl => rfl
  | send _ _ ih | shutdownReader _ _ ih | shutdownWriter _ _ ih | dropReader _ _ ih
  | dropWriter _ _ ih | closeReader _ _ ih => exact ih

theorem Handled.takenFrames {s s' : State M} (h : Handled s s') (c : ℕ) :
    s'.takenFrames c = s.takenFrames c := by
  unfold State.takenFrames
  cases hc : s.streams[c]? with
  | some conn =>
    obtain ⟨conn', hconn', htouch⟩ := h.old c conn hc
    rw [hconn']
    exact htouch.taken
  | none =>
    cases hc' : s'.streams[c]? with
    | none => rfl
    | some conn' =>
      obtain ⟨p, htouch⟩ := h.new c conn' (List.getElem?_eq_none_iff.1 hc) hc'
      exact htouch.taken

namespace State

variable {s s' t : State M}

theorem takenFrames_modify {i : ℕ} {f : Connection M → Connection M}
    (hf : ∀ conn, s.streams[i]? = some conn →
      (f conn).reader.tx.taken = conn.reader.tx.taken) (c : ℕ) :
    (s.modifyConnection i f).takenFrames c = s.takenFrames c := by
  unfold takenFrames modifyConnection
  rw [List.getElem?_modify]
  cases hc : s.streams[c]? with
  | none => rfl
  | some conn =>
    by_cases hi : i = c
    · subst hi
      simpa using hf conn hc
    · simp [hi]

theorem eq_append_toList {α : Type} {l l' : List α} {o : Option α} (h : l' = l) (ho : o = none) :
    l' = l ++ o.toList := by
  rw [h, ho, Option.toList_none, List.append_nil]

/-- What is taken from a connection is taken in order. -/
theorem takenFrames_of_nextIncoming {source : Source} {incoming : Incoming M}
    (h : s.nextIncoming source = some (incoming, t)) (choice : Choice) (c : ℕ) :
    t.takenFrames c = s.takenFrames c ++ (s.takes c (.next source choice)).toList := by
  cases source with
  | tcpReader i =>
    simp only [nextIncoming] at h
    split at h
    · cases h
    · rename_i conn hconn
      obtain ⟨⟨event, ch⟩, hrecv, heq⟩ := Option.map_eq_some_iff.1 h
      obtain ⟨-, rfl⟩ := Prod.mk.inj heq
      by_cases hi : i = c
      · subst hi
        have htaken := (Channel.recv_spec hrecv).2.1
        simp only [takenFrames, takes, modifyConnection, List.getElem?_modify_eq, hconn,
          Option.map_some, if_true, Option.bind_some, hrecv, Option.toList_some]
        exact htaken
      · refine eq_append_toList ?_ (if_neg hi)
        simp only [takenFrames, modifyConnection, List.getElem?_modify_ne _ _ hi]
  | tcpReaderEnd i | tcpWriterEnd i =>
    simp only [nextIncoming] at h
    repeat' split at h
    all_goals cases h
    refine eq_append_toList (takenFrames_modify ?_ c) rfl
    exact fun _ _ ↦ rfl
  | actorMessage | udpReader =>
    obtain ⟨r, -, heq⟩ := Option.map_eq_some_iff.1 h
    obtain ⟨-, rfl⟩ := Prod.mk.inj heq
    exact eq_append_toList rfl rfl
  | actorMessageEnd | udpReaderEnd | udpWriterEnd =>
    simp only [nextIncoming] at h
    repeat' split at h
    all_goals cases h
    exact eq_append_toList rfl rfl
  | tcpListener _ | udpHeartbeat =>
    obtain ⟨-, rfl⟩ := Prod.mk.inj (Option.some.inj h)
    exact eq_append_toList rfl rfl

/-- **What a step takes from a connection.** -/
theorem takenFrames_of_step (hn : s.registry.Numbered) {a : Action M} (hs : s.step a = some s')
    (c : ℕ) : s'.takenFrames c = s.takenFrames c ++ (s.takes c a).toList := by
  rcases step_cases hs with ⟨rfl, hphase, rfl⟩ | ⟨source, choice, incoming, t, rfl, -, hr, rfl⟩ |
    ⟨i, conn, conn', hconn, hmoves, rfl⟩ | ⟨st, reader, rfl, -, rfl⟩ | ⟨st, writer, rfl, -, rfl⟩ |
    ⟨x, rfl, rfl⟩ | ⟨e, ch, sender, rfl, -, rfl⟩
  · exact eq_append_toList ((Handled.loopTop hphase hn).takenFrames c) rfl
  · have hnt : ({ t with phase := .top } : State M).registry.Numbered := by
      show t.registry.Numbered
      rwa [registry_taken (taken_of_nextIncoming hr)]
    exact ((Handled.handleIncoming { t with phase := .top } hnt incoming choice).takenFrames c).trans
      (takenFrames_of_nextIncoming hr choice c)
  · refine eq_append_toList (takenFrames_modify (fun old hold ↦ ?_) c) ?_
    · obtain rfl := Option.some.inj (hconn.symm.trans hold)
      cases hmoves with
      | reader hstep => exact ReadActor.taken_of_step hstep
      | writer _ => rfl
      | frame _ => rfl
      | ends => rfl
    · cases hmoves <;> rfl
  all_goals exact eq_append_toList rfl rfl

/-- The item that a step takes from a connection is the one that it handles, with its uid. -/
theorem incoming?_of_takes (hn : s.registry.Numbered) {c : ℕ} {a : Action M} {item : FrameItem M}
    (h : s.takes c a = some item) : s.incoming? a = some (.tcpReader item (.ofNat c)) := by
  unfold takes at h
  split at h
  · rename_i i choice
    split at h
    · rename_i hi
      subst hi
      obtain ⟨conn, hconn, hrecv⟩ := Option.bind_eq_some_iff.1 h
      obtain ⟨⟨item', ch⟩, htake, rfl⟩ := Option.map_eq_some_iff.1 hrecv
      simp only [incoming?, nextIncoming, hconn]
      rw [htake, peerUid_eq hn hconn]
      rfl
    · cases h
  · cases h

/-- An item that is handled is taken from a connection with its uid. -/
theorem exists_takes_of_incoming? (hn : s.registry.Numbered) {a : Action M} {item : FrameItem M}
    {p : PeerUid} (h : s.incoming? a = some (.tcpReader item p)) :
    ∃ c conn, s.streams[c]? = some conn ∧ .ofNat c = p ∧ item ∈ conn.reader.tx.sent ∧
      s.takes c a = some item := by
  obtain ⟨c, choice, rfl⟩ := eq_next_of_tcpReader h
  obtain ⟨⟨incoming, t⟩, hr, hi⟩ := Option.map_eq_some_iff.1 h
  simp only [nextIncoming] at hr
  split at hr
  · cases hr
  · rename_i conn hconn
    obtain ⟨⟨item', ch⟩, hrecv, heq⟩ := Option.map_eq_some_iff.1 hr
    obtain ⟨rfl, -⟩ := Prod.mk.inj heq
    obtain ⟨rfl, huid⟩ := Incoming.tcpReader.inj hi
    rw [peerUid_eq hn hconn] at huid
    refine ⟨c, conn, hconn, huid, ?_, ?_⟩
    · rw [← Channel.taken_append_queue, (Channel.recv_spec hrecv).1]
      exact List.mem_append_right _ List.mem_cons_self
    · simp only [takes, if_true, hconn, Option.bind_some, hrecv, Option.map_some]

/-- Where the uid stands for one connection, these are the same. -/
theorem takes_eq_some_iff (hn : s.registry.Numbered) {c : ℕ} (hsole : s.SoleUid c) {a : Action M}
    {item : FrameItem M} :
    s.takes c a = some item ↔ s.incoming? a = some (.tcpReader item (.ofNat c)) := by
  constructor
  · exact incoming?_of_takes hn
  · intro h
    obtain ⟨i, conn, hconn, huid, -, htakes⟩ := exists_takes_of_incoming? hn h
    obtain ⟨hlt, -⟩ := List.getElem?_eq_some_iff.1 hconn
    obtain rfl := hsole i hlt huid
    exact htakes

/-- **What a step emits of a peer's messages** is what the item brings that it takes from the peer's
connection. -/
theorem tcpMessagesFrom_step (hn : s.registry.Numbered) {a : Action M} (hs : s.step a = some s')
    {c : ℕ} (hsole : s.SoleUid c) :
    tcpMessagesFrom (.ofNat c) s'.events = tcpMessagesFrom (.ofNat c) s.events ++
      if s.eventSender.receiverAlive then ((s.takes c a).bind FrameItem.message?).toList else [] := by
  have hop : (s.op a).tcpMessageFrom? (.ofNat c) = (s.takes c a).bind FrameItem.message? := by
    refine Option.ext fun m ↦ ?_
    have hitem : (s.takes c a).bind FrameItem.message? = some m ↔
        s.takes c a = some (.streamItem (.ok (.applicationLogic m))) := by
      rw [Option.bind_eq_some_iff]
      constructor
      · rintro ⟨⟨frame⟩, hframe, hm⟩
        match frame with
        | .ok (.applicationLogic m') =>
          obtain rfl := Option.some.inj hm
          exact hframe
        | .error _ => cases hm
      · intro h
        exact ⟨_, h, rfl⟩
    have hmsg : (s.op a).tcpMessageFrom? (.ofNat c) = some m ↔
        s.op a = .tcpMessage ⟨.ofNat c, m⟩ := by
      cases s.op a with
      | tcpMessage msg =>
        obtain ⟨p, m'⟩ := msg
        by_cases hp : p = .ofNat c <;> simp [Op.tcpMessageFrom?, hp]
      | _ => simp [Op.tcpMessageFrom?]
    rw [hitem, hmsg, op_eq_tcpMessage_iff, takes_eq_some_iff hn hsole]
  rw [← hop]
  have hev : s'.events = (s.registry.after (s.op a)).events :=
    congrArg Registry.events (registry_step hs)
  rw [hev]
  exact Registry.tcpMessagesFrom_after s.registry _ _

/-- A message that no one can be told ends in a panic. -/
theorem panicked_of_takes (hn : s.registry.Numbered) {a : Action M} (hs : s.step a = some s')
    {c : ℕ} (hsole : s.SoleUid c) {item : FrameItem M} (htakes : s.takes c a = some item)
    (hmsg : item.message? ≠ none) (hclosed : s.eventSender.receiverAlive = false) :
    s'.Panicked := by
  have hop : ∃ msg, s.op a = .tcpMessage msg := by
    match item with
    | .streamItem (.ok (.applicationLogic m)) =>
      exact ⟨⟨.ofNat c, m⟩, op_eq_tcpMessage_iff.2 ((takes_eq_some_iff hn hsole).1 htakes)⟩
    | .streamItem (.error _) => exact absurd rfl hmsg
  have hemits : (s.op a).Emits s.registry := by
    obtain ⟨msg, hop⟩ := hop
    rw [hop]
    exact trivial
  have hdue : ShutdownDue s a := Or.inr ⟨hclosed, hemits⟩
  rcases hdue.panicked hs with hp | hp
  · exact ⟨_, hp⟩
  · exact ⟨_, hp⟩

end State

/-! ### The pipeline of a connection -/

section Server

variable {hist : List (State M × Action M)} {s : State M}

/-- The messages from a peer are those of the items taken from its connection, except one for which
there was no receiver. -/
theorem Run.exists_taken (h : Run hist s) {c : ℕ} (hsole : s.SoleUid c) :
    ∃ items, items <+: s.takenFrames c ∧ (¬ s.Panicked → items = s.takenFrames c) ∧
      tcpMessagesFrom (.ofNat c) s.events = items.filterMap FrameItem.message? := by
  induction h with
  | start h =>
    obtain ⟨profile, config, rfl⟩ := h
    exact ⟨[], List.nil_prefix, fun _ ↦ rfl, rfl⟩
  | @next hist s s' a h hs ih =>
    have hsole' : s.SoleUid c := fun i hi ↦
      hsole i (Nat.lt_of_lt_of_le hi (State.length_streams_le_of_step hs))
    obtain ⟨items, hprefix, hall, hmsgs⟩ := ih hsole'
    have htaken := State.takenFrames_of_step (Run.numbered h) hs c
    have hstep := State.tcpMessagesFrom_step (Run.numbered h) hs hsole'
    cases htakes : s.takes c a with
    | none =>
      rw [htakes, Option.toList_none, List.append_nil] at htaken
      rw [htakes, Option.bind_none, Option.toList_none, ite_self, List.append_nil] at hstep
      rw [htaken, hstep]
      exact ⟨items, hprefix, fun hnot ↦ hall (State.not_panicked_of_step hs hnot), hmsgs⟩
    | some item =>
      have hwait : ¬ s.Panicked := by
        obtain ⟨hphase, -⟩ := State.taken_of_incoming? hs
          ((State.takes_eq_some_iff (Run.numbered h) hsole').1 htakes)
        exact State.not_panicked_of_waiting hphase
      rw [htakes, Option.toList_some] at htaken
      rw [htakes, Option.bind_some, hmsgs, hall hwait] at hstep
      rw [htaken, hstep]
      by_cases hkept : item.message? = none ∨ s.eventSender.receiverAlive = true
      · refine ⟨s.takenFrames c ++ [item], List.prefix_rfl, fun _ ↦ rfl, ?_⟩
        rw [List.filterMap_append_singleton]
        rcases hkept with hnone | halive
        · simp [hnone]
        · simp [halive]
      · -- the message is lost in the panic
        obtain ⟨hmsg, hclosed⟩ := not_or.1 hkept
        rw [Bool.not_eq_true] at hclosed
        refine ⟨s.takenFrames c, List.prefix_append _ _, fun hnot ↦ absurd ?_ hnot, ?_⟩
        · exact State.panicked_of_takes (Run.numbered h) hs hsole' htakes hmsg hclosed
        · simp [hclosed]

/-- What is taken from a connection is an initial part of what its actor has read. -/
theorem Run.takenFrames_isPrefix (h : Run hist s) {c : ℕ} {conn : Connection M}
    (hconn : s.streams[c]? = some conn) :
    s.takenFrames c <+: conn.reader.stream.taken.map .streamItem := by
  have hsent := (h.tended.sound c conn hconn).tracks.sent_isPrefix
  have htaken : conn.reader.tx.taken <+: conn.reader.tx.sent := List.take_prefix _ _
  simp only [State.takenFrames, hconn]
  exact htaken.trans hsent

theorem filterMap_message?_map (frames : List (Except TcpError (TcpToServer M))) :
    (frames.map ReadActorEvent.streamItem).filterMap FrameItem.message? =
      frames.filterMap applicationMessage? := by
  rw [List.filterMap_map]
  rfl

/-- The reader has ended with its stream, and all that it sent has been taken. -/
structure Connection.Drained (conn : Connection M)
    (frames : List (Except TcpError (TcpToServer M))) : Prop where
  finished : conn.reader.phase = .finished (.controlled .endOfStream)
  empty : conn.reader.tx.queue = []
  ended : conn.reader.stream.senderAlive = false
  sent : conn.reader.stream.sent = frames

/-- **Nothing comes after the end.** -/
theorem Connection.Steps.drained {released : Prop} {c : ℕ} {a : Action M}
    {taken : Option (Incoming M)} {conn conn' : Connection M}
    {frames : List (Except TcpError (TcpToServer M))} (h : conn.Steps released c a taken conn')
    (hd : conn.Drained frames) : conn'.Drained frames := by
  have htouch : ∀ {conn conn' : Connection M}, conn.Touch released conn' → conn.Drained frames →
      conn'.Drained frames := by
    intro conn conn' h hd
    induction h with
    | refl => exact hd
    | send _ _ ih | shutdownReader _ _ ih | shutdownWriter _ _ ih | dropReader _ _ ih
    | dropWriter _ _ ih | closeReader _ _ ih => exact ⟨ih.finished, ih.empty, ih.ended, ih.sent⟩
  cases h with
  | touched h => exact htouch h hd
  | @taken incoming mid _ hi ht h =>
    refine htouch h ?_
    cases ht with
    | other => exact hd
    | item hrecv =>
      have hqueue := (Channel.recv_spec hrecv).1
      rw [hd.empty] at hqueue
      cases hqueue
    | readerEnd _ | writerEnd _ => exact ⟨hd.finished, hd.empty, hd.ended, hd.sent⟩
  | moves h =>
    cases h with
    | reader hstep => exact absurd hd.finished (ReadActor.not_finished_of_step hstep _)
    | writer _ => exact ⟨hd.finished, hd.empty, hd.ended, hd.sent⟩
    | frame halive => exact absurd (halive.symm.trans hd.ended) Bool.noConfusion
    | ends => exact ⟨hd.finished, hd.empty, rfl, hd.sent⟩

/-- The messages from the peer of a connection are those of these frames, and there are no more. -/
structure State.Exhausted (s : State M) (c : ℕ)
    (frames : List (Except TcpError (TcpToServer M))) : Prop where
  numbered : s.registry.Numbered
  drained : ∃ conn, s.streams[c]? = some conn ∧ conn.Drained frames
  messages : s.SoleUid c →
    tcpMessagesFrom (.ofNat c) s.events = frames.filterMap applicationMessage?

theorem State.SoleUid.of_le {s s' : State M} {c : ℕ} (h : s'.SoleUid c)
    (hle : s.streams.length ≤ s'.streams.length) : s.SoleUid c :=
  fun i hi ↦ h i (Nat.lt_of_lt_of_le hi hle)

theorem State.Exhausted.step {s s' : State M} {c : ℕ}
    {frames : List (Except TcpError (TcpToServer M))} (h : s.Exhausted c frames) {a : Action M}
    (hs : s.step a = some s') : s'.Exhausted c frames := by
  obtain ⟨conn, hconn, hd⟩ := h.drained
  obtain ⟨hlt, -⟩ := List.getElem?_eq_some_iff.1 hconn
  have hle := State.length_streams_le_of_step hs
  have hconn' := List.getElem?_eq_getElem (Nat.lt_of_lt_of_le hlt hle)
  obtain ⟨old, hold, hsteps⟩ := State.exists_connection_of_step h.numbered hs hlt hconn'
  obtain rfl := Option.some.inj (hold.symm.trans hconn)
  refine ⟨State.numbered_of_step h.numbered hs, ⟨_, hconn', hsteps.drained hd⟩, fun hsole ↦ ?_⟩
  have hnone : s.takes c a = none := by
    unfold State.takes
    split
    · split
      · rw [hconn, Option.bind_some, Channel.recv_eq_none_iff.2 hd.empty, Option.map_none]
      · rfl
    · rfl
  rw [State.tcpMessagesFrom_step h.numbered hs (hsole.of_le hle), h.messages (hsole.of_le hle),
    hnone, Option.bind_none, Option.toList_none, ite_self, List.append_nil]

/-- **When the end of a reader is reported**, its frames have all been handled. -/
theorem Run.exhausted_of_endOfStream (h : Run hist s) {c : ℕ} (hsole : s.SoleUid c) {a : Action M}
    {s' : State M} (hs : s.step a = some s')
    (hi : s.incoming? a = some (.endOfStream (.tcpReader (.ofNat c) (.controlled .endOfStream)))) :
    ∃ frames, s.Exhausted c frames := by
  obtain ⟨i, choice, conn, rfl, hconn, huid, hphase, hqueue⟩ := State.eq_next_of_tcpReaderEnd hi
  obtain ⟨hlt, -⟩ := List.getElem?_eq_some_iff.1 hconn
  rw [State.peerUid_eq (Run.numbered h) hconn] at huid
  obtain rfl := hsole i hlt huid
  obtain ⟨hsent, hended⟩ := (h.tended.sound i conn hconn).caused.endOfStream hphase
  refine ⟨_, Run.numbered h, ⟨conn, hconn, hphase, hqueue, hended, rfl⟩, fun _ ↦ ?_⟩
  obtain ⟨items, -, hall, hmsgs⟩ := h.exists_taken hsole
  obtain ⟨hwait, -⟩ := State.taken_of_incoming? hs hi
  have htaken : s.takenFrames i = conn.reader.tx.sent := by
    simp only [State.takenFrames, hconn]
    rw [← Channel.taken_append_queue, hqueue, List.append_nil]
  rw [hmsgs, hall (State.not_panicked_of_waiting hwait), htaken, hsent, filterMap_message?_map]

/-- **The read pipeline** of a connection, in the run so far. -/
structure ReadPipeline (hist : List (State M × Action M)) (s : State M) (conn : Connection M) :
    Prop where
  /-- The messages from the peer are those of an initial part of the frames read … -/
  delivered : ∃ frames, frames <+: conn.reader.stream.taken ∧
    tcpMessagesFrom conn.peerUid s.events = frames.filterMap applicationMessage?
  /-- … and once the reader has reported the end of its stream, for which the peer is dropped, those
  of all frames there are. No more are emitted from then on. -/
  complete : ∀ hist₁ hist₂ t a, hist = hist₁ ++ (t, a) :: hist₂ →
    t.incoming? a = some (.endOfStream (.tcpReader conn.peerUid (.controlled .endOfStream))) →
    conn.reader.stream.senderAlive = false ∧
      tcpMessagesFrom conn.peerUid t.events = conn.reader.stream.sent.filterMap applicationMessage? ∧
      tcpMessagesFrom conn.peerUid s.events = conn.reader.stream.sent.filterMap applicationMessage?

/-- **The read pipeline works**, in every run, for every connection whose uid has been given to no
other. -/
theorem Run.readPipeline (h : Run hist s) {c : ℕ} {conn : Connection M}
    (hconn : s.streams[c]? = some conn) (hsole : s.SoleUid c) : ReadPipeline hist s conn := by
  have huid := State.peerUid_eq (Run.numbered h) hconn
  constructor
  · obtain ⟨items, hitems, -, hmsgs⟩ := h.exists_taken hsole
    obtain ⟨frames, hframes, rfl⟩ :=
      List.prefix_map_iff.1 (hitems.trans (h.takenFrames_isPrefix hconn))
    rw [huid, hmsgs, filterMap_message?_map]
    exact ⟨frames, hframes, rfl⟩
  · intro hist₁ hist₂ t a heq hi
    obtain ⟨ht, t', hs⟩ := TransitionSystem.Run.exists_step_of_eq_append h heq
    have hmem : (t, a) ∈ hist := heq ▸ List.mem_append_right _ List.mem_cons_self
    have hsole' := hsole.of_le (h.length_streams_le_of_visited (Or.inr ⟨a, hmem⟩))
    rw [huid] at hi ⊢
    obtain ⟨frames, hbefore⟩ := Run.exhausted_of_endOfStream ht hsole' hs hi
    have hnext : t'.Exhausted c frames := hbefore.step hs
    have hafter : s.Exhausted c frames := TransitionSystem.Run.invariant_from
      (I := fun u ↦ u.Exhausted c frames) (fun _ _ _ hu hb ↦ State.Exhausted.step hu hb) h heq hs
      hnext
    obtain ⟨conn', hconn', hd⟩ := hafter.drained
    obtain rfl := Option.some.inj (hconn'.symm.trans hconn)
    rw [hd.sent]
    exact ⟨hd.ended, hbefore.messages hsole', hafter.messages hsole⟩

/-- Up to `2 ^ 64` connections each uid is given once, and always where overflow is checked. -/
theorem Run.soleUid (h : Run hist s)
    (huids : s.profile.overflowChecks = true ∨ s.streams.length ≤ 2 ^ 64) {c : ℕ}
    (hc : c < s.streams.length) : s.SoleUid c := by
  have hle := Run.length_streams_le h huids
  exact fun i hi huid ↦ PeerUid.ofNat_inj (by omega) (by omega) huid

/-- Two peers send, one of them an undecodable frame; the other one closes its connection. -/
theorem Run.readPipeline_of_two : ∃ hist, ∃ s : State plainMessages, Run hist s ∧
    s.events = [.newPeer ⟨.ofNat 0⟩, .newPeer ⟨.ofNat 1⟩, .tcpMessage ⟨.ofNat 0, ()⟩,
      .peerDisconnect ⟨.ofNat 1, .peerSubmittedUnintelligibleData⟩, .tcpMessage ⟨.ofNat 0, ()⟩,
      .peerDisconnect ⟨.ofNat 0, .peerClosedConnection⟩] ∧
    ∃ conn, s.streams[0]? = some conn ∧ ReadPipeline hist s conn := by
  have h : Run _ _ := TransitionSystem.run_of_exec (T := system plainMessages)
    (s := .start .dev ⟨2⟩) (l := Action.connect 1 1 [] ++ Action.connect 2 2 [0] ++
      Action.frame 0 (.ok (.applicationLogic ())) ++ Action.frame 1 (.error .bincode) ++
      Action.take (.tcpReader 0) [0, 1] ++ Action.frame 0 (.ok (.applicationLogic ())) ++
      Action.take (.tcpReader 1) [0, 1] ++ Action.take (.tcpReader 0) [0] ++
      [.env (.tcpEnd 0), .task (.tcpReader 0 .streamEnd)] ++ Action.take (.tcpReaderEnd 0) [0] ++
      [.loopTop])
    ⟨.dev, ⟨2⟩, rfl⟩ rfl
  exact ⟨_, _, h, rfl, _, rfl, Run.readPipeline h (c := 0) rfl (Run.soleUid h (Or.inl rfl) (by decide))⟩

/-! ### A uid that two connections have had -/

/-- A server that waits, whose first peer has sent a message. -/
theorem exists_talkativeGuest : ∃ hist, ∃ s : State plainMessages, Run hist s ∧ s.Hospitable ∧
    s.streams.length = 1 ∧ s.peerTcpSocketAddrToPeerUid.get? (address 11) = none ∧
    s.peerHandshakeUuidToPeerUid = HashMap.new.insert (uuid 0) (.ofNat 0) ∧
    (hist.map Prod.snd).filterMap Action.drawn? = [uuid 0] ∧
    s.events = [.newPeer ⟨.ofNat 0⟩, .tcpMessage ⟨.ofNat 0, ()⟩] ∧
    ∃ conn, s.streams = [conn] ∧ conn.reader.stream.sent.length = 1 := by
  have h : Run _ _ := TransitionSystem.run_of_exec (T := system plainMessages)
    (s := .start .release ⟨2⟩) (l := Action.connect 10 0 [] ++
      Action.frame 0 (.ok (.applicationLogic ())) ++ Action.take (.tcpReader 0) [0] ++ [.loopTop])
    ⟨.release, ⟨2⟩, rfl⟩ rfl
  exact ⟨_, _, h, ⟨rfl, rfl, rfl, rfl, by decide, rfl⟩, rfl, by decide, rfl, rfl, rfl, _, rfl, rfl⟩

/-- The last connection, which is new, sends a message. -/
theorem State.path_frame_last {s : State M} (hphase : s.phase = .top)
    (hprofile : s.profile = .release) (hdrop : s.peersToDrop = [])
    (hopen : s.eventSender.receiverAlive = true) {p : PeerUid} {uuid' : Uuid}
    {old : List (Connection M)} (hstreams : s.streams = old ++ [.welcomed p uuid'])
    {order : List PeerUid} (horder : s.peers.Enumerates order) (m : M.TcpToServer) :
    ∃ (l : List (Action M)) (conn : Connection M), conn.reader.stream.sent.length = 1 ∧
      (system M).Path s l { s with
        streams := old ++ [conn]
        eventSender := s.eventSender.push (.tcpMessage ⟨p, m⟩) } := by
  let frame : Except TcpError (TcpToServer M) := .ok (.applicationLogic m)
  let r₁ : ReadActor 64 (Except TcpError (TcpToServer M)) := .arrive .spawnActor frame
  let r₂ : ReadActor 64 (Except TcpError (TcpToServer M)) :=
    { r₁ with
      stream := { r₁.stream with received := 1, received_le := Nat.le_refl 1 }
      phase := .sending frame }
  let r₃ : ReadActor 64 (Except TcpError (TcpToServer M)) :=
    { r₂ with tx := r₂.tx.push (.streamItem frame), phase := .flushing }
  let conn (r : ReadActor 64 (Except TcpError (TcpToServer M))) : Connection M :=
    { (Connection.welcomed p uuid' : Connection M) with reader := r }
  have h1 : s.step (.env (.tcpFrame old.length frame)) =
      some { s with streams := old ++ [conn r₁] } :=
    updateConnection_last hstreams rfl
  have h2 : State.step { s with streams := old ++ [conn r₁] } (.task (.tcpReader old.length .item)) =
      some { s with streams := old ++ [conn r₂] } :=
    updateConnection_last rfl rfl
  have h3 : State.step { s with streams := old ++ [conn r₂] } (.task (.tcpReader old.length .send)) =
      some { s with streams := old ++ [conn r₃] } :=
    updateConnection_last rfl rfl
  have h4 : State.step { s with streams := old ++ [conn r₃] } .loopTop =
      some { s with streams := old ++ [conn r₃], phase := .waiting } := by
    simp only [step, hphase, if_true]
    exact congrArg some (loopTop_of_nil hdrop (sanityChecked_of_release hprofile))
  let r₄ : ReadActor 64 (Except TcpError (TcpToServer M)) :=
    { r₃ with tx := { r₃.tx with received := 1, received_le := Nat.le_refl 1 } }
  have h5 : State.step { s with streams := old ++ [conn r₃], phase := .waiting }
      (.next (.tcpReader old.length) ⟨uuid 0, order, []⟩) = some { s with
        streams := old ++ [conn r₄]
        eventSender := s.eventSender.push (.tcpMessage ⟨p, m⟩) } := by
    have hrecv : (conn r₃).reader.tx.recv = some (.streamItem frame, r₄.tx) := rfl
    simp only [step, horder, and_self, if_true, nextIncoming, List.getElem?_concat_length, hrecv,
      Option.map_some, modifyConnection, List.modify_length_append_singleton]
    refine congrArg some ((emit_of_alive ?_ _).trans ?_)
    · exact hopen
    · simp only [hphase]
      rfl
  exact ⟨[.env (.tcpFrame old.length frame), .task (.tcpReader old.length .item),
    .task (.tcpReader old.length .send), .loopTop,
    .next (.tcpReader old.length) ⟨uuid 0, order, []⟩], conn r₄, rfl,
    .cons h1 (.cons h2 (.cons h3 (.cons h4 (.cons h5 (.nil _)))))⟩

/-- A record that is replaced takes nothing from the stream of its connection. -/
theorem State.stream_of_streamsWithout {s : State M} {replaced : Option Peer} {c : ℕ}
    {conn' : Connection M} (h : (s.streamsWithout replaced)[c]? = some conn') :
    ∃ conn, s.streams[c]? = some conn ∧ conn'.reader.stream = conn.reader.stream := by
  cases replaced with
  | none => exact ⟨conn', h, rfl⟩
  | some peer =>
    have hstream : ∀ {t : State M} {i : ℕ} {f : Connection M → Connection M} {conn' : Connection M},
        (t.modifyConnection i f).streams[c]? = some conn' →
        (∀ conn, (f conn).reader.stream = conn.reader.stream) →
        ∃ conn, t.streams[c]? = some conn ∧ conn'.reader.stream = conn.reader.stream := by
      intro t i f conn' h hf
      obtain ⟨conn, hconn, ⟨-, rfl⟩ | ⟨-, rfl⟩⟩ := exists_of_modifyConnection h
      · exact ⟨conn, hconn, hf conn⟩
      · exact ⟨conn', hconn, rfl⟩
    simp only [streamsWithout, dropHandles] at h
    obtain ⟨mid, hmid, hwriter⟩ := hstream h fun _ ↦ rfl
    obtain ⟨conn, hconn, hreader⟩ := hstream hmid fun _ ↦ rfl
    exact ⟨conn, hconn, hwriter.trans hreader⟩

theorem ReadPipeline.length_le {conn : Connection M} (h : ReadPipeline hist s conn) :
    (tcpMessagesFrom conn.peerUid s.events).length ≤ conn.reader.stream.sent.length := by
  obtain ⟨frames, hframes, hmsgs⟩ := h.delivered
  have htaken : conn.reader.stream.taken <+: conn.reader.stream.sent := List.take_prefix _ _
  rw [hmsgs]
  exact Nat.le_trans (List.length_filterMap_le _ _) (hframes.trans htaken).length_le

theorem length_tcpMessagesFrom_append (p : PeerUid) (l l' : List (Event M)) :
    (tcpMessagesFrom p (l ++ l')).length =
      (tcpMessagesFrom p l).length + (tcpMessagesFrom p l').length := by
  rw [tcpMessagesFrom, List.filterMap_append, List.length_append]
  rfl

/-- **Two connections under one uid.** The first peer has sent a message, and after `2 ^ 64`
connections so does the next one. The two messages of uid 0 are those of neither connection. -/
theorem readPipeline_fails_after_wraparound : ∃ hist, ∃ s : State plainMessages, Run hist s ∧
    ∃ p ∈ s.streams.map Connection.peerUid, ∀ conn ∈ s.streams, conn.peerUid = p →
      ¬ ReadPipeline hist s conn := by
  obtain ⟨hist, s, h, hs, hone, haddr, hindex, hfirst, hevents, guest, hstreams, hsent⟩ :=
    exists_talkativeGuest
  obtain ⟨hist', gone, evs, hlen, -, h'⟩ := h.exists_replaced hs hone hfirst haddr hindex
  have hnext : (s.later gone evs).nextPeerUid = .ofNat 0 := State.nextPeerUid_later hlen
  obtain ⟨order, horder⟩ :=
    ((s.later gone evs).accepted (address 12) (uuid (2 ^ 64))).peers.exists_enumerates
  obtain ⟨l, conn, hconn, hpath⟩ := State.path_frame_last
    (s := (s.later gone evs).accepted (address 12) (uuid (2 ^ 64))) rfl hs.release hs.drained
    (hs.later gone evs).open_ rfl horder ()
  obtain ⟨hist'', -, h''⟩ := TransitionSystem.Run.append_path h' hpath
  have huids : ∀ (i : ℕ) (conn' : Connection plainMessages),
      ((s.later gone evs).streamsWithout _ ++ [conn])[i]? = some conn' → conn'.peerUid = .ofNat i :=
    fun i conn' hi ↦ State.peerUid_eq (Run.numbered h'') hi
  have hold := (s.later gone evs).length_streamsWithout
    ((s.later gone evs).peers.get? (s.later gone evs).nextPeerUid)
  have hcount : (s.later gone evs).streams.length = 2 ^ 64 := by
    rw [← hlen]
    exact List.length_append
  refine ⟨_, _, h'', .ofNat 0, ?_, fun conn' hmem huid hpipe ↦ ?_⟩
  · refine List.mem_map.2 ⟨conn, List.mem_append_right _ (List.mem_singleton_self _), ?_⟩
    rw [huids _ conn List.getElem?_concat_length, hold, hcount]
    rfl
  · -- a connection with uid 0 has brought one message at most
    obtain ⟨i, hi⟩ := List.mem_iff_getElem?.1 hmem
    have hone : conn'.reader.stream.sent.length = 1 := by
      rcases Nat.lt_or_ge i (2 ^ 64) with hlt | hge
      · obtain rfl := PeerUid.ofNat_inj hlt (by decide) ((huids i conn' hi).symm.trans huid)
        have hi' := (List.getElem?_append_left (by omega)).symm.trans hi
        obtain ⟨old, hfirst, hstream⟩ := State.stream_of_streamsWithout hi'
        have hguest : (s.streams ++ gone)[0]? = some old := hfirst
        rw [hstreams] at hguest
        obtain rfl := Option.some.inj hguest
        rw [hstream, hsent]
      · have hi' := (List.getElem?_append_right (by omega)).symm.trans hi
        obtain rfl := List.mem_singleton.1 (List.mem_of_getElem? hi')
        exact hconn
    -- and two messages of uid 0 were emitted
    have hle : (tcpMessagesFrom (.ofNat 0) (((evs.foldl Channel.push s.eventSender).sent ++
        [.newPeer ⟨(s.later gone evs).nextPeerUid⟩]) ++
        [.tcpMessage ⟨(s.later gone evs).nextPeerUid, ()⟩])).length ≤ 1 := by
      rw [← huid, ← hone]
      exact hpipe.length_le
    have hbefore : (tcpMessagesFrom (.ofNat 0) s.eventSender.sent).length = 1 := by
      rw [show s.eventSender.sent = _ from hevents]
      rfl
    rw [State.sent_foldl_push, hnext, length_tcpMessagesFrom_append, length_tcpMessagesFrom_append,
      length_tcpMessagesFrom_append, hbefore] at hle
    have hlast : (tcpMessagesFrom (.ofNat 0)
        [(.tcpMessage ⟨.ofNat 0, ()⟩ : Event plainMessages)]).length = 1 := rfl
    omega

end Server

end NetStream.Server
