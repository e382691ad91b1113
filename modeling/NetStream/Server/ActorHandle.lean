import NetStream.Server.Commands

/-!
# The server's actor handles

`server/actor_handle.rs`. The methods of a handle put a command into the broker's channel, and panic
if the broker does not take commands any more. Handles can be cloned freely, and since the channel
is unbounded it does not matter which of them a command comes through.

`get_number_of_connected_peers` is the one method that waits, for a reply. Its calls are answered in
the order in which they were made, each with the number of peers at one moment after the call
(`Run.peersCalls`), and while the broker has not panicked it can answer them by itself
(`Run.exists_path_answered`). A call that the broker leaves unanswered panics.
-/

namespace NetStream.Server

variable {M : MessageTypes}

namespace ActorHandle

/-- `self.sender.unbounded_send(..).expect("Actor is not accepting any new messages")`; `none` where
the caller panics. -/
def send (s : State M) (msg : Message M) : Option (State M) :=
  match s.msgReceiver.trySend msg with
  | .ok ch => some { s with msgReceiver := ch }
  | .error _ => none

/-- Send message to client on TCP. -/
def messagePeerTcp (s : State M) (peerUid : PeerUid) (msg : M.TcpFromServer) : Option (State M) :=
  send s (.toPeerTcp peerUid msg)

/-- Send message to client on UDP (lossy). -/
def messagePeerUdp (s : State M) (peerUid : PeerUid) (msg : M.UdpFromServer) : Option (State M) :=
  send s (.toPeerUdp peerUid msg)

/-- Send announcement to all connected clients on TCP. -/
def announceTcp (s : State M) (msg : M.TcpFromServer) : Option (State M) :=
  send s (.announceTcp msg)

/-- Send announcement to all connected clients on UDP (lossy). -/
def announceUdp (s : State M) (msg : M.UdpFromServer) : Option (State M) :=
  send s (.announceUdp msg)

/-- Get number of connected peers, up to the wait for the reply on the oneshot channel. -/
def getNumberOfConnectedPeers (s : State M) (tx : ℕ) : Option (State M) :=
  send s (.getNumberOfConnectedPeers tx)

theorem send_eq_some_iff {s s' : State M} {msg : Message M} :
    send s msg = some s' ↔ s.msgReceiver.receiverAlive = true ∧
      s' = { s with msgReceiver := s.msgReceiver.push msg } := by
  unfold send
  split
  · rename_i ch hsend
    obtain ⟨haccepts, rfl⟩ := Channel.trySend_eq_ok_iff.1 hsend
    rw [Channel.accepts_iff_of_unbounded] at haccepts
    simp [haccepts, eq_comm]
  · rename_i err hsend
    have hnot : ¬ s.msgReceiver.Accepts := fun ha ↦ by
      rw [Channel.trySend_of_accepts ha] at hsend
      cases hsend
    rw [Channel.accepts_iff_of_unbounded] at hnot
    simp [hnot]

/-- A call that does not panic is the step in which the command is given. -/
theorem step_of_send {s s' : State M} {msg : Message M} (halive : s.msgReceiver.senderAlive = true)
    (hsend : send s msg = some s') : s.step (.env (.command msg)) = some s' := by
  obtain ⟨hopen, rfl⟩ := send_eq_some_iff.1 hsend
  simp only [State.step, State.envStep, halive, if_true]
  rw [Channel.offer_of_accepts (Channel.accepts_iff_of_unbounded.2 hopen)]

end ActorHandle

/-! ### The calls that wait for a reply -/

/-- The oneshot channel of a question. -/
def Message.question? : Message M → Option ℕ
  | .getNumberOfConnectedPeers tx => some tx
  | _ => none

/-- The calls of `get_number_of_connected_peers` that a list of commands comes from. -/
def questions (l : List (Message M)) : List ℕ :=
  l.filterMap Message.question?

/-- Where a call of `get_number_of_connected_peers` stands. -/
inductive PeersCall
  | waiting
  | returned (n : ℕ)
  /-- `Expected response from actor`. -/
  | panicked

/-- Where the accepted call number `i` stands. The end of the broker's task drops the questions that
it has not taken, and with them the senders of the replies. -/
def State.peersCall (s : State M) (i : ℕ) : PeersCall :=
  match s.replies[i]? with
  | some reply => .returned reply.2
  | none =>
    match s.phase with
    | .panicked _ => .panicked
    | _ => .waiting

section Run

variable {hist : List (State M × Action M)} {s : State M}

/-- The replies are those to the questions taken. -/
theorem Run.map_fst_replies (h : Run hist s) :
    s.replies.map Prod.fst = questions (takenCommands hist) := by
  induction h with
  | start h =>
    obtain ⟨profile, config, rfl⟩ := h
    rfl
  | @next hist s s' a h hs ih =>
    rw [takenCommands_append_singleton, (State.commandStep hs).replies, List.map_append, ih,
      questions, questions, List.filterMap_append, reply?]
    cases takenCommand? s a with
    | none => rfl
    | some msg => cases msg <;> rfl

/-- **The calls and the replies**: each reply is for the call at its position. -/
theorem Run.questions_eq (h : Run hist s) : questions (givenCommands hist) =
    s.replies.map Prod.fst ++ questions s.msgReceiver.queue := by
  rw [h.givenCommands_eq, h.map_fst_replies, questions, questions, questions, List.filterMap_append]

theorem State.config_of_step {s' : State M} {a : Action M} (hs : s.step a = some s') :
    s'.config = s.config := by
  have hreg := congrArg Registry.config (State.registry_step hs)
  rwa [Registry.after_config] at hreg

/-- **Each reply is the truth at one moment after its call**: at the step of the run in which the
question was taken. -/
theorem Run.exists_of_reply (h : Run hist s) {i tx n : ℕ} (hi : s.replies[i]? = some (tx, n)) :
    ∃ hist₁ t a hist₂, hist = hist₁ ++ (t, a) :: hist₂ ∧ Run hist₁ t ∧
      takenCommand? t a = some (.getNumberOfConnectedPeers tx) ∧
      (questions (givenCommands hist₁))[i]? = some tx ∧ n = t.peers.len ∧ t.config = s.config := by
  induction h with
  | start h =>
    obtain ⟨profile, config, rfl⟩ := h
    simp [State.start] at hi
  | @next hist s s' a h hs ih =>
    have hconfig := State.config_of_step hs
    rw [(State.commandStep hs).replies] at hi
    rcases Nat.lt_or_ge i s.replies.length with hlt | hge
    · rw [List.getElem?_append_left hlt] at hi
      obtain ⟨hist₁, t, b, hist₂, rfl, ht, htaken, hgiven, hn, hsame⟩ := ih hi
      exact ⟨hist₁, t, b, hist₂ ++ [(s, a)], by simp, ht, htaken, hgiven, hn,
        hsame.trans hconfig.symm⟩
    · rw [List.getElem?_append_right hge] at hi
      obtain ⟨hpos, hreply⟩ := List.getElem?_eq_some_iff.1 hi
      obtain ⟨msg, hmsg, hr⟩ : ∃ msg, takenCommand? s a = some msg ∧
          msg.reply? s.peers = some (tx, n) := by
        have hmem : (tx, n) ∈ reply? s a := Option.mem_toList.1 (hreply ▸ List.getElem_mem hpos)
        exact Option.bind_eq_some_iff.1 hmem
      have hzero : i = s.replies.length := by
        have hle : (reply? s a).toList.length ≤ 1 := by cases reply? s a <;> simp
        omega
      cases msg with
      | getNumberOfConnectedPeers tx' =>
        obtain ⟨rfl, rfl⟩ := Prod.mk.inj (Option.some.inj hr)
        refine ⟨hist, s, a, [], rfl, h, hmsg, ?_, rfl, hconfig.symm⟩
        -- the question taken is the first of those that wait
        obtain ⟨source, choice, incoming, t, rfl, hr⟩ : ∃ source choice incoming t,
            a = .next source choice ∧ s.nextIncoming source = some (incoming, t) := by
          cases a with
          | next source choice =>
            cases hr : s.nextIncoming source with
            | none => simp [takenCommand?, State.incoming?, hr] at hmsg
            | some r => exact ⟨source, choice, r.1, r.2, rfl, by rw [hr]⟩
          | loopTop | task _ | env _ => cases hmsg
        simp only [takenCommand?, State.incoming?, hr, Option.map_some, Option.bind_some] at hmsg
        have hqueue : ∃ rest, s.msgReceiver.queue = .getNumberOfConnectedPeers tx' :: rest := by
          cases State.taken_of_nextIncoming hr with
          | actorMessage hrecv =>
            obtain ⟨hqueue, -⟩ := Channel.recv_spec hrecv
            obtain rfl := Option.some.inj hmsg
            exact ⟨_, hqueue⟩
          | _ => cases hmsg
        obtain ⟨rest, hqueue⟩ := hqueue
        rw [Run.questions_eq h, hqueue, hzero, List.getElem?_append_right (by simp), List.length_map,
          Nat.sub_self]
        rfl
      | toPeerTcp _ _ | toPeerUdp _ _ | announceTcp _ | announceUdp _ => cases hr

end Run

/-! ### The broker can answer by itself -/

/-- The broker goes through the top of its loop, or handles a command. -/
def Action.handlesCommands : Action M → Bool
  | .loopTop => true
  | .next .actorMessage _ => true
  | _ => false

namespace State

variable {s s' : State M}

/-- Nothing makes the broker panic but what the world does: there is no sanity check, and someone
listens to events. -/
structure Unhindered (s : State M) : Prop where
  notPanicked : ¬ s.Panicked
  unchecked : s.profile.debugAssertions = false
  listening : s.eventSender.receiverAlive = true

/-- Neither is changed by the broker. -/
theorem Unhindered.of_step (h : s.Unhindered) {a : Action M} (ha : a.handlesCommands = true)
    (hs : s.step a = some s') (hnot : ¬ s'.Panicked) : s'.Unhindered where
  notPanicked := hnot
  unchecked := by
    have hprofile := congrArg Registry.profile (registry_step hs)
    rw [Registry.after_profile] at hprofile
    exact (congrArg Profile.debugAssertions hprofile).trans h.unchecked
  listening := by
    refine (receiverAlive_of_step hs ?_).trans h.listening
    rintro rfl
    cases ha

/-- At the top of the loop the broker goes on to wait, with the same commands before it. -/
theorem Unhindered.exists_path_waiting (h : s.Unhindered) : ∃ l s', (system M).Path s l s' ∧
    (∀ a ∈ l, a.handlesCommands = true) ∧ s'.Unhindered ∧ s'.phase = .waiting ∧
    s'.msgReceiver.queue = s.msgReceiver.queue := by
  cases hphase : s.phase with
  | panicked site => exact absurd ⟨site, hphase⟩ h.notPanicked
  | waiting => exact ⟨[], s, .nil s, nofun, h, hphase, rfl⟩
  | top =>
    have hs : s.step .loopTop = some (Server.loopTop s) := by
      rw [step, if_pos hphase]
    have hpass : s.droppingPanics = none := by
      have hemit : s.emitPanics = none := if_pos h.listening
      rw [droppingPanics, if_neg (by simp [h.unchecked]), hemit, ite_self]
    have hwait : (Server.loopTop s).phase = .waiting := by
      rw [phase_loopTop, hpass]
      rfl
    have hnot := not_panicked_of_waiting hwait
    have hmsgs : (Server.loopTop s).msgReceiver.queue = s.msgReceiver.queue := by
      rw [(Serves.loopTop s).msgReceiver_eq hnot]
    exact ⟨[.loopTop], _, .cons hs (.nil _), by simp [Action.handlesCommands],
      h.of_step rfl hs hnot, hwait, hmsgs⟩

/-- A waiting broker handles the next command. -/
theorem Unhindered.exists_step_command (h : s.Unhindered) (hphase : s.phase = .waiting)
    {msg : Message M} {rest : List (Message M)} (hqueue : s.msgReceiver.queue = msg :: rest) :
    ∃ a s', s.step a = some s' ∧ a.handlesCommands = true ∧ s'.Unhindered ∧
      s'.msgReceiver.queue = rest := by
  obtain ⟨order, horder⟩ := s.peers.exists_enumerates
  obtain ⟨⟨msg', ch⟩, hrecv⟩ : ∃ r, s.msgReceiver.recv = some r := by
    refine Option.ne_none_iff_exists'.1 fun hnone ↦ ?_
    rw [Channel.recv_eq_none_iff.1 hnone] at hqueue
    cases hqueue
  have hr : s.nextIncoming .actorMessage =
      some (.actorMessage msg', { s with msgReceiver := ch }) := by
    rw [nextIncoming, hrecv, Option.map_some]
  let choice : Choice := ⟨⟨0⟩, order, []⟩
  have hs : s.step (.next .actorMessage choice) =
      some (handleIncoming { s with msgReceiver := ch, phase := .top } (.actorMessage msg')
        choice) := by
    rw [step, if_pos ⟨hphase, horder⟩, hr, Option.map_some]
  have htop : (handleIncoming { s with msgReceiver := ch, phase := .top } (.actorMessage msg')
      choice).phase = .top := phase_handleActorMessage _ _ _ _
  have hserves := Serves.handleIncoming (s := { s with msgReceiver := ch, phase := .top })
    (not_panicked_of_top rfl) (.actorMessage msg') choice
  obtain ⟨hhead, -, hsent, -, -⟩ := Channel.recv_spec hrecv
  have hrest : ch.queue = rest := (List.cons.inj (hhead.symm.trans hqueue)).2
  have hnot := not_panicked_of_top htop
  refine ⟨_, _, hs, rfl, h.of_step rfl hs hnot, ?_⟩
  rw [hserves.msgReceiver_eq hnot]
  exact hrest

/-- **The broker can handle all commands that wait**, with nothing in between. -/
theorem Unhindered.exists_path_drained (h : s.Unhindered) : ∃ l s', (system M).Path s l s' ∧
    (∀ a ∈ l, a.handlesCommands = true) ∧ s'.msgReceiver.queue = [] := by
  obtain ⟨n, hn⟩ : ∃ n, s.msgReceiver.queue.length = n := ⟨_, rfl⟩
  induction n generalizing s with
  | zero => exact ⟨[], s, .nil s, nofun, List.eq_nil_of_length_eq_zero hn⟩
  | succ n ih =>
    obtain ⟨l₁, t, hpath₁, hl₁, ht, hwait, hqueue⟩ := h.exists_path_waiting
    obtain ⟨msg, rest, hcons⟩ : ∃ msg rest, t.msgReceiver.queue = msg :: rest :=
      List.exists_cons_of_length_eq_add_one (hqueue ▸ hn)
    obtain ⟨a, t', hs, ha, ht', hrest⟩ := ht.exists_step_command hwait hcons
    have hlen : t'.msgReceiver.queue.length = n := by
      rw [← hqueue, hcons, List.length_cons] at hn
      rw [hrest]
      omega
    obtain ⟨l₂, s', hpath₂, hl₂, hdone⟩ := ih ht' hlen
    refine ⟨l₁ ++ a :: l₂, s', hpath₁.append (.cons hs hpath₂), fun b hb ↦ ?_, hdone⟩
    rcases List.mem_append.1 hb with hb | hb
    · exact hl₁ b hb
    · rcases List.mem_cons.1 hb with rfl | hb
      · exact ha
      · exact hl₂ b hb

end State

/-! ### The calls over a run -/

/-- **The calls of `get_number_of_connected_peers`** over a run with this history. -/
structure PeersCalls (hist : List (State M × Action M)) (s : State M) : Prop where
  /-- A call through a handle panics at once exactly if the broker has panicked. -/
  accepted : ∀ msg : Message M, (ActorHandle.send s msg).isSome = true ↔ ¬ s.Panicked
  /-- Replies are given in the order of the calls. -/
  inOrder : s.replies.map Prod.fst <+: questions (givenCommands hist)
  /-- A call returns the number of peers at one moment after it. -/
  returned : ∀ i n, s.peersCall i = .returned n → ∃ hist₁ t a hist₂,
    hist = hist₁ ++ (t, a) :: hist₂ ∧ i < (questions (givenCommands hist₁)).length ∧
      n = t.peers.len ∧ n ≤ s.config.maxConnections
  /-- It panics exactly if the broker has panicked without a reply to it. -/
  panicked : ∀ i, s.peersCall i = .panicked ↔ s.Panicked ∧ s.replies.length ≤ i
  /-- While the broker is unhindered it can still reply, without a step of anyone else. -/
  waiting : ∀ i < (questions (givenCommands hist)).length, s.Unhindered → ∃ l s',
    (system M).Path s l s' ∧ (∀ a ∈ l, a.handlesCommands = true) ∧
      ∃ n, s'.peersCall i = .returned n

section Calls

variable {hist : List (State M × Action M)} {s : State M}

theorem State.peersCall_eq_returned_iff {i n : ℕ} :
    s.peersCall i = .returned n ↔ ∃ tx, s.replies[i]? = some (tx, n) := by
  rw [State.peersCall]
  split
  · rename_i reply hreply
    rw [hreply]
    constructor
    · intro h
      exact ⟨reply.1, by rw [← PeersCall.returned.inj h]⟩
    · rintro ⟨tx, h⟩
      rw [Option.some.inj h]
  · rename_i hnone
    rw [hnone]
    split <;> simp

theorem State.peersCall_eq_panicked_iff {i : ℕ} :
    s.peersCall i = .panicked ↔ s.Panicked ∧ s.replies.length ≤ i := by
  rw [State.peersCall, State.Panicked]
  split
  · rename_i reply hreply
    obtain ⟨hlt, -⟩ := List.getElem?_eq_some_iff.1 hreply
    simp [hlt]
  · rename_i hnone
    have hle := List.getElem?_eq_none_iff.1 hnone
    split
    · rename_i site hphase
      exact iff_of_true rfl ⟨⟨site, hphase⟩, hle⟩
    · rename_i hphase
      exact iff_of_false (fun h ↦ by cases h) fun h ↦ h.1.elim hphase

theorem givenCommands_of_path {l : List (Action M)} {s' : State M} (h : Run hist s)
    (hpath : (system M).Path s l s') (hl : ∀ a ∈ l, a.handlesCommands = true) :
    ∃ hist', Run (hist ++ hist') s' ∧ givenCommands (hist ++ hist') = givenCommands hist := by
  obtain ⟨hist', hactions, h'⟩ := h.append_path hpath
  refine ⟨hist', h', ?_⟩
  have hnone : hist'.filterMap (fun x ↦ givenCommand? x.1 x.2) = [] := by
    rw [List.filterMap_eq_nil_iff]
    rintro ⟨t, a⟩ hx
    have ha := hl a (hactions ▸ List.mem_map_of_mem hx)
    cases a with
    | env e => cases ha
    | _ => rfl
  rw [givenCommands, List.filterMap_append, hnone, List.append_nil, givenCommands]

/-- **How calls end.** In every run, the calls of `get_number_of_connected_peers` through any number
of handles are answered in order, each with the number of peers at one moment after it, and only a
panic of the broker leaves one without an answer. -/
theorem Run.peersCalls (h : Run hist s) : PeersCalls hist s where
  accepted msg := by
    rw [← h.serving.commands, Option.isSome_iff_exists]
    simp only [ActorHandle.send_eq_some_iff, exists_and_left, exists_eq, and_true]
  inOrder := by
    rw [h.questions_eq]
    exact List.prefix_append _ _
  returned i n hn := by
    obtain ⟨tx, hi⟩ := State.peersCall_eq_returned_iff.1 hn
    obtain ⟨hist₁, t, a, hist₂, heq, ht, -, hgiven, rfl, hconfig⟩ := h.exists_of_reply hi
    obtain ⟨hlt, -⟩ := List.getElem?_eq_some_iff.1 hgiven
    refine ⟨hist₁, t, a, hist₂, heq, hlt, rfl, ?_⟩
    rw [← hconfig]
    exact ht.registry.len_peers_le
  panicked i := State.peersCall_eq_panicked_iff
  waiting i hi hfree := by
    obtain ⟨l, s', hpath, hl, hdone⟩ := hfree.exists_path_drained
    obtain ⟨hist', h', hgiven⟩ := givenCommands_of_path h hpath hl
    refine ⟨l, s', hpath, hl, ?_⟩
    -- with an empty queue there are as many replies as calls
    have hlen : i < s'.replies.length := by
      rw [← hgiven, h'.questions_eq, hdone] at hi
      simpa [questions] using hi
    exact ⟨_, State.peersCall_eq_returned_iff.2 ⟨_, List.getElem?_eq_getElem hlen⟩⟩

/-- A call that is answered with the one peer there is, and a second one that waits. -/
theorem Run.peersCalls_of_two : ∃ hist, ∃ s : State plainMessages, Run hist s ∧
    s.peersCall 0 = .returned 1 ∧ s.peersCall 1 = .waiting ∧ PeersCalls hist s := by
  have h : Run _ _ := TransitionSystem.run_of_exec (T := system plainMessages)
    (s := .start .release ⟨2⟩) (l := Action.connect 1 1 [] ++
      Action.command (.getNumberOfConnectedPeers 7) [0] ++
      [.env (.command (.getNumberOfConnectedPeers 8))])
    ⟨.release, ⟨2⟩, rfl⟩ rfl
  exact ⟨_, _, h, rfl, rfl, Run.peersCalls h⟩

end Calls

end NetStream.Server
