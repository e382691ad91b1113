import NetStream.Actors.ReadLoop
import NetStream.Networking

/-!
# A read actor on a UDP socket

A receive from the socket yields a datagram with its sender or an error of the socket. `UdpFramed`
drops a datagram without bytes and hands on everything else; after an error it goes on. The stream
that `new` of `udp.rs` makes of this deserializes each datagram by itself, and panics on an error:
in the poll of the read actor, whose task that ends.

The actor lives in the server or in the client, each of which is a `Host` for it: what happens to
the actor there, the steps of its task apart, leaves alone where it is, what it reads and what it has
sent on. Then the items sent on are those of the datagrams, in order, in any run (`Run.forwards`),
and a run takes no harm from what is received exactly if nothing received makes the stream panic
(`Run.survives_iff`).
-/

namespace NetStream

/-- A datagram that `UdpFramed` hands on, with its sender. -/
structure Datagram where
  buf : List UInt8
  socketAddr : SocketAddr
  nonempty : buf ≠ []

namespace Udp

/-- What a receive from the socket yields. -/
inductive Received
  | datagram (d : Datagram)
  /-- An `io::Error`, such as a refused connection that the peer's host reports. -/
  | ioError

/-- A datagram, deserialized, and its sender. -/
def deserialize {St : Type} (bincode : List UInt8 → Except Unit St) (d : Datagram) :
    Except UdpError St × SocketAddr :=
  match bincode d.buf with
  | .ok message => (.ok message, d.socketAddr)
  | .error () => (.error .bincode, d.socketAddr)

/-- The stream of `new`: the item for what is received, and nothing where it panics. -/
def new {St : Type} (bincode : List UInt8 → Except Unit St) :
    Received → Option (Except UdpError St × SocketAddr)
  | .datagram d => some (deserialize bincode d)
  -- `expect("BytesCodec never fails deserialization")`
  | .ioError => none

end Udp

namespace ReadActor

variable {txBuffer : ℕ} {T : Type}

/-- The task is in the poll of its stream, with nothing that has arrived left to take. -/
def polls (r : ReadActor txBuffer T) : Bool :=
  match r.phase with
  | .selecting => r.stream.queue.isEmpty
  | .sending _ | .flushing | .finished _ => false

/-- The task does not move, and nothing arrives. -/
structure Rests (r r' : ReadActor txBuffer T) : Prop where
  stream : r'.stream = r.stream
  sent : r'.tx.sent = r.tx.sent
  phase : r'.phase = r.phase

/-- An item arrives, or the task takes a step. -/
inductive Move (T : Type)
  | arrive (item : T)
  | task (st : Step)

/-- The actor after a move, where it is enabled. -/
def move (r : ReadActor txBuffer T) : Move T → Option (ReadActor txBuffer T)
  | .arrive item => some (r.arrive item)
  | .task st => r.step st

/-- The item that arrives. -/
def Move.item? : Move T → Option T
  | .arrive item => some item
  | .task _ => none

/-- The move is the stream's: an item, or a panic in the poll. -/
def Move.ofStream : Move T → Bool
  | .arrive _ | .task (.erratic .panic) => true
  | .task _ => false

/-- The actor has read these items, and sends them on. -/
structure Forwards (r : ReadActor txBuffer T) (items : List T) : Prop where
  tracks : r.Tracks
  stream : r.stream.sent = items

variable {r r' : ReadActor txBuffer T} {items : List T}

theorem forwards_spawnActor : (spawnActor : ReadActor txBuffer T).Forwards [] :=
  ⟨tracks_spawnActor, rfl⟩

theorem Forwards.rests (h : r.Forwards items) (hr : Rests r r') : r'.Forwards items :=
  ⟨h.tracks.of_eq hr.phase hr.sent (by rw [hr.stream]), by rw [hr.stream, h.stream]⟩

theorem Forwards.move (h : r.Forwards items) {m : Move T} (hm : r.move m = some r') :
    r'.Forwards (items ++ m.item?.toList) := by
  cases m with
  | arrive item =>
    obtain rfl := Option.some.inj hm
    exact ⟨h.tracks.arrive item, congrArg (· ++ [item]) h.stream⟩
  | task st =>
    refine ⟨h.tracks.step hm, ?_⟩
    exact (stream_sent_step hm).trans (h.stream.trans (List.append_nil _).symm)

/-- What was sent on begins the items. -/
theorem Forwards.sent_isPrefix (h : r.Forwards items) : r.tx.sent <+: items.map .streamItem := by
  have htaken : r.stream.taken <+: r.stream.sent := List.take_prefix _ _
  rw [← h.stream]
  exact h.tracks.sent_isPrefix.trans (htaken.map _)

/-- An actor that polls for the next item has sent on all others. -/
theorem Forwards.sent_eq (h : r.Forwards items) (hp : r.polls = true) :
    r.tx.sent = items.map .streamItem := by
  have htracks := h.tracks
  unfold polls at hp
  unfold Tracks at htracks
  split at hp
  · rename_i hphase
    rw [hphase] at htracks
    rw [← h.stream, htracks, ← Channel.taken_append_queue, List.isEmpty_iff.1 hp, List.append_nil]
  all_goals cases hp

/-- The task panics in no other way. -/
theorem phase_of_move {m : Move T} (hm : r.move m = some r')
    (hphase : r'.phase = .finished (.erratic .panic)) :
    r.phase = .finished (.erratic .panic) ∨ m = .task (.erratic .panic) := by
  cases m with
  | arrive item =>
    obtain rfl := Option.some.inj hm
    exact Or.inl hphase
  | task st =>
    rcases step_cases hm with ⟨ch, -, -, -, rfl⟩ | ⟨-, -, -, -, rfl⟩ | ⟨item, ch, -, -, -, rfl⟩ |
      ⟨-, -, -, -, rfl⟩ | ⟨item, -, -, ⟨-, rfl⟩ | ⟨-, rfl⟩⟩ | ⟨-, -, -, rfl⟩ | ⟨err, rfl, -, rfl⟩
    · cases hphase
    · cases hphase
    · cases hphase
    · cases hphase
    · cases hphase
    · cases hphase
    · cases hphase
    · cases hphase
      exact Or.inr rfl

theorem phase_of_erratic {err : ErraticActorShutdown} (h : r.step (.erratic err) = some r') :
    r'.phase = .finished (.erratic err) := by
  simp only [step] at h
  split at h
  · cases h
  · obtain rfl := Option.some.inj h
    rfl

/-- A system in which a read actor lives. -/
structure Host (σ α : Type) (txBuffer : ℕ) (T : Type) where
  system : TransitionSystem σ α
  /-- The actor. -/
  reader : σ → ReadActor txBuffer T
  /-- The move of the actor that an action is, if it is one. -/
  move? : α → Option (Move T)
  /-- The action that is a move. -/
  act : Move T → α
  move?_act : ∀ m, move? (act m) = some m
  init : ∀ s, system.init s → reader s = spawnActor
  moves : ∀ s a s' m, system.step s a = some s' → move? a = some m →
    (reader s).move m = some (reader s')
  rests : ∀ s a s', system.step s a = some s' → move? a = none → Rests (reader s) (reader s')

namespace Host

/-- What happens in a host whose actor reads a socket. -/
inductive Action (α ρ : Type)
  /-- A receive from the socket ends. -/
  | received (x : ρ)
  /-- Any other action. -/
  | other (a : α)

/-- What is received in an action. -/
def Action.received? {α ρ : Type} : Action α ρ → Option ρ
  | .received x => some x
  | .other _ => none

variable {σ α ρ : Type} (H : Host σ α txBuffer T) (stream : ρ → Option T)

/-- The host whose actor reads what is received as the items of this stream. An item arrives at any
time, since it can wait in the socket; the stream panics when it is polled. -/
def socket : TransitionSystem σ (Action α ρ) where
  init := H.system.init
  step s
    | .received x =>
      match stream x with
      | some item => H.system.step s (H.act (.arrive item))
      | none =>
        if (H.reader s).polls then H.system.step s (H.act (.task (.erratic .panic))) else none
    | .other a => if (H.move? a).any Move.ofStream then none else H.system.step s a

/-- What was received in a run, in order. -/
def received (hist : List (σ × Action α ρ)) : List ρ :=
  hist.filterMap fun x ↦ x.2.received?

theorem received_append_singleton (hist : List (σ × Action α ρ)) (s : σ) (a : Action α ρ) :
    received (hist ++ [(s, a)]) = received hist ++ a.received?.toList :=
  List.filterMap_append_singleton _ hist (s, a)

/-- **What is received does no harm**, over a run with this history. -/
structure Survives (hist : List (σ × Action α ρ)) (s : σ) : Prop where
  /-- The items are sent on in order and once each … -/
  forwarded : (H.reader s).tx.sent <+: ((received hist).filterMap stream).map .streamItem
  /-- … and all of them, when the actor polls for the next one. -/
  caughtUp : (H.reader s).polls = true →
    (H.reader s).tx.sent = ((received hist).filterMap stream).map .streamItem
  notPanicked : ∀ t, TransitionSystem.Visited hist s t →
    (H.reader t).phase ≠ .finished (.erratic .panic)
  /-- Nothing received ends the task. -/
  goesOn : ∀ t x t', (t, .received x) ∈ hist → (H.socket stream).step t (.received x) = some t' →
    (H.reader t').isFinished = (H.reader t).isFinished

variable {H stream} {s s' : σ} {hist : List (σ × Action α ρ)}

/-- **Inversion**: an item arrives, or the stream panics in the poll, or the host does something
else. -/
theorem step_cases {a : Action α ρ} (h : (H.socket stream).step s a = some s') :
    (∃ x item, a = .received x ∧ stream x = some item ∧
      (H.reader s).move (.arrive item) = some (H.reader s')) ∨
    (∃ x, a = .received x ∧ stream x = none ∧ (H.reader s).polls = true ∧
      (H.reader s).move (.task (.erratic .panic)) = some (H.reader s')) ∨
    (∃ b m, a = .other b ∧ m.ofStream = false ∧ (H.reader s).move m = some (H.reader s')) ∨
    (∃ b, a = .other b ∧ Rests (H.reader s) (H.reader s')) := by
  cases a with
  | received x =>
    simp only [socket] at h
    split at h
    · rename_i item hx
      exact Or.inl ⟨x, item, rfl, hx, H.moves _ _ _ _ h (H.move?_act _)⟩
    · rename_i hx
      split at h
      · rename_i hp
        exact Or.inr (Or.inl ⟨x, rfl, hx, hp, H.moves _ _ _ _ h (H.move?_act _)⟩)
      · cases h
  | other b =>
    simp only [socket] at h
    split at h
    · cases h
    · rename_i hstream
      cases hm : H.move? b with
      | none => exact Or.inr (Or.inr (Or.inr ⟨b, rfl, H.rests _ _ _ h hm⟩))
      | some m =>
        rw [hm] at hstream
        exact Or.inr (Or.inr (Or.inl ⟨b, m, rfl, by simpa using hstream, H.moves _ _ _ _ h hm⟩))

theorem forwards_of_step {items : List T} (h : (H.reader s).Forwards items) {a : Action α ρ}
    (hs : (H.socket stream).step s a = some s') :
    (H.reader s').Forwards (items ++ (a.received?.bind stream).toList) := by
  rcases step_cases hs with ⟨x, item, rfl, hx, hm⟩ | ⟨x, rfl, hx, -, hm⟩ | ⟨b, m, rfl, hstream, hm⟩ |
    ⟨b, rfl, hr⟩
  · show (H.reader s').Forwards (items ++ (stream x).toList)
    rw [hx]
    exact h.move hm
  · show (H.reader s').Forwards (items ++ (stream x).toList)
    rw [hx]
    exact h.move hm
  · cases m with
    | arrive item => cases hstream
    | task st => exact h.move hm
  · show (H.reader s').Forwards (items ++ [])
    rw [List.append_nil]
    exact h.rests hr

/-- **In any run, the actor sends on the items of what is received.** -/
theorem Run.forwards (h : (H.socket stream).Run hist s) :
    (H.reader s).Forwards ((received hist).filterMap stream) := by
  induction h with
  | start h =>
    rw [H.init _ h]
    exact forwards_spawnActor
  | @next hist s s' a _ hs ih =>
    have hitems : (received (hist ++ [(s, a)])).filterMap stream =
        (received hist).filterMap stream ++ (a.received?.bind stream).toList := by
      rw [received_append_singleton]
      cases a.received? with
      | none => simp
      | some x => exact List.filterMap_append_singleton stream _ x
    rw [hitems]
    exact forwards_of_step ih hs

/-- The stream does not panic in the action. -/
def Harmless (stream : ρ → Option T) (a : Action α ρ) : Prop :=
  ∀ x, a = .received x → stream x ≠ none

/-- A step is harmless exactly if the actor has not panicked after it. -/
theorem notPanicked_iff_of_step {a : Action α ρ} (hs : (H.socket stream).step s a = some s')
    (hnot : (H.reader s).phase ≠ .finished (.erratic .panic)) :
    (H.reader s').phase ≠ .finished (.erratic .panic) ↔ Harmless stream a := by
  rcases step_cases hs with ⟨x, item, rfl, hx, hm⟩ | ⟨x, rfl, hx, -, hm⟩ | ⟨b, m, rfl, hstream, hm⟩ |
    ⟨b, rfl, hr⟩
  · refine iff_of_true (fun hp ↦ ?_) fun y hy ↦ ?_
    · rcases phase_of_move hm hp with hp | hp
      · exact hnot hp
      · cases hp
    · cases hy
      simp [hx]
  · have hpanicked : (H.reader s').phase = .finished (.erratic .panic) :=
      phase_of_erratic hm
    exact iff_of_false (fun hp ↦ hp hpanicked) fun hharmless ↦ hharmless x rfl hx
  · refine iff_of_true (fun hp ↦ ?_) nofun
    rcases phase_of_move hm hp with hp | hm
    · exact hnot hp
    · cases hm ▸ hstream
  · exact iff_of_true (fun hp ↦ hnot (hr.phase.symm.trans hp)) nofun

/-- **What is received does no harm exactly if nothing in it makes the stream panic.** -/
theorem Run.survives_iff (h : (H.socket stream).Run hist s) :
    H.Survives stream hist s ↔ ∀ x ∈ hist, Harmless stream x.2 := by
  have hexact := TransitionSystem.Run.forall_visited_iff
    (I := fun t ↦ (H.reader t).phase ≠ .finished (.erratic .panic))
    (C := fun _ a ↦ Harmless stream a) (fun t ht ↦ by rw [H.init t ht]; exact nofun) h
    fun _ t a t' _ _ hnot hs ↦ notPanicked_iff_of_step hs hnot
  have hforwards := Run.forwards h
  refine ⟨fun hsurvives ↦ hexact.1 hsurvives.notPanicked, fun hharmless ↦
    ⟨hforwards.sent_isPrefix, hforwards.sent_eq, hexact.2 hharmless, fun t x t' hmem hs ↦ ?_⟩⟩
  rcases step_cases hs with ⟨y, item, hy, -, hm⟩ | ⟨y, hy, hnone, -⟩ | ⟨b, m, hb, -⟩ | ⟨b, hb, -⟩
  · rw [← Option.some.inj hm]
    rfl
  · exact absurd hnone (hharmless _ hmem y hy)
  · cases hb
  · cases hb

end Host

end ReadActor

end NetStream
