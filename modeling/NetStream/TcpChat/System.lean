import NetStream.Server.ActorHandle
import NetStream.TcpChat.Server

/-!
# The chat server on top of the server

The chat server's loop and the server run beside each other. The loop takes the next event, handles
it, and gives its commands one after the other through the actor handle; in between, the server
takes steps. Nobody else has a handle or the event receiver. When the loop is over, `main` returns
or panics and takes the runtime with all tasks along: nothing happens any more.

The events lie in an unbounded channel of which the server's state keeps everything that was ever
sent, so what the loop has taken is a number (`handled`).
-/

namespace NetStream.TcpChat

open Server (PeerUid)

/-- Where the loop is. -/
inductive Phase
  /-- These commands are still to be given; with none left the loop waits for the next event. -/
  | running (pending : List Command)
  /-- There are no more events, and the function has returned. -/
  | finished
  | panicked (site : PanicSite)

structure State where
  server : Server.State messageTypes
  chat : ServerState
  /-- How many events the loop has taken. -/
  handled : ℕ
  phase : Phase

inductive Action
  /-- The server takes a step in which its application takes no part. -/
  | server (a : Server.Action messageTypes)
  /-- The loop takes an event; the map of users is iterated in this order. -/
  | takeEvent (order : List PeerUid)
  /-- The loop gives the next command. -/
  | send
  /-- The loop finds that there are no more events. -/
  | finish

/-- What only the owner of a handle or of the event receiver does. -/
def isApplication : Server.Action messageTypes → Bool
  | .env (.command _) => true
  | .env .dropHandles => true
  | .env .closeEvents => true
  | _ => false

namespace State

/-- The state in which the loop starts. -/
def start (profile : Profile) (config : Server.Config) : State where
  server := .start profile config
  chat := .default
  handled := 0
  phase := .running []

/-- The events that the loop has taken. -/
def consumed (s : State) : List Event :=
  s.server.events.take s.handled

/-- The loop handles an event. -/
def handle (s : State) (ev : Event) (order : List PeerUid) : Option State :=
  match handleEvent s.server.profile s.chat order ev with
  | .error site => some { s with handled := s.handled + 1, phase := .panicked site }
  | .ok (chat, commands) =>
    if chat.connectedUsers.Enumerates order then
      some { s with chat := chat, handled := s.handled + 1, phase := .running commands }
    else none

/-- The action of the server in a step of the whole. -/
def serverAction (s : State) : Action → Option (Server.Action messageTypes)
  | .server a => some a
  | .send =>
    match s.phase with
    | .running (command :: _) =>
      if s.server.msgReceiver.receiverAlive then some (.env (.command command)) else none
    | _ => none
  | _ => none

/-- The state after an action, where it is enabled. -/
def step (s : State) (a : Action) : Option State :=
  match s.phase with
  | .running pending =>
    match a with
    | .server b =>
      if isApplication b then none else (s.server.step b).map fun server ↦ { s with server := server }
    | .takeEvent order =>
      match pending, s.server.events[s.handled]? with
      | [], some ev => s.handle ev order
      | _, _ => none
    | .send =>
      match pending with
      | [] => none
      | command :: rest =>
        match Server.ActorHandle.send s.server command with
        | some server => some { s with server := server, phase := .running rest }
        | none => some { s with phase := .panicked .actorGone }
    | .finish =>
      match pending with
      | [] =>
        if s.handled = s.server.events.length ∧ s.server.eventSender.senderAlive = false then
          some { s with phase := .finished }
        else none
      | _ => none
  | _ => none

end State

/-- The chat server: it starts with any configuration, in any build. -/
def system : TransitionSystem State Action where
  init s := ∃ profile config, s = .start profile config
  step := State.step

/-- A run of the chat server, with its history. -/
abbrev Run (hist : List (State × Action)) (s : State) : Prop :=
  system.Run hist s

/-- The history of the server. -/
def serverHist (hist : List (State × Action)) :
    List (Server.State messageTypes × Server.Action messageTypes) :=
  TransitionSystem.projectHist State.server State.serverAction hist

theorem serverHist_append_singleton (hist : List (State × Action)) (s : State) (a : Action) :
    serverHist (hist ++ [(s, a)]) =
      serverHist hist ++ ((s.serverAction a).map fun b ↦ (s.server, b)).toList :=
  TransitionSystem.projectHist_append_singleton hist s a

/-! ### What a step does -/

section Step

variable {s s' : State}

/-- **Inversion**: the action, and the state after it. -/
theorem step_cases {a : Action} (h : s.step a = some s') :
    (∃ b server pending, a = .server b ∧ isApplication b = false ∧ s.phase = .running pending ∧
      s.server.step b = some server ∧ s' = { s with server := server }) ∨
    (∃ order ev, a = .takeEvent order ∧ s.phase = .running [] ∧
      s.server.events[s.handled]? = some ev ∧ s.handle ev order = some s') ∨
    (∃ command rest server, a = .send ∧ s.phase = .running (command :: rest) ∧
      s.server.msgReceiver.receiverAlive = true ∧
      Server.ActorHandle.send s.server command = some server ∧
      s' = { s with server := server, phase := .running rest }) ∨
    (∃ command rest, a = .send ∧ s.phase = .running (command :: rest) ∧
      s.server.msgReceiver.receiverAlive = false ∧
      s' = { s with phase := .panicked .actorGone }) ∨
    (a = .finish ∧ s.phase = .running [] ∧ s.handled = s.server.events.length ∧
      s.server.eventSender.senderAlive = false ∧ s' = { s with phase := .finished }) := by
  rw [State.step] at h
  split at h
  · rename_i pending hphase
    split at h
    · rename_i b
      obtain ⟨happ, h⟩ := Option.ite_none_left_eq_some.1 h
      obtain ⟨server, hserver, rfl⟩ := Option.map_eq_some_iff.1 h
      exact Or.inl ⟨b, server, pending, rfl, Bool.not_eq_true _ ▸ happ, hphase, hserver, rfl⟩
    · rename_i order
      split at h
      · exact Or.inr (Or.inl ⟨order, _, rfl, hphase, ‹_›, h⟩)
      · cases h
    · split at h
      · cases h
      · rename_i command rest
        split at h
        · rename_i server hsend
          have halive := (Server.ActorHandle.send_eq_some_iff.1 hsend).1
          exact Or.inr (Or.inr (Or.inl
            ⟨command, rest, server, rfl, hphase, halive, hsend, (Option.some.inj h).symm⟩))
        · rename_i hsend
          have halive : s.server.msgReceiver.receiverAlive = false := by
            refine Bool.eq_false_iff.2 fun halive ↦ ?_
            rw [Server.ActorHandle.send_eq_some_iff.2 ⟨halive, rfl⟩] at hsend
            cases hsend
          exact Or.inr (Or.inr (Or.inr (Or.inl
            ⟨command, rest, rfl, hphase, halive, (Option.some.inj h).symm⟩)))
    · split at h
      · obtain ⟨⟨hall, hend⟩, h⟩ := Option.ite_none_right_eq_some.1 h
        exact Or.inr (Or.inr (Or.inr (Or.inr
          ⟨rfl, hphase, hall, hend, (Option.some.inj h).symm⟩)))
      · cases h
  · cases h

/-- The loop handles an event, or panics at it. -/
theorem handle_eq_some_iff {ev : Event} {order : List PeerUid} :
    s.handle ev order = some s' ↔
      (∃ site, handleEvent s.server.profile s.chat order ev = .error site ∧
        s' = { s with handled := s.handled + 1, phase := .panicked site }) ∨
      (∃ chat commands, handleEvent s.server.profile s.chat order ev = .ok (chat, commands) ∧
        chat.connectedUsers.Enumerates order ∧
        s' = { s with chat := chat, handled := s.handled + 1, phase := .running commands }) := by
  rw [State.handle]
  split
  · rename_i site hresult
    simp [hresult, eq_comm]
  · rename_i chat commands hresult
    simp [hresult, eq_comm]

end Step

variable {hist : List (State × Action)} {s : State}

/-! ### The server below -/

/-- The loop's ends of the channels exist. -/
structure State.Attached (s : State) : Prop where
  handle : s.server.msgReceiver.senderAlive = true
  events : s.server.eventSender.receiverAlive = true

/-- A step of the server in which the application takes no part leaves them alone. -/
theorem attached_of_server {server server' : Server.State messageTypes}
    {b : Server.Action messageTypes} (hb : isApplication b = false)
    (hs : server.step b = some server') :
    server'.msgReceiver.senderAlive = server.msgReceiver.senderAlive ∧
      server'.eventSender.receiverAlive = server.eventSender.receiverAlive := by
  refine ⟨(Server.State.commandStep hs).senderAlive ?_, Server.State.receiverAlive_of_step hs ?_⟩
  · rintro rfl
    cases hb
  · rintro rfl
    cases hb

theorem State.attached_start (profile : Profile) (config : Server.Config) :
    (start profile config).Attached :=
  ⟨rfl, rfl⟩

namespace State.Attached

variable {s' : State} {a : Action}

theorem step (h : s.Attached) (hs : s.step a = some s') : s'.Attached := by
  rcases step_cases hs with ⟨b, server, pending, -, hb, -, hserver, rfl⟩ |
    ⟨order, ev, -, -, -, hhandle⟩ | ⟨command, rest, server, -, -, -, hsend, rfl⟩ |
    ⟨command, rest, -, -, -, rfl⟩ | ⟨-, -, -, -, rfl⟩
  · obtain ⟨hhandle, hevents⟩ := attached_of_server hb hserver
    exact ⟨hhandle.trans h.handle, hevents.trans h.events⟩
  · rcases handle_eq_some_iff.1 hhandle with ⟨site, -, rfl⟩ | ⟨chat, commands, -, -, rfl⟩
    · exact ⟨h.handle, h.events⟩
    · exact ⟨h.handle, h.events⟩
  · obtain ⟨-, rfl⟩ := Server.ActorHandle.send_eq_some_iff.1 hsend
    exact ⟨h.handle, h.events⟩
  · exact ⟨h.handle, h.events⟩
  · exact ⟨h.handle, h.events⟩

/-- What a step is for the server: one of its own while the loop goes on, or none. -/
theorem server_step (h : s.Attached) (hs : s.step a = some s') :
    (∃ b pending, s.serverAction a = some b ∧ s.server.step b = some s'.server ∧
      s'.handled = s.handled ∧ s'.phase = .running pending) ∨
    (s.serverAction a = none ∧ s'.server = s.server) := by
  rcases step_cases hs with ⟨b, server, pending, rfl, -, hphase, hserver, rfl⟩ |
    ⟨order, ev, rfl, -, -, hhandle⟩ | ⟨command, rest, server, rfl, hphase, halive, hsend, rfl⟩ |
    ⟨command, rest, rfl, hphase, halive, rfl⟩ | ⟨rfl, -, -, -, rfl⟩
  · exact Or.inl ⟨b, pending, rfl, hserver, rfl, hphase⟩
  · refine Or.inr ⟨rfl, ?_⟩
    rcases handle_eq_some_iff.1 hhandle with ⟨site, -, rfl⟩ | ⟨chat, commands, -, -, rfl⟩
    · rfl
    · rfl
  · refine Or.inl ⟨.env (.command command), rest, ?_, ?_, rfl, rfl⟩
    · simp only [State.serverAction, hphase, halive, if_true]
    · exact Server.ActorHandle.step_of_send h.handle hsend
  · refine Or.inr ⟨?_, rfl⟩
    simp only [State.serverAction, hphase, halive, Bool.false_eq_true, if_false]
  · exact Or.inr ⟨rfl, rfl⟩

end State.Attached

theorem Run.attached (h : Run hist s) : s.Attached := by
  refine TransitionSystem.Run.invariant (T := system) ?_ (fun s a s' ↦ State.Attached.step) h
  rintro s ⟨profile, config, rfl⟩
  exact State.attached_start profile config

/-- **The server runs as such** below the chat server, which keeps its handle and its receiver. -/
theorem Run.server (h : Run hist s) : Server.Run (serverHist hist) s.server := by
  induction h with
  | start h =>
    obtain ⟨profile, config, rfl⟩ := h
    exact .start ⟨profile, config, rfl⟩
  | @next hist s s' a h hs ih =>
    rw [serverHist_append_singleton]
    rcases (Run.attached h).server_step hs with ⟨b, pending, haction, hserver, -, -⟩ |
      ⟨haction, hsame⟩
    · rw [haction]
      exact ih.next hserver
    · rw [haction, Option.map_none, Option.toList_none, List.append_nil, hsame]
      exact ih

end NetStream.TcpChat
