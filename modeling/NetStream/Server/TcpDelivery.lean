import NetStream.Server.Writers

/-!
# What arrives on a connection

An actor that `Follows` a list has handed an initial part of it to its sink, so the writers follow
the messages for their connections as long as no message is lost on the way to them. That comes down
to one step: the broker's message must not meet a queue that is open and full, because then it is
lost and a later one may not be (`Run.handed_prefix_commanded`, `tcpMessage_lost`).
-/

namespace NetStream.Server

variable {M : MessageTypes}

/-- **What a peer receives over TCP has no gaps** in a run in which no message for a connection
finds its queue open and full: it is an initial part of the Welcome, the application's messages and
the acknowledgements, in the order in which they were commanded. -/
theorem Run.handed_prefix_commanded {hist : List (State M × Action M)} {s : State M}
    (h : Run hist s) (hroom : ∀ x ∈ hist, CommandsAdmitted WriteActor.HasRoom x.1 x.2) {c : ℕ} {conn : Connection M}
    (hc : s.streams[c]? = some conn) :
    conn.writer.sink.handed <+: commanded hist c ∧
      ∃ uuid rest, commanded hist c = .welcome uuid :: rest ∧ ∀ u, .welcome u ∉ rest := by
  refine ⟨((Run.writers h WriteActor.offerRule_follows hroom).related c conn hc).handed_isPrefix, ?_⟩
  obtain ⟨hlt, -⟩ := List.getElem?_eq_some_iff.1 hc
  have hissued : c < (issued hist).length := by
    rwa [Run.length_issued h]
  exact ⟨_, Run.commanded_eq h (List.getElem?_eq_getElem hissued)⟩

/-- Payloads that are numbers. -/
def numberedMessages : MessageTypes :=
  ⟨ℕ, ℕ, ℕ, ℕ⟩

/-- The number in a message. -/
def TcpFromServer.number? : TcpFromServer numberedMessages → Option ℕ
  | .applicationLogic n => some n
  | _ => none

/-- The writer of connection `0` takes a command and performs it. -/
def Action.write : List (Action M) :=
  [.task (.tcpWriter 0 .recv), .task (.tcpWriter 0 (.operate true))]

/-- A message to peer `0`. -/
def Action.tell (n : ℕ) : List (Action numberedMessages) :=
  command (M := numberedMessages) (.toPeerTcp (.ofNat 0) n) [0]

/-- A run in which a peer has received the Welcome and one of two messages. -/
theorem Run.handed_prefix_commanded_of_two : ∃ hist, ∃ s : State numberedMessages, ∃ conn,
    Run hist s ∧ s.streams[0]? = some conn ∧
      conn.writer.sink.handed.map TcpFromServer.number? = [none, some 5] ∧
      (commanded hist 0).map TcpFromServer.number? = [none, some 5, some 7] ∧
      conn.writer.sink.handed <+: commanded hist 0 := by
  have h : Run _ _ := TransitionSystem.run_of_exec (T := system numberedMessages)
    (s := .start .dev ⟨1⟩) (l := Action.connect 1 1 [] ++
      Action.tell 5 ++ Action.command (M := numberedMessages) (.announceTcp (7 : ℕ)) [0] ++
      Action.write ++ Action.write)
    ⟨.dev, ⟨1⟩, rfl⟩ rfl
  exact ⟨_, _, _, h, rfl, rfl, by decide, (Run.handed_prefix_commanded h (by decide) rfl).1⟩

set_option maxRecDepth 20000 in
/-- **A gap.** While the writer stalls, the Welcome and the messages `0` to `31` fill its queue, so
`32` is lost; the writer takes the Welcome, and `33` is queued. -/
theorem tcpMessage_lost : ∃ hist, ∃ s : State numberedMessages, ∃ conn,
    Run hist s ∧ s.streams[0]? = some conn ∧
      (commanded hist 0).map TcpFromServer.number? = none :: (List.range 34).map some ∧
      conn.writer.sink.handed.map TcpFromServer.number? =
        none :: (List.range 32).map some ++ [some 33] ∧
      ¬ conn.writer.sink.handed <+: commanded hist 0 := by
  have h : Run _ _ := TransitionSystem.run_of_exec (T := system numberedMessages)
    (s := .start .dev ⟨1⟩) (l := Action.connect 1 1 [] ++
      (List.range 33).flatMap Action.tell ++ Action.write ++ Action.tell 33 ++
      (List.range 33).flatMap fun _ ↦ Action.write)
    ⟨.dev, ⟨1⟩, rfl⟩ rfl
  refine ⟨_, _, _, h, rfl, by decide, by decide, fun hprefix ↦ ?_⟩
  have hnumbers := hprefix.map TcpFromServer.number?
  exact absurd hnumbers (by decide)

end NetStream.Server
