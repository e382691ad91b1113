import Mathlib.Data.List.Basic

/-!
# Actor shutdown

How the task of a read or write actor ends, as its join handle reports it (`actors.rs`).
-/

namespace NetStream

inductive ErraticActorShutdown
  /-- Actor task was cancelled. -/
  | cancelled
  /-- Actor task panicked. -/
  | panic
  deriving DecidableEq

inductive ActorShutdown (T : Type)
  | controlled (reason : T)
  | erratic (err : ErraticActorShutdown)
  deriving DecidableEq

end NetStream
