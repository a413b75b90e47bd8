import Workflow.Trace.Broadcaster

/-!
# Trace sinks

An engine forwards its trace to a sink, if it has one.  A call of the sink may fail, before it
reaches the broadcaster behind it or there.
-/

namespace Workflow

/-- Where a trace goes. -/
inductive Sink where
  /-- Nowhere. -/
  | none
  /-- To a broadcaster. -/
  | broadcaster (hub : Broadcaster)
  /-- To a broadcaster behind a connection that fails at the calls that `fails` names, counted from
  zero. -/
  | unreliable (fails : Nat → Bool) (calls : Nat) (hub : Broadcaster)

namespace Sink

/-- What a call raises that the connection does not carry. -/
def offline : Fault := .reported .runtime "sink offline"

/-- Call the broadcaster, if there is one and the connection carries the call. -/
def call (act : Broadcaster → Except Fault Unit × Broadcaster) : Sink → Except Fault Unit × Sink
  | .none => (.ok (), .none)
  | .broadcaster hub => ((act hub).1, .broadcaster (act hub).2)
  | .unreliable fails calls hub =>
    if fails calls then (.error offline, .unreliable fails (calls + 1) hub)
    else ((act hub).1, .unreliable fails (calls + 1) (act hub).2)

/-- Record an entry. -/
def record (sink : Sink) (id : String) (entry : Entry) : Except Fault Unit × Sink :=
  sink.call (·.record id entry)

/-- Announce the end of an execution. -/
def finish (sink : Sink) (id status : String) : Except Fault Unit × Sink :=
  sink.call fun hub => (.ok (), hub.finish id status)

/-- Kept entries show what their output object has become; that is no call. -/
def amend (id : String) (index : Int) (output : Value) : Sink → Sink
  | .none => .none
  | .broadcaster hub => .broadcaster (hub.amend id index output)
  | .unreliable fails calls hub => .unreliable fails calls (hub.amend id index output)

/-- The broadcaster behind a sink. -/
def hub? : Sink → Option Broadcaster
  | .none => Option.none
  | .broadcaster hub => some hub
  | .unreliable _ _ hub => some hub

end Sink

end Workflow
