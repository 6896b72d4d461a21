import ClusterTopology.Refusal
import ClusterTopology.Status.Flag
import ClusterTopology.Status.LinkState

/-!
# Events

Reading a status and assembling a cluster node leave a trace of what happened. A computation that
does so is `Logged`: it ends in a value or a refusal, and the events up to there stay in either
case.
-/

namespace ClusterTopology

inductive Event where
  /-- A token names no flag. -/
  | unknownFlag (token : String)
  /-- A token names no link state. -/
  | unknownLinkState (token : String)
  /-- The host or the id of a node is refused. -/
  | nodeRejected (reason : Refusal)
  /-- A node has neither an address nor an id. -/
  | nodeUnaddressable
  /-- A node is complete. It is described by its text, the number of its slots and its status. -/
  | nodeBuilt (node : String) (slots : Nat) (flags : FlagSet) (link : Option LinkState)

/-- What an event is about. -/
inductive Event.Channel where
  /-- Reading a status. -/
  | status
  /-- Assembling a node. -/
  | assembly
deriving DecidableEq, Repr

namespace Event

def channel : Event → Channel
  | unknownFlag _ | unknownLinkState _ => .status
  | nodeRejected _ | nodeUnaddressable | nodeBuilt .. => .assembly

/-- The sentence that an event is logged under. -/
def message : Event → String
  | unknownFlag _ => "rejecting unknown node flag"
  | unknownLinkState _ => "rejecting unknown link state"
  | nodeRejected _ => "rejecting cluster node"
  | nodeUnaddressable => "rejecting cluster node without address and id"
  | nodeBuilt .. => "built cluster node"

/-- The details that an event is logged with, under their names. -/
def details : Event → List (String × String)
  | unknownFlag token | unknownLinkState token => [("token", token)]
  | nodeRejected reason => [("err", reason.message)]
  | nodeUnaddressable => []
  | nodeBuilt node slots flags link =>
    [("node", node), ("slots", toString slots), ("flags", flags.layout.line),
      ("link_state", (Layout.option LinkState.layout link).line)]

end Event

/-! ## Computations with a trace -/

/-- A computation that may be refused, and that leaves events. -/
abbrev Logged := ExceptT Refusal (StateM (Array Event))

namespace Logged

variable {α : Type}

/-- Leaves one event. -/
def log (event : Event) : Logged Unit := modify (·.push event)

/-- Leaves one event and refuses. -/
def reject (event : Event) (reason : Refusal) : Logged α := do
  log event
  throw reason

/-- The outcome of a computation. -/
def outcome (x : Logged α) : Except Refusal α := (x.run.run #[]).1

/-- The events of a computation, in order. -/
def events (x : Logged α) : Array Event := (x.run.run #[]).2

end Logged

end ClusterTopology
