import ClusterTopology.Layout

/-!
# Link states

Whether the node that reports has a connection to the node that it reports on.
-/

namespace ClusterTopology

inductive LinkState where
  | connected
  | disconnected
deriving DecidableEq, Repr

namespace LinkState

/-- Both link states. -/
def all : List LinkState := [connected, disconnected]

/-- The token of the link state in reports. -/
def token : LinkState → String
  | connected => "connected"
  | disconnected => "disconnected"

instance : ToString LinkState := ⟨token⟩

/-- The name of the link state in structured text. -/
def label : LinkState → String
  | connected => "Connected"
  | disconnected => "Disconnected"

def layout (link : LinkState) : Layout := .atom link.label

/-- The link state with this very token. -/
def ofToken? (token : String) : Option LinkState := all.find? (·.token == token)

end LinkState

end ClusterTopology
