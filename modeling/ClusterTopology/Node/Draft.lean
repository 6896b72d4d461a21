import ClusterTopology.Refusal
import ClusterTopology.Node.Basic

/-!
# Drafts of nodes

What is known about a node comes in one setting at a time, in any order. A later setting of a kind
replaces the earlier one, and only the finished draft is checked.
-/

namespace ClusterTopology.Node

inductive Setting where
  | listeningAt (host : String) (port : UInt16)
  | named (name : String)
  | identifiedBy (id : String)
  | promotedAs (role : Role)
  | replicaOf (masterId : String)
deriving DecidableEq, Repr

/-- A node that has not been checked yet. -/
structure Draft where
  node : Node := {}
deriving Repr

namespace Draft

/-- The draft with one more setting. -/
def set (draft : Draft) : Setting → Draft
  | .listeningAt host port => ⟨{ draft.node with host, port }⟩
  | .named name => ⟨{ draft.node with name }⟩
  | .identifiedBy id => ⟨{ draft.node with id }⟩
  | .promotedAs role => ⟨{ draft.node with role }⟩
  | .replicaOf masterId => ⟨{ draft.node with masterId }⟩

/-- The draft after a sequence of settings. -/
def ofSettings (settings : List Setting) : Draft := settings.foldl set {}

/-- The finished node. An empty host is refused, then an empty id. -/
def build (draft : Draft) : Except Refusal Node :=
  if draft.node.host = some "" then .error .emptyHost
  else if draft.node.id = some "" then .error .emptyId
  else .ok draft.node

end Draft

/-- A node that is known only by its address. -/
def listeningAt (host : String) (port : UInt16) : Except Refusal Node :=
  (Draft.ofSettings [.listeningAt host port]).build

end ClusterTopology.Node
