import ClusterTopology.Layout
import ClusterTopology.Text.Number
import ClusterTopology.Text.Quoted

/-!
# Nodes

A `Node` is a server: where it listens, who it is, and what it does. Two nodes are equal, and have
the same hash, if they have the same id, host and port. Name, role and master do not matter.
-/

namespace ClusterTopology

/-- The part that a server plays. -/
inductive Role where
  | master
  | replica
  | sentinel
deriving DecidableEq, Repr

namespace Role

def all : List Role := [master, replica, sentinel]

/-- The name of the role in structured text. -/
def label : Role → String
  | master => "Master"
  | replica => "Replica"
  | sentinel => "Sentinel"

def layout (role : Role) : Layout := .atom role.label

end Role

/-- What tells a node from another: its id, its host and its port. -/
abbrev Identity := Option String × Option String × Option UInt16

/-- A server, as far as it is known. -/
structure Node where
  host : Option String := none
  port : Option UInt16 := none
  id : Option String := none
  name : Option String := none
  role : Option Role := none
  /-- The id of the master that the node copies. -/
  masterId : Option String := none
deriving Repr

namespace Node

instance : Inhabited Node := ⟨{}⟩

def isMaster (node : Node) : Bool := node.role == some .master

def isReplica (node : Node) : Bool := node.role == some .replica

/-- Does the node have a host that is not empty? -/
def hasHost (node : Node) : Bool := node.host.any (!·.isEmpty)

/-! ## Address -/

/-- The host and the port around a colon. A host that has a colon itself stands in brackets. -/
def addressChars (host : List Char) (port : UInt16) : List Char :=
  let host := if ':' ∈ host then '[' :: host ++ [']'] else host
  host ++ ':' :: Text.decimal port.toNat

/-- The address of the node, if it has a host and a port. -/
def address (node : Node) : Option String := do
  let host ← node.host
  let port ← node.port
  return String.ofList (addressChars host.toList port)

/-- The address, the host or the id of the node, whichever it has first. -/
def text (node : Node) : String :=
  (node.address <|> node.host <|> node.id).getD "<unknown>"

instance : ToString Node := ⟨text⟩

/-! ## Identity -/

def identity (node : Node) : Identity := (node.id, node.host, node.port)

instance : BEq Node where
  beq a b := a.identity == b.identity

instance : Hashable Node where
  hash node := hash node.identity

theorem beq_iff {a b : Node} : a == b ↔ a.identity = b.identity :=
  beq_iff_eq (a := a.identity) (b := b.identity)

instance : EquivBEq Node where
  rfl := beq_iff.2 rfl
  symm h := beq_iff.2 (beq_iff.1 h).symm
  trans h₁ h₂ := beq_iff.2 ((beq_iff.1 h₁).trans (beq_iff.1 h₂))

instance : LawfulHashable Node where
  hash_eq _ _ h :=
    congrArg (hash (α := Identity)) (beq_iff.1 h)

/-! ## Structured text -/

/-- All that is known about the node, field by field. -/
def layout (node : Node) : Layout :=
  let quoted := Layout.option fun s => .atom (Text.quote s)
  .record "Node"
    [("host", quoted node.host),
      ("port", .option (fun port => .atom (toString port.toNat)) node.port),
      ("id", quoted node.id),
      ("name", quoted node.name),
      ("node_type", .option Role.layout node.role),
      ("master_id", quoted node.masterId)]

end Node

end ClusterTopology
