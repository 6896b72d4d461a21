import ClusterTopology.Layout

/-!
# Status flags

What a cluster reports about a node. Each `Flag` has a token in reports and a label in structured
text. A `FlagSet` is given by its members, and lists them in the order of `Flag.all`.
-/

namespace ClusterTopology

inductive Flag where
  /-- The node that the report comes from. -/
  | myself
  | master
  | replica
  /-- A failure that most masters confirm. -/
  | fail
  /-- A failure that a single node suspects. -/
  | possibleFail
  /-- A node that is not yet trusted. -/
  | handshake
  /-- A node of unknown address. -/
  | noAddress
  | noFlags
deriving DecidableEq, Repr

namespace Flag

/-- All flags, in their order. -/
def all : List Flag :=
  [myself, master, replica, fail, possibleFail, handshake, noAddress, noFlags]

theorem mem_all (flag : Flag) : flag ∈ all := by cases flag <;> decide

/-- The token of the flag in reports. -/
def token : Flag → String
  | myself => "myself"
  | master => "master"
  | replica => "slave"
  | fail => "fail"
  | possibleFail => "fail?"
  | handshake => "handshake"
  | noAddress => "noaddr"
  | noFlags => "noflags"

instance : ToString Flag := ⟨token⟩

/-- The name of the flag in structured text. -/
def label : Flag → String
  | myself => "Myself"
  | master => "Master"
  | replica => "Replica"
  | fail => "Fail"
  | possibleFail => "PFail"
  | handshake => "Handshake"
  | noAddress => "NoAddr"
  | noFlags => "NoFlags"

def layout (flag : Flag) : Layout := .atom flag.label

/-- Does the flag mark a failure, confirmed or suspected? -/
def isFailure (flag : Flag) : Bool := flag == fail || flag == possibleFail

/-- The flag with this very token. -/
def ofToken? (token : String) : Option Flag := all.find? (·.token == token)

end Flag

/-! ## Sets of flags -/

/-- A set of flags. -/
@[ext] structure FlagSet where
  has : Flag → Bool

namespace FlagSet

instance : Membership Flag FlagSet where
  mem s flag := s.has flag = true

instance (flag : Flag) (s : FlagSet) : Decidable (flag ∈ s) :=
  inferInstanceAs (Decidable (s.has flag = true))

instance : EmptyCollection FlagSet := ⟨⟨fun _ => false⟩⟩

/-- The set of the flags in a list, in any order and with any repetitions. -/
def ofList (flags : List Flag) : FlagSet := ⟨flags.contains⟩

/-- The members in the order of `Flag.all`. -/
def toList (s : FlagSet) : List Flag := Flag.all.filter s.has

theorem mem_ofList {flag : Flag} {flags : List Flag} : flag ∈ ofList flags ↔ flag ∈ flags :=
  List.contains_iff_mem

theorem mem_toList {flag : Flag} {s : FlagSet} : flag ∈ s.toList ↔ flag ∈ s :=
  List.mem_filter.trans (and_iff_right (Flag.mem_all flag))

/-- The members in structured text. -/
def layout (s : FlagSet) : Layout := .set (s.toList.map Flag.layout)

end FlagSet

end ClusterTopology
