import ClusterTopology.Layout
import ClusterTopology.Text.Quoted

/-!
# Why something is refused

`Refusal` lists the causes, `Refusal.message` words each of them for people, and `Refusal.layout`
shows it as structured text.
-/

namespace ClusterTopology

/-- The two ends of a `start-end` pair. -/
inductive Side where
  | lower
  | upper
deriving DecidableEq, Repr

/-- The word for a side in messages. -/
def Side.word : Side → String
  | .lower => "lower"
  | .upper => "upper"

inductive Refusal where
  /-- The number is no slot of the slot space. -/
  | slotOutOfRange (slot : Nat)
  /-- A token of a slot text is neither a number nor a pair of numbers. -/
  | malformedInterval (token : String)
  /-- A pair lacks the number on one side of its dash. -/
  | missingBound (side : Side)
  /-- The token names no flag. -/
  | unknownFlag (token : String)
  /-- The token names no link state. -/
  | unknownLinkState (token : String)
  | emptyHost
  | emptyId
  /-- The node has neither an address nor an id. -/
  | unaddressable
deriving DecidableEq, Repr

namespace Refusal

/-- The wording of a refusal. -/
def message : Refusal → String
  | slotOutOfRange slot => "Slot " ++ toString slot ++ " is outside of the hash slot space"
  | malformedInterval token => "Invalid slot range: " ++ token
  | missingBound side => "Missing " ++ side.word ++ " bound in slot range"
  | unknownFlag token => "Unknown node flag: " ++ token
  | unknownLinkState token => "Unknown link state: " ++ token
  | emptyHost => "Host must not be empty"
  | emptyId => "Id must not be empty"
  | unaddressable => "Node has neither address nor id"

/-- The name of the cause in structured text. -/
def label : Refusal → String
  | slotOutOfRange _ => "SlotOutOfRange"
  | malformedInterval _ => "InvalidSlotRange"
  | missingBound _ => "MissingBound"
  | unknownFlag _ => "UnknownFlag"
  | unknownLinkState _ => "UnknownLinkState"
  | emptyHost => "EmptyHost"
  | emptyId => "EmptyId"
  | unaddressable => "Unaddressable"

/-- What the cause is about, in structured text. -/
def details : Refusal → List Layout
  | slotOutOfRange slot => [.atom (toString slot)]
  | malformedInterval token | unknownFlag token | unknownLinkState token =>
    [.atom (Text.quote token)]
  | missingBound side => [.atom (Text.quote side.word)]
  | emptyHost | emptyId | unaddressable => []

/-- The cause with what it is about. -/
def layout (refusal : Refusal) : Layout :=
  match refusal.details with
  | [] => .atom refusal.label
  | details => .tuple refusal.label details

end Refusal

end ClusterTopology
