import ClusterTopology.Layout
import ClusterTopology.SlotSet.Enumeration
import ClusterTopology.Text.Blank

/-!
# The text of a set

A set of slots is written as its runs with a blank between them, a run of one slot as its number and
a longer one as `start-end`. Reading accepts such tokens in any order, between any blanks and
commas.
-/

namespace ClusterTopology

/-! ## Writing -/

namespace SlotSet

/-- The runs of the set with a blank between them. -/
def chars (s : SlotSet) : List Char := [' '].intercalate (s.runs.map Interval.chars)

/-- The written form of the set, such as `0-5460 5462`. -/
def text (s : SlotSet) : String := String.ofList s.chars

instance : ToString SlotSet := ⟨text⟩

/-- The written form of the set as structured text. -/
def layout (s : SlotSet) : Layout := .tuple "SlotRange" [.atom s.text]

end SlotSet

/-! ## Reading -/

/-- Reads one number of a token. The whole token is blamed if it is none. -/
def Slot.read (token number : List Char) : Except Refusal Slot :=
  match Text.number? number with
  | none => .error (.malformedInterval (String.ofList token))
  | some n => ofIndex n

/-- Reads a single slot, or the two bounds around the first dash of the token. -/
def Interval.read (token : List Char) : Except Refusal Interval :=
  let lower := token.takeWhile (· ≠ '-')
  match token.dropWhile (· ≠ '-') with
  | [] => return singleton (← Slot.read token token)
  | _ :: upper =>
    if lower.isEmpty then .error (.missingBound .lower)
    else if upper.isEmpty then .error (.missingBound .upper)
    else return ⟨← Slot.read token lower, ← Slot.read token upper⟩

namespace SlotSet

/-- Does the character stand between tokens? -/
def isSeparator (c : Char) : Bool := c == ',' || Text.isBlank c

/-- The pieces between separators that are not empty. -/
def tokens (cs : List Char) : List (List Char) :=
  (cs.splitOnP isSeparator).filter (!·.isEmpty)

/-- The set of all slots that lie in one of the intervals, provided that the slot space covers
them. -/
def ofIntervals (intervals : List Interval) : SlotSet :=
  intervals.foldl (fun s i => s.insertAll i.toList) (blank Slot.count)

/-- Reads single slots and pairs of bounds. The first token that is neither is refused. -/
def parse (text : String) : Except Refusal SlotSet :=
  return ofIntervals (← (tokens text.toList).mapM Interval.read)

end SlotSet

end ClusterTopology
