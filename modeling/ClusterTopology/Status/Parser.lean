import ClusterTopology.Event
import ClusterTopology.Text.Blank

/-!
# Reading a status

Flags are read from a list of tokens with commas between them, blanks around a token being ignored.
A link state is a single token, and nothing may stand around it. A token that is not known is logged
and refused.
-/

namespace ClusterTopology

/-! ## Flags -/

/-- Reads the token of one flag. -/
def Flag.parse (token : String) : Logged Flag :=
  match ofToken? token with
  | some flag => pure flag
  | none => Logged.reject (.unknownFlag token) (.unknownFlag token)

namespace FlagSet

/-- The pieces between commas, trimmed, that are not empty. -/
def tokens (cs : List Char) : List (List Char) :=
  ((cs.splitOnP (· == ',')).map Text.trim).filter (!·.isEmpty)

/-- Reads a list of flags. The first token that is not known spoils all of it. -/
def parse (text : String) : Logged FlagSet := do
  let flags ← (tokens text.toList).mapM fun token => Flag.parse (String.ofList token)
  return ofList flags

/-- The tokens of the members with commas between them. -/
def text (s : FlagSet) : String := ",".intercalate (s.toList.map Flag.token)

instance : ToString FlagSet := ⟨text⟩

end FlagSet

/-! ## Link states -/

/-- Reads the token of a link state. -/
def LinkState.parse (token : String) : Logged LinkState :=
  match ofToken? token with
  | some link => pure link
  | none => Logged.reject (.unknownLinkState token) (.unknownLinkState token)

end ClusterTopology
