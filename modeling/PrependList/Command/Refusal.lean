import PrependList.Command.Arguments
import PrependList.Text.Similarity
import PrependList.Text.Terminal

/-!
# Refused arguments

What is said about an argument that cannot be accepted: what is wrong with it, a tip where there is
one, how the command is used, and where to learn more.

An argument is quoted in these messages as a reader would see it on a terminal: broken sequences are
replaced, and what a terminal would obey is left out.
-/

namespace PrependList.Command

/-- Bytes of an argument, made fit to be shown. -/
def display (bytes : List UInt8) : String :=
  String.ofList (Terminal.shown (Utf8.lossy bytes))

namespace Flag

/-- The flag as one writes it. -/
def long (flag : Flag) : String := "--" ++ String.ofList flag.name

/-- The flag as messages name it; dots mark the one that can be repeated. -/
def usage : Flag → String
  | verbose => verbose.long ++ "..."
  | request asked => (request asked).long

/-- The usage to suggest for a flag with a value. Once a verbose flag has been seen, what else may
still come is shown as a group, and the flag beside it unless it is in the group itself. -/
def usageAfter (flag : Flag) (repeated : Bool) : String :=
  if repeated then
    match flag with
    | verbose => "<" ++ verbose.usage ++ "|REST>"
    | request _ => flag.usage ++ " <" ++ verbose.usage ++ "|REST>"
  else flag.usage

/-- The likeness to a flag's name beyond which a name is taken for a slip. -/
def threshold : Float := 0.7

/-- The better guess at the flag that a name was meant for; of two equally good ones the later. -/
def closer (name : List Char) (best? : Option Flag) (flag : Flag) : Option Flag :=
  let likeness := Similarity.similarity name flag.name
  if likeness ≤ threshold then best?
  else
    match best? with
    | none => some flag
    | some best =>
      if likeness < Similarity.similarity name best.name then some best else some flag

/-- The flag whose name is the most similar, if one is similar enough. -/
def similarTo? (name : List Char) : Option Flag := all.foldl (closer name) none

end Flag

/-- The usage to suggest for an unknown flag: the flags seen before it, and the one that was meant. -/
def usageWith (seen : List Flag) (meant? : Option Flag) : String :=
  match (seen ++ meant?.toList).eraseDups with
  | [] => "[OPTIONS]"
  | flags => " ".intercalate (flags.map Flag.usage)

namespace Refusal

/-- What is wrong. -/
def fault : Refusal → String
  | unexpectedValue flag value =>
    "unexpected value '" ++ display value ++ "' for '" ++ flag.usage
      ++ "' found; no more were expected"
  | unreadableName name => "unexpected argument '--" ++ display name ++ "' found"

/-- The flag that an unreadable name was meant to be. -/
def meant? : Refusal → Option Flag
  | unexpectedValue _ _ => none
  | unreadableName name => Flag.similarTo? (Utf8.lossy name)

def tips (refusal : Refusal) : List String :=
  match refusal with
  | unexpectedValue _ _ => []
  | unreadableName name =>
    (refusal.meant?.toList.map fun flag => "a similar argument exists: '" ++ flag.long ++ "'")
      ++ ["to pass '--" ++ display name ++ "' as a value, use '-- --" ++ display name ++ "'"]

/-- How the command is used; `repeated` says whether a verbose flag came before. -/
def usage (refusal : Refusal) (repeated : Bool) : String :=
  match refusal with
  | unexpectedValue flag _ => flag.usageAfter repeated
  | unreadableName _ => usageWith (if repeated then [.verbose] else []) refusal.meant?

/-- The whole message. Tips form a paragraph of their own. -/
def message (refusal : Refusal) (repeated : Bool) : String :=
  "error: " ++ refusal.fault ++ "\n\n"
    ++ (match refusal.tips with
      | [] => ""
      | tips => String.join (tips.map fun tip => "  tip: " ++ tip ++ "\n") ++ "\n")
    ++ "Usage: clist " ++ refusal.usage repeated ++ "\n\nFor more information, try '--help'.\n"

end Refusal

end PrependList.Command
