/-!
# Commands of the console

What is typed is taken line by line, and one command to a line, with blanks at both
ends passed over. An empty line is no command, and a line that is no known command
asks for help. Blank are all characters with the Unicode property `White_Space`.
-/

namespace GossipGroup
namespace Text

/-- The code points with the property `White_Space`, as inclusive ranges. -/
def blankRanges : List (Nat × Nat) :=
  [(0x9, 0xd), (0x20, 0x20), (0x85, 0x85), (0xa0, 0xa0), (0x1680, 0x1680),
    (0x2000, 0x200a), (0x2028, 0x2029), (0x202f, 0x202f), (0x205f, 0x205f),
    (0x3000, 0x3000)]

/-- Whether a character has the property `White_Space`. -/
def isBlank (character : Char) : Bool :=
  blankRanges.any fun range =>
    decide (range.1 ≤ character.toNat) && decide (character.toNat ≤ range.2)

/-- Characters without the blank ones at both ends. -/
def trim (characters : List Char) : List Char :=
  ((characters.dropWhile isBlank).reverse.dropWhile isBlank).reverse

/-- Whether one list of characters stands somewhere within another. -/
def occursIn (part : List Char) : List Char → Bool
  | [] => part.isEmpty
  | character :: rest =>
      part.isPrefixOf (character :: rest) || occursIn part rest

/-- The pieces of a list of characters between line feeds. -/
def splitLines : List Char → List (List Char)
  | [] => [[]]
  | character :: rest =>
      if character = '\n' then [] :: splitLines rest
      else
        match splitLines rest with
        | [] => [[character]]
        | first :: others => (character :: first) :: others

end Text

namespace Console

/-- What a typed line asks for. -/
inductive Command
  | nothing
  | members
  | self
  | leader
  | statistics
  | leave
  | join
  | quit
  | help
  deriving DecidableEq, Inhabited

/-- The command on a line. -/
def Command.ofLine (line : List Char) : Command :=
  match String.ofList (Text.trim line) with
  | "" => .nothing
  | "members" => .members
  | "self" => .self
  | "leader" => .leader
  | "stats" => .statistics
  | "leave" => .leave
  | "join" => .join
  | "quit" => .quit
  | "exit" => .quit
  | _ => .help

/-- The text that explains the commands. -/
def helpLines : List String :=
  ["Commands:",
    "  members   Show the membership list",
    "  self      Show the identity of this node",
    "  leader    Show the current leader",
    "  stats     Show the live membership statistics",
    "  leave     Leave the group",
    "  join      Join the group again with a new identity",
    "  quit      Leave the group and exit"]

end Console
end GossipGroup
