import GossipGroup.Address.Reader
import GossipGroup.Settings

/-!
# The arguments of the console

The console is told its addresses and settings by named arguments, written
`--name value` or `--name=value`, each at most once and in any order. Arguments
that are unknown, repeated, unfinished or unreadable are refused as a whole.
-/

namespace GossipGroup
namespace Console

/-- What the console is told when it is started. -/
structure Arguments where
  endpoints : Endpoints
  settings : Settings
  settleDelay : Span
  deriving DecidableEq, Inhabited

namespace Arguments

/-- The address at which a node listens, and where it looks for the introducer,
unless it is told otherwise. -/
def defaultAddress : SocketAddress := .v4 ⟨127, 0, 0, 1⟩ 7000

/-- The names of the arguments. -/
def names : List String :=
  ["listen-addr", "public-addr", "introducer-addr", "gossip-interval-ms",
    "introducer-negotiate-interval-ms", "fail-timeout-ms", "cleanup-timeout-ms",
    "settle-delay-ms", "leave-fanout", "leave-heartbeat-margin"]

/-- Arguments as they are written: names and values. -/
abbrev Written : Type := List (String × String)

/-- The name in a word that begins with two hyphens, and the value that follows
an equals sign in it. -/
def splitWord? (word : String) : Option (String × Option String) :=
  match word.toList with
  | '-' :: '-' :: characters =>
      let name := String.ofList (characters.takeWhile (· ≠ '='))
      match characters.dropWhile (· ≠ '=') with
      | [] => some (name, none)
      | _ :: value => some (name, some (String.ofList value))
  | _ => none

/-- The arguments in a list of words. A word of two hyphens alone ends the
arguments, and nothing may follow it. -/
def ofWords? : List String → Option Written
  | [] => some []
  | [word] =>
      match splitWord? word with
      | some (name, some value) => some [(name, value)]
      | some ("", none) => some []
      | _ => none
  | word :: next :: words =>
      match splitWord? word with
      | some ("", none) => none
      | some (name, some value) => (ofWords? (next :: words)).map ((name, value) :: ·)
      | some (name, none) => (ofWords? words).map ((name, next) :: ·)
      | none => none

/-- Whether every argument is known and none is repeated. -/
def isProper (written : Written) : Bool :=
  written.all (fun argument => names.contains argument.1) &&
    (written.map (·.1)).eraseDups.length == written.length

/-- The value of an argument, read by a reader, or what holds without it; none
if it cannot be read. -/
def value? (written : Written) (name : String) (default : α) (read : String → Option α) :
    Option α :=
  match written.lookup name with
  | none => some default
  | some text => read text

/-- An unsigned number of 64 bits. -/
def readWord (text : String) : Option Nat := Text.wholeNumber? UInt64.size text.toList

/-- A span given as a number of milliseconds. -/
def readMilliseconds (text : String) : Option Span := (readWord text).map .ofMilliseconds

/-- The meaning of arguments, if all of them can be read. -/
def ofWritten? (written : Written) : Option Arguments := do
  let settings : Settings := {}
  let listen ← value? written "listen-addr" defaultAddress SocketAddress.parse?
  let advertised ← value? written "public-addr" listen SocketAddress.parse?
  let introducer ← value? written "introducer-addr" defaultAddress SocketAddress.parse?
  let gossipInterval ←
    value? written "gossip-interval-ms" settings.gossipInterval readMilliseconds
  let negotiationInterval ←
    value? written "introducer-negotiate-interval-ms" settings.negotiationInterval
      readMilliseconds
  let failTimeout ← value? written "fail-timeout-ms" settings.failTimeout readMilliseconds
  let cleanupTimeout ←
    value? written "cleanup-timeout-ms" settings.cleanupTimeout readMilliseconds
  let settleDelay ← value? written "settle-delay-ms" (.ofSeconds 3) readMilliseconds
  let leaveFanout ← value? written "leave-fanout" settings.leaveFanout readWord
  let leaveMargin ←
    value? written "leave-heartbeat-margin" settings.leaveMargin.toNat readWord
  return {
    endpoints := { listen, advertised, introducer }
    settings :=
      { settings with
        gossipInterval, negotiationInterval, failTimeout, cleanupTimeout, leaveFanout
        leaveMargin := leaveMargin.toUInt64 }
    settleDelay }

/-- The arguments in the words of a command line; none if they are refused. -/
def parse? (words : List String) : Option Arguments :=
  match ofWords? words with
  | none => none
  | some written => if isProper written then ofWritten? written else none

end Arguments
end Console
end GossipGroup
