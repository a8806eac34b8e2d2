import GossipGroup.Console.Session

/-!
# Rehearsing a console session

A session played from a script under a virtual clock: lines are typed, datagrams
are sent to the session's node, and the script may wait until a text has been
printed or logged. Nothing takes time but waiting, and waiting is given up when
patience runs out.
-/

namespace GossipGroup
namespace Console

open Simulation

/-- One item of a script. -/
inductive Cue
  | line (text : String)
  | wait (text : String)
  | datagram (payload : List UInt8)
  deriving DecidableEq, Inhabited

/-- What a program leaves behind: the lines it printed, its exit code and its
complaint. -/
structure Outcome where
  lines : List String
  code : Nat
  complaint : Option String
  deriving DecidableEq, Inhabited

/-- A session that is being rehearsed, and how many lines of its journal the
script has waited past. -/
structure Rehearsal where
  session : Session
  passed : Nat

namespace Rehearsal

/-- How many milliseconds a script waits for a text. -/
def patience : Nat := 2000

/-- The lines of the journal that the script has not waited past, oldest
first. -/
def unread (rehearsal : Rehearsal) : List String :=
  rehearsal.session.journal.reverse.drop rehearsal.passed

/-- The rehearsal past the first unread line that holds a text, if one does. -/
def passing? (rehearsal : Rehearsal) (text : String) : Option Rehearsal :=
  (rehearsal.unread.findIdx? fun line => Text.occursIn text.toList line.toList).map
    fun index => { rehearsal with passed := rehearsal.passed + index + 1 }

/-- Wait for a text, at most for a number of milliseconds. -/
def waitFor (text : String) : Nat → Rehearsal → Rehearsal
  | 0, rehearsal => (rehearsal.passing? text).getD rehearsal
  | limit + 1, rehearsal =>
      match rehearsal.passing? text, rehearsal.session.ending with
      | some found, _ => found
      | none, some _ => rehearsal
      | none, none =>
          waitFor text limit { rehearsal with session := rehearsal.session.elapse 1 }

/-- Play one item of a script, with datagrams sent from the given address. -/
def play (sender : SocketAddress) (rehearsal : Rehearsal) (cue : Cue) : Rehearsal :=
  match cue with
  | .line text =>
      { rehearsal with
        session := (Text.splitLines text.toList).foldl Session.typed rehearsal.session }
  | .wait text => waitFor text patience rehearsal
  | .datagram payload =>
      { rehearsal with
        session := rehearsal.session.step fun session =>
          session.withWorld
            (session.world.sendBare sender session.arguments.endpoints.listen payload).2 }

end Rehearsal

/-- What a session leaves behind when its input ends. -/
def Session.outcome (session : Session) : Outcome :=
  let finished := session.finish
  let ending := finished.ending.getD .success
  ⟨finished.output, ending.code, ending.complaint?⟩

/-- Rehearse a session: the words of the command line, the state of the host's
loopback interface, the wall clock at the beginning, the address that datagrams
come from, and the script. -/
def rehearse
    (words : List String)
    (link : Link)
    (wallOrigin : Int)
    (sender : SocketAddress)
    (script : List Cue) : Outcome :=
  match Arguments.parse? words with
  | none => ⟨[], refusalCode, none⟩
  | some arguments =>
      let world := World.initial wallOrigin (.loopback (.idle link))
      let (_, world) := world.openBare sender largestDatagram
      let start : Rehearsal := ⟨.start arguments world, 0⟩
      (script.foldl (Rehearsal.play sender) start).session.outcome

end Console
end GossipGroup
