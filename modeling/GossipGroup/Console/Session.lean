import GossipGroup.Console.Arguments
import GossipGroup.Console.Command
import GossipGroup.Simulation.Elections
import GossipGroup.Simulation.Sockets

/-!
# A console session

A person at a console is a member of the group by way of one node with an
election. Typed lines show what the node knows or let it leave and join again.
The session ends when the person quits, when the input ends, or when a datagram
that cannot be read stops the node.

A session is a value: it holds the world in which its node lives, the lines it
has printed and those it has printed or logged, and how it ended.
-/

namespace GossipGroup
namespace Console

open Simulation

/-- How a session ended. -/
inductive Ending
  | success
  | failure (error : NodeError)
  deriving DecidableEq, Inhabited

/-- The exit code of a program that ends in this way. -/
def Ending.code : Ending → Nat
  | .success => 0
  | .failure _ => 1

/-- What the program complains of, if it ends with a failure. -/
def Ending.complaint? : Ending → Option String
  | .success => none
  | .failure error => some ("Error: " ++ error.message)

/-- The exit code of a program whose arguments are refused. -/
def refusalCode : Nat := 2

/-- A person at a console. -/
structure Session where
  arguments : Arguments
  world : World
  /-- Whether the node is part of the group. -/
  joined : Bool
  /-- The lines that were printed, the latest first. -/
  printed : List String
  /-- The lines that were printed or logged, the latest first. -/
  journal : List String
  /-- The datagrams that the node has sent and that have not been taken yet, the
  latest first. -/
  outbox : List Outgoing
  ending : Option Ending

namespace Session

/-- The name under which the session's node lives in its world. -/
def nodeName : String := "console"

/-- Print lines. -/
def print (session : Session) (lines : List String) : Session :=
  { session with
    printed := lines.reverse ++ session.printed
    journal := lines.reverse ++ session.journal }

/-- What a happening adds to the journal. -/
def journalLine? : Happening → Option String
  | .noted notice => some notice.text
  | .led _ _ _ leader => some ("Leader has changed. leader=" ++ toString leader)
  | _ => none

/-- The datagram that a happening puts into the outbox. -/
def outgoing? : Happening → Option Outgoing
  | .sent _ _ target payload none => some ⟨target, payload⟩
  | _ => none

/-- Let the world change, and take down what has happened in it. -/
def withWorld (session : Session) (world : World) : Session :=
  let (happenings, world) := world.taken
  { session with
    world
    journal := (happenings.filterMap journalLine?).reverse ++ session.journal
    outbox := (happenings.filterMap outgoing?).reverse ++ session.outbox }

/-- End the session with a failure. -/
def fail (session : Session) (error : NodeError) : Session :=
  { session with joined := false, ending := some (.failure error) }

/-- Join the group: start a node, attach an election to it and listen to the
leaders it announces. -/
def join (session : Session) : Session :=
  let (result, world) :=
    session.world.start nodeName session.arguments.endpoints session.arguments.settings
  match result with
  | .error error => (session.withWorld world).fail error
  | .ok identity =>
      let (_, world) := world.attachService nodeName session.arguments.settleDelay
      let (_, world) := world.subscribeLeader nodeName
      { session.withWorld world with joined := true }.print
        ["Joined the group as " ++ toString identity ++ "."]

/-- Leave the group: close the election and shut the node down. -/
def leave (session : Session) : Session :=
  let (_, world) := session.world.closeService nodeName
  let (result, world) := world.shutdown nodeName
  match result with
  | some (.error error) => (session.withWorld world).fail error
  | some (.ok ()) | none => { session.withWorld world with joined := false }

/-- End the session, leaving the group first if the node is part of it. -/
def finish (session : Session) : Session :=
  match session.ending with
  | some _ => session
  | none =>
      let left := if session.joined then session.leave else session
      { left with ending := left.ending.or (some .success) }

/-- A node that was stopped ends the session. -/
def watch (session : Session) : Session :=
  match session.joined, session.world.node? nodeName with
  | true, some node => if node.stopped then session.finish else session
  | _, _ => session

/-- Begin a session: join the group and explain the commands. -/
def start (arguments : Arguments) (world : World) : Session :=
  let session : Session :=
    { arguments, world, joined := false, printed := [], journal := [], outbox := []
      ending := none }
  let joined := session.join
  match joined.ending with
  | some _ => joined
  | none => joined.print helpLines

/-- What is shown of a node that is part of the group. -/
def answer (session : Session) (node : Node Ear) : Command → List String
  | .members => [node.roster.text session.world.now]
  | .self => [toString node.identity]
  | .leader =>
      match (session.world.election? nodeName).bind (·.leader) with
      | some leader => [toString leader]
      | none => ["No leader has been elected yet."]
  | .statistics =>
      let statistics := node.statistics
      ["alive=" ++ toString statistics.alive ++ " failed=" ++ toString statistics.failed ++
        " left=" ++ toString statistics.left ++ " rounds=" ++ toString statistics.rounds ++
        " merged=" ++ toString statistics.merged]
  | .join => ["Already part of the group."]
  | .nothing | .leave | .quit => []
  | .help => helpLines

/-- The lines a text prints as. -/
def printedLines (texts : List String) : List String :=
  texts.flatMap fun text => (Text.splitLines text.toList).map String.ofList

/-- Obey a command. -/
def obey (session : Session) (command : Command) : Session :=
  match command, session.world.node? nodeName with
  | .nothing, _ => session
  | .quit, _ => session.finish
  | .help, _ => session.print helpLines
  | .leave, some _ =>
      let left := session.leave
      match left.ending with
      | some _ => left
      | none => left.print ["Left the group."]
  | .join, none => session.join
  | command, some node => session.print (printedLines (session.answer node command))
  | _, none => session.print ["Not part of the group, use `join` first."]

/-- A step of a session that has not ended, after which the node is watched. -/
def step (session : Session) (act : Session → Session) : Session :=
  match session.ending with
  | some _ => session
  | none => (act session).watch

/-- A line is typed. -/
def typed (session : Session) (line : List Char) : Session :=
  session.step fun session => session.obey (.ofLine line)

/-- Time passes. -/
def elapse (session : Session) (milliseconds : Nat) : Session :=
  session.step fun session => session.withWorld (session.world.elapse milliseconds)

/-- A datagram arrives at the session's node. -/
def arrived (session : Session) (datagram : Datagram) : Session :=
  session.step fun session =>
    session.withWorld (session.world.inject session.arguments.endpoints.listen datagram)

/-- The datagrams that were sent and have not been taken yet, oldest first. -/
def takeOutbox (session : Session) : List Outgoing × Session :=
  (session.outbox.reverse, { session with outbox := [] })

/-- The lines that were printed, oldest first. -/
def output (session : Session) : List String := session.printed.reverse

end Session
end Console
end GossipGroup
