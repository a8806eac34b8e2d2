import GossipGroup.Console.Session
import Std.Async.UDP
import Std.Time.DateTime.Timestamp

/-!
# The console program

A console session on this machine: lines come from standard input, datagrams go
through a socket of the machine, and time is that of its clock. All that the
session does is decided by `GossipGroup.Console.Session`; this module only
carries lines, datagrams and the passing of time to and fro.
-/

namespace GossipGroup
namespace Console

/-- An address in the form in which the machine's sockets take it. -/
def machineAddress : SocketAddress → Std.Net.SocketAddress
  | .v4 host portNumber =>
      .v4 ⟨⟨#v[host.first, host.second, host.third, host.fourth]⟩, portNumber⟩
  | .v6 host portNumber _ _ =>
      .v6 ⟨⟨#v[host.group0, host.group1, host.group2, host.group3,
        host.group4, host.group5, host.group6, host.group7]⟩, portNumber⟩

/-- An address in the form in which the machine's sockets give it. -/
def ofMachineAddress : Std.Net.SocketAddress → SocketAddress
  | .v4 ⟨⟨octets⟩, portNumber⟩ =>
      .v4 ⟨octets[0], octets[1], octets[2], octets[3]⟩ portNumber
  | .v6 ⟨⟨groups⟩, portNumber⟩ =>
      .v6 ⟨groups[0], groups[1], groups[2], groups[3],
        groups[4], groups[5], groups[6], groups[7]⟩ portNumber 0 0

/-- What the program waits for: a datagram and a line. -/
structure Wires where
  socket : Std.Async.UDP.Socket
  datagram : Std.Async.AsyncTask (ByteArray × Option Std.Net.SocketAddress)
  line : Task (Except IO.Error String)

/-- Wait for the next datagram. -/
def nextDatagram (socket : Std.Async.UDP.Socket) :
    IO (Std.Async.AsyncTask (ByteArray × Option Std.Net.SocketAddress)) :=
  (socket.recv largestDatagram.toUInt64).toIO

/-- Wait for the next line. -/
def nextLine : IO (Task (Except IO.Error String)) := do
  let input ← IO.getStdin
  IO.asTask input.getLine .dedicated

/-- A line without the line feed at its end. -/
def withoutLineFeed (line : String) : List Char :=
  match line.toList.reverse with
  | '\n' :: rest => rest.reverse
  | _ => line.toList

/-- Print what the session has printed since the given number of lines, and
send what it has sent. -/
def flush (wires : Wires) (printed : Nat) (session : Session) : IO Session := do
  let output ← IO.getStdout
  for line in session.output.drop printed do
    output.putStrLn line
  output.flush
  let (outgoing, session) := session.takeOutbox
  for datagram in outgoing do
    try
      (wires.socket.send ⟨datagram.payload.toArray⟩ (some (machineAddress datagram.target))).block
    catch _ => pure ()
  return session

/-- Hand a datagram that has arrived to the session. -/
def takeDatagram (wires : Wires) (session : Session) : IO (Wires × Session) := do
  if ← IO.hasFinished wires.datagram then
    let session ←
      try
        let (bytes, sender) ← wires.datagram.block
        pure (session.arrived
          ⟨(sender.map ofMachineAddress).getD Arguments.defaultAddress, bytes.toList⟩)
      catch _ => pure session
    return ({ wires with datagram := ← nextDatagram wires.socket }, session)
  else return (wires, session)

/-- Hand a line that was typed to the session; without one the input has ended. -/
def takeLine (wires : Wires) (session : Session) : IO (Wires × Session) := do
  if ← IO.hasFinished wires.line then
    let line ← IO.ofExcept wires.line.get
    if line.isEmpty then return (wires, session.finish)
    else return ({ wires with line := ← nextLine }, session.typed (withoutLineFeed line))
  else return (wires, session)

/-- Serve a session until it ends. -/
partial def serve (origin : Nat) (wires : Wires) (session : Session) : IO UInt32 := do
  let printed := session.printed.length
  let elapsed := (← IO.monoMsNow) - origin
  let late := elapsed - session.world.clock
  let session := if late = 0 then session else session.elapse late
  let (wires, session) ← takeDatagram wires session
  let (wires, session) ← takeLine wires session
  let session ← flush wires printed session
  match session.ending with
  | some ending =>
      if let some complaint := ending.complaint? then IO.eprintln complaint
      return ending.code.toUInt32
  | none =>
      IO.sleep 1
      serve origin wires session

/-- Run the program with what it was told. -/
def runConsole (arguments : Arguments) : IO UInt32 := do
  let seed := (← IO.getRandomBytes 8).toList.foldl (fun total byte => total * 256 + byte.toUInt64) 0
  let now ← Std.Time.Timestamp.now
  let world :=
    { Simulation.World.initial now.toMillisecondsSinceUnixEpoch.val (.loopback (.idle .bridged)) with
      dice := ⟨seed⟩ }
  let origin ← IO.monoMsNow
  let session := Session.start arguments world
  if let some ending := session.ending then
    IO.eprintln (ending.complaint?.getD "")
    return ending.code.toUInt32
  let socket ← Std.Async.UDP.Socket.mk
  try
    socket.bind (machineAddress arguments.endpoints.listen)
  catch error =>
    IO.eprintln ("Error: " ++ toString error)
    return 1
  let wires : Wires := ⟨socket, ← nextDatagram socket, ← nextLine⟩
  let session ← flush wires 0 session
  serve origin wires session

end Console
end GossipGroup

/-- The console program. -/
def main (words : List String) : IO UInt32 :=
  match GossipGroup.Console.Arguments.parse? words with
  | none => return GossipGroup.Console.refusalCode.toUInt32
  | some arguments => GossipGroup.Console.runConsole arguments
