import GossipGroup.Address

/-!
# Failures of a transport

What can go wrong when a socket is opened, sends or receives. Every failure is
of one of the kinds that an operating system tells apart, because nodes treat
some kinds differently from others.
-/

namespace GossipGroup

/-- The kinds of failure an operating system tells apart. -/
inductive FailureKind
  | notFound
  | permissionDenied
  | connectionRefused
  | connectionReset
  | connectionAborted
  | hostUnreachable
  | networkUnreachable
  | notConnected
  | addressInUse
  | addressNotAvailable
  | brokenPipe
  | alreadyExists
  | wouldBlock
  | invalidInput
  | invalidData
  | timedOut
  | writeZero
  | interrupted
  | unsupported
  | unexpectedEnd
  | outOfMemory
  | messageTooLong
  | other
  deriving DecidableEq, Inhabited

namespace FailureKind

/-- A receiver passes over failures that say nothing about its own socket. -/
def isTransient : FailureKind → Bool
  | .connectionRefused | .connectionReset | .interrupted => true
  | _ => false

/-- A socket that fails in this way is gone for good. -/
def isDisconnection : FailureKind → Bool
  | .notConnected | .brokenPipe => true
  | _ => false

end FailureKind

/-- Why a transport could not do what it was asked. -/
inductive TransportError
  /-- The in-memory network already has an open socket at the address. -/
  | addressOpen (address : SocketAddress)
  /-- The address of the sending socket was killed. -/
  | socketKilled
  /-- The receiving socket is no longer registered. -/
  | socketClosed
  /-- The host already has a socket bound to the address. -/
  | addressBound
  /-- The payload does not fit into one datagram. -/
  | payloadTooLong
  /-- The host cannot reach any network. -/
  | unreachable
  /-- A failure that a test plants in a socket's sends. -/
  | planted (kind : FailureKind)
  deriving DecidableEq, Inhabited

namespace TransportError

/-- The kind of a transport error. -/
def kind : TransportError → FailureKind
  | .addressOpen _ => .addressInUse
  | .socketKilled => .notConnected
  | .socketClosed => .notConnected
  | .addressBound => .addressInUse
  | .payloadTooLong => .messageTooLong
  | .unreachable => .networkUnreachable
  | .planted kind => kind

/-- The text of a transport error. -/
def message : TransportError → String
  | .addressOpen address => "Address " ++ toString address ++ " is already open."
  | .socketKilled => "Socket has been killed."
  | .socketClosed => "Socket has been closed."
  | .addressBound => "Address already in use (os error 98)"
  | .payloadTooLong => "Message too long (os error 90)"
  | .unreachable => "Network is unreachable (os error 101)"
  | .planted _ => "Injected send error."

end TransportError

/-- A datagram on its way, with the address of the socket that sent it. -/
structure Datagram where
  sender : SocketAddress
  payload : List UInt8
  deriving DecidableEq, Inhabited

/-- The number of a socket, never given twice by one transport. -/
structure SocketId where
  number : Nat
  deriving DecidableEq, Inhabited

/-- What a socket has for its owner. -/
inductive Reception
  | datagram (datagram : Datagram)
  | idle
  | closed
  deriving DecidableEq, Inhabited

end GossipGroup
