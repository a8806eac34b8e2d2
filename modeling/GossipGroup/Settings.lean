import GossipGroup.Address
import GossipGroup.Span

/-!
# Settings of a node

The addresses a node is given and the parameters of the gossip protocol. A node
starts only with settings under which the failure detector can work: the node
gossips more often than a silent member fails, and members fail before they are
evicted.
-/

namespace GossipGroup

/-- The addresses of a node: where it listens, where others reach it, and where
it finds the group. -/
structure Endpoints where
  listen : SocketAddress
  advertised : SocketAddress
  introducer : SocketAddress
  deriving DecidableEq, Inhabited

/-- Whether the node is the one that introduces others to the group. -/
def Endpoints.isIntroducer (endpoints : Endpoints) : Bool :=
  endpoints.introducer = endpoints.advertised || endpoints.introducer = endpoints.listen

/-- The largest payload that a datagram can carry. -/
def largestDatagram : Nat := 65507

/-- Timing and sizes of the gossip protocol. -/
structure Settings where
  gossipInterval : Span := .ofMilliseconds 150
  negotiationInterval : Span := .ofSeconds 2
  failTimeout : Span := .ofSeconds 2
  cleanupTimeout : Span := .ofSeconds 5
  leaveFanout : Nat := 1
  leaveMargin : UInt64 := 10
  maxDatagram : Nat := largestDatagram
  deriving DecidableEq, Inhabited

/-- Why a node does not start with its settings. -/
inductive SettingsError
  | noGossipInterval
  | noNegotiationInterval
  | gossipNotBeforeFail (gossipInterval failTimeout : Span)
  | failNotBeforeCleanup (failTimeout cleanupTimeout : Span)
  | noLeaveMargin
  | datagramOutOfRange
  deriving DecidableEq, Inhabited

/-- What is wrong with the settings, in words. -/
def SettingsError.reason : SettingsError → String
  | .noGossipInterval => "gossip_interval must be greater than zero"
  | .noNegotiationInterval => "introducer_negotiate_interval must be greater than zero"
  | .gossipNotBeforeFail gossipInterval failTimeout =>
      "gossip_interval (" ++ gossipInterval.text ++ ") must be less than fail_timeout (" ++
        failTimeout.text ++ ")"
  | .failNotBeforeCleanup failTimeout cleanupTimeout =>
      "fail_timeout (" ++ failTimeout.text ++ ") must be less than cleanup_timeout (" ++
        cleanupTimeout.text ++ ")"
  | .noLeaveMargin => "leave_heartbeat_margin must be at least 1"
  | .datagramOutOfRange =>
      "max_datagram_size must be within 1..=" ++ toString largestDatagram

/-- The text of a settings error. -/
def SettingsError.message (error : SettingsError) : String :=
  "Invalid gossip configuration: " ++ error.reason

namespace Settings

/-- The first thing that is wrong with the settings, if anything is. -/
def fault? (settings : Settings) : Option SettingsError :=
  if settings.gossipInterval = .zero then some .noGossipInterval
  else if settings.negotiationInterval = .zero then some .noNegotiationInterval
  else if settings.failTimeout ≤ settings.gossipInterval then
    some (.gossipNotBeforeFail settings.gossipInterval settings.failTimeout)
  else if settings.cleanupTimeout ≤ settings.failTimeout then
    some (.failNotBeforeCleanup settings.failTimeout settings.cleanupTimeout)
  else if settings.leaveMargin = 0 then some .noLeaveMargin
  else if settings.maxDatagram = 0 ∨ largestDatagram < settings.maxDatagram then
    some .datagramOutOfRange
  else none

end Settings
end GossipGroup
