import GossipGroup.Node.Rounds
import GossipGroup.Transport.Failure

/-!
# How a node leaves

When its jobs have ended, a node that leaves sends a notice to some live
members, as many as its settings say. Whether it ended well depends on its
receiver first: a datagram that could not be read is what the node reports, and
only without one a farewell that failed because the socket is gone.
-/

namespace GossipGroup

/-- Why a node did not start or did not end well. -/
inductive NodeError
  | settings (error : SettingsError)
  | transport (error : TransportError)
  | unreadable (error : DecodeError)
  deriving DecidableEq, Inhabited

/-- The text of a node error. -/
def NodeError.message : NodeError → String
  | .settings error => error.message
  | .transport error => error.message
  | .unreadable error =>
      "Received a membership snapshot which could not be read: " ++ error.message

/-- Different choices, as many as there are random numbers, each taken from
those that are left. -/
def sample {α : Type} : List Nat → List α → List α
  | [], _ => []
  | number :: numbers, choices =>
      match pick number choices with
      | none => []
      | some choice =>
          choice :: sample numbers (choices.eraseIdx (number % choices.length))

namespace Node

variable {listener : Type}

/-- The notices of a leaving node, to different live members as the random
numbers choose them. Their length is not limited; one report can always be
written. -/
def farewell (node : Node listener) (numbers : List Nat) : List Outgoing :=
  match (node.roster.leaveNotice node.settings.leaveMargin).encode with
  | .error _ => []
  | .ok notice =>
      (sample (numbers.take node.settings.leaveFanout) node.roster.aliveOthers).map
        fun peer => ⟨peer.address, notice⟩

/-- Whether a failed notice ends the farewell. -/
def endsFarewell (error : TransportError) : Bool := error.kind.isDisconnection

/-- How a node ended, given what ended its farewell, if anything did. -/
def verdict
    (node : Node listener)
    (farewellError : Option TransportError) : Except NodeError Unit :=
  match node.receiver, farewellError with
  | .refused error, _ => .error (.unreadable error)
  | _, some error => .error (.transport error)
  | _, none => .ok ()

end Node
end GossipGroup
