import GossipGroup.Console.Rehearsal
import GossipGroup.Main
import GossipGroup.Proofs.Digest.Damage
import GossipGroup.Proofs.Digest.Freshest
import GossipGroup.Proofs.Digest.RoundTrip
import GossipGroup.Proofs.Election.Agreement
import GossipGroup.Proofs.Group.Authority
import GossipGroup.Proofs.Group.Eviction
import GossipGroup.Proofs.Identity.Comparison
import GossipGroup.Proofs.Roster.Runs
import GossipGroup.Proofs.Roster.Convergence
import GossipGroup.Proofs.Roster.Leaving
import GossipGroup.Proofs.Group.Departures
import GossipGroup.Proofs.Roster.Replay
import GossipGroup.Proofs.Roster.Pointwise
import GossipGroup.Proofs.Roster.Refuting
import GossipGroup.Proofs.Roster.Silence
import GossipGroup.Proofs.Node.Listening
import GossipGroup.Proofs.Node.Watching
import GossipGroup.Proofs.Election.Succession
import GossipGroup.Proofs.Election.Announcements
import GossipGroup.Proofs.Election.Closing
import GossipGroup.Proofs.Group.Community
import GossipGroup.Proofs.Node.Limits
import GossipGroup.Proofs.Group.Spreading
import GossipGroup.Proofs.Transport.Killing
import GossipGroup.Proofs.Roster.Headroom
import GossipGroup.Proofs.Node.Addressing
import GossipGroup.Proofs.Node.Reading
import GossipGroup.Proofs.Node.Oversized
import GossipGroup.Proofs.Subscribers.History
