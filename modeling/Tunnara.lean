import Tunnara.Policy.RateLimits
import Tunnara.Policy.SourceCidrs
import Tunnara.Policy.Submitted
import Tunnara.Policy.Stability
import Tunnara.Control.Fairness
import Tunnara.Control.Revocation
import Tunnara.Control.Handover
import Tunnara.Control.LoopbackTargets
import Tunnara.Control.DnsBooks
import Tunnara.Control.ExactlyOnce
import Tunnara.Control.PortIndex
import Tunnara.Control.Registration
import Tunnara.Control.PartialUpdates
import Tunnara.Control.TokenScopes
import Tunnara.Control.Retention
import Tunnara.Laravel.Revocation
import Tunnara.Laravel.LeastPrivilege
import Tunnara.Relay.Registry
import Tunnara.Relay.Answers
import Tunnara.Relay.Gauges
import Tunnara.Relay.Streams
import Tunnara.Relay.Violations
import Tunnara.Agent.Session
import Tunnara.Agent.Upgrades
import Tunnara.Agent.Residue
import Tunnara.Edge.StoredPolicy
import Tunnara.Edge.Failures
import Tunnara.Edge.Identity
import Tunnara.Edge.ListenerSafety
import Tunnara.Edge.Metrics
import Tunnara.Edge.Replay
import Tunnara.Edge.Credentials
import Tunnara.Edge.Spellings
import Tunnara.Edge.JwtCompleteness
import Tunnara.Planes.Selection
import Tunnara.Planes.Hysteresis
import Tunnara.Planes.HealthCycles
import Tunnara.Http.Answers
import Tunnara.WireGuard.RoundTrip
import Tunnara.WireGuard.Mesh
import Tunnara.Console.Services
import Tunnara.Console.InternalApi
import Tunnara.Console.HashLeak
import Tunnara.Console.Passwords
import Tunnara.Console.Sessions
import Tunnara.License.Offline
import Tunnara.License.Rounds
import Tunnara.Quic.Bridge
import Tunnara.Release.BuildNumbers
import Tunnara.Console.EnvFile
import Tunnara.Console.Guard
import Tunnara.Control.SignedHello
import Tunnara.Console.Redaction
import Tunnara.Console.WebApp
import Tunnara.Sdk.JsonEscape
