/-
# The tables of the Laravel plane

Rows of the Eloquent models that the modelled controllers read and write, as maps
keyed by primary key. Times are seconds. Names are kept apart from those of the
Node plane by the namespace.
-/

import Tunnara.Data.OrdMap
import Tunnara.Js.Value

namespace Tunnara.Laravel

/-- A row of `agents`. Revocation is a value of `status`. -/
structure AgentRow where
  (id organizationId publicKey : String)
  sessionTokenHash : Option String
  sessionExpiresAt : Option ℕ
  status : String
  lastSeenAt : Option ℕ
  deriving DecidableEq

structure PresenceRow where
  agentId : String
  (relayNodeId relayEdgeUrl : Option String)

structure PolicyRow where
  (id organizationId name : String)
  description : Option String
  enabled : Bool
  definition : Json
  revision : ℕ
  deriving DecidableEq

structure TunnelRow where
  (id organizationId agentId : String)
  policyId : Option String
  (name protocol targetHost : String)
  targetPort : ℕ
  publicHostname : Option String
  publicPort : Option ℕ
  status : String
  configuration : Option Json
  inspectorEnabled : Bool
  inspectorBodyLimit : ℕ
  deriving DecidableEq

structure TargetRow where
  (id organizationId tunnelId agentId name targetHost : String)
  (targetPort weight priority : ℕ)
  enabled : Bool
  healthStatus : String
  healthCheck : Option Json
  deriving DecidableEq

structure Database where
  agents : OrdMap String AgentRow
  presence : OrdMap String PresenceRow
  policies : OrdMap String PolicyRow
  tunnels : OrdMap String TunnelRow
  targets : OrdMap String TargetRow

end Tunnara.Laravel
