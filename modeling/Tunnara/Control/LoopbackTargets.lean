/-
# Remote targets

`POST /api/v1/tunnels` checks the address of every target it stores: without
`TUNNARA_ALLOW_REMOTE_TARGETS` the host is a loopback name, and the port is always an integer of
the range. The two other endpoints that write the columns convert what the body has and store it.
-/

import Tunnara.Control.TunnelApi
import Tunnara.Control.Integrity

namespace Tunnara.Control

open Policy Transition TunnelTables

/-- A request of the tunnel endpoints, with what it draws. -/
inductive TunnelRequest
  | postTunnel (principal : Principal) (draws : TunnelDraws) (body : Json)
  | patchTunnel (organizationId id : String) (body : Json)
  | deleteTunnel (organizationId id : String)
  | postTarget (organizationId tunnelId id : String) (body : Json)
  | patchTarget (organizationId id : String) (body : Json)
  | deleteTarget (organizationId id : String)

namespace TunnelApi

def step (env : ApiEnv) (tables : TunnelTables) : TunnelRequest → TunnelTables
  | .postTunnel principal draws body => orSame tables (postTunnel env tables principal draws body)
  | .patchTunnel organizationId id body =>
    orFound tables (tables.updateTunnel env.toStoreEnv organizationId id body)
  | .deleteTunnel organizationId id => (tables.deleteTunnel organizationId id none).getD tables
  | .postTarget organizationId tunnelId id body =>
    orSame tables (postTarget env tables organizationId tunnelId id body)
  | .patchTarget organizationId id body =>
    orFound tables (tables.updateTunnelTarget env.toStoreEnv organizationId id body)
  | .deleteTarget organizationId id => orFound tables (tables.deleteTunnelTarget organizationId id)

/-- A loopback host and an integer port of the range. -/
def LocalAddress (env : ApiEnv) (host : String) (port : JsNumber) : Prop :=
  isLoopbackHost env host = true ∧ validPort port = true

/-- Every stored target has a local address. -/
def Local (env : ApiEnv) (tables : TunnelTables) : Prop :=
  ∀ id target, tables.targets.get? id = some target →
    LocalAddress env target.targetHost target.targetPort.value

/-- A host or a port in the body of the two endpoints that do not check them is local. -/
def NamesLocal (env : ApiEnv) : TunnelTables → TunnelRequest → Prop
  | _, .postTarget _ _ _ body =>
    (∀ host, textOr env.host (body.get? "targetHost") "127.0.0.1" = .ok host →
      isLoopbackHost env host = true) ∧
    ∀ port, numberOf env (body.get? "targetPort") = .ok port → validPort port = true
  | _, .patchTarget _ _ body =>
    (∀ v host, body.get? "targetHost" = some v → textValue env.toStoreEnv v = .ok (some host) →
      isLoopbackHost env host = true) ∧
    ∀ v port, body.get? "targetPort" = some v → v ≠ .null → v.toNumber env.host = .ok port →
      validPort port = true
  | _, _ => True

variable {env : ApiEnv} {tables next : TunnelTables}

variable {port index : ℕ} {host id organizationId : String} {principal : Principal} {body : Json}
  {input : TunnelInput}

theorem primaryPort_eq_ok {primary : Json} (h : primaryPort env primary = .ok port) :
    validPort (.fin port) = true := by
  obtain ⟨given, -, h⟩ := bind_eq_ok.1 h
  obtain ⟨n, -, h⟩ := bind_eq_ok.1 h
  cases hport : integerWithin 1 65535 n with
  | none =>
    rw [hport] at h
    cases h
  | some found =>
    rw [hport] at h
    cases h
    obtain ⟨rfl, -, -⟩ := integerWithin_eq_some hport
    exact Option.isSome_iff_exists.2 ⟨port, hport⟩

section

variable (hremote : env.allowRemoteTargets = false)
include hremote

theorem primaryHost_eq_ok {primary : Json} (h : primaryHost env primary = .ok host) :
    isLoopbackHost env host = true := by
  obtain ⟨text, -, h⟩ := bind_eq_ok.1 h
  dsimp only at h
  split_ifs at h with hrefused
  cases h
  simpa [hremote] using hrefused

theorem readTarget_eq_ok {target : Json} {agentId : String} {input : TargetInput}
    (h : readTarget env principal body agentId host port index target = .ok input) :
    LocalAddress env input.targetHost input.targetPort := by
  obtain ⟨given, -, h⟩ := bind_eq_ok.1 h
  obtain ⟨text, -, h⟩ := bind_eq_ok.1 h
  obtain ⟨n, -, h⟩ := bind_eq_ok.1 h
  obtain ⟨targetAgentId, -, h⟩ := bind_eq_ok.1 h
  by_cases hport : (!validPort n) = true
  · rw [if_pos hport] at h
    cases h
  rw [if_neg hport] at h
  by_cases hhost : (!isLoopbackHost env (trim text) && !env.allowRemoteTargets) = true
  · rw [if_pos hhost] at h
    cases h
  rw [if_neg hhost] at h
  obtain ⟨name, -, h⟩ := bind_eq_ok.1 h
  obtain ⟨weight, -, h⟩ := bind_eq_ok.1 h
  obtain ⟨priority, -, h⟩ := bind_eq_ok.1 h
  cases h
  exact ⟨by simpa [hremote] using hhost, by simpa using hport⟩

theorem readTargets_eq_ok {agentId : String} {items : List Json} {inputs : List TargetInput}
    (h : readTargets env principal body agentId host port index items = .ok inputs) :
    ∀ input ∈ inputs, LocalAddress env input.targetHost input.targetPort := by
  induction items generalizing index inputs with
  | nil =>
    cases h
    intro input hinput
    cases hinput
  | cons item rest ih =>
    obtain ⟨first, hfirst, h⟩ := bind_eq_ok.1 h
    obtain ⟨others, hothers, h⟩ := bind_eq_ok.1 h
    cases h
    intro input hinput
    rcases List.mem_cons.1 hinput with rfl | hrest
    · exact readTarget_eq_ok hremote hfirst
    · exact ih hothers input hrest

theorem localAddress_readTunnel {label : String}
    (h : readTunnel env tables principal label body = .ok input) :
    LocalAddress env input.targetHost input.targetPort ∧
      ∀ target ∈ input.targets, LocalAddress env target.targetHost target.targetPort := by
  obtain ⟨port, hstored, hport, hhost, htargets, -⟩ := readTunnel_eq_ok env h
  rw [hstored]
  exact ⟨⟨primaryHost_eq_ok hremote hhost, primaryPort_eq_ok hport⟩,
    readTargets_eq_ok hremote htargets⟩

end

section

variable (hinput : LocalAddress env input.targetHost input.targetPort)
include hinput

theorem localAddress_targetAt {item : TargetInput}
    (hitem : LocalAddress env item.targetHost item.targetPort) :
    LocalAddress env (input.targetAt index item).targetHost
      (input.targetAt index item).targetPort := by
  constructor
  · show isLoopbackHost env (orText item.targetHost input.targetHost) = true
    unfold orText
    split_ifs
    · exact hinput.1
    · exact hitem.1
  · show validPort (if item.targetPort = .nan ∨ item.targetPort = .fin 0 then input.targetPort
      else item.targetPort) = true
    split_ifs
    · exact hinput.2
    · exact hitem.2

theorem localAddress_targetList
    (htargets : ∀ target ∈ input.targets, LocalAddress env target.targetHost target.targetPort) :
    ∀ item ∈ input.targetList, LocalAddress env item.targetHost item.targetPort := by
  unfold TunnelInput.targetList
  split_ifs
  · intro item hitem
    rw [List.mem_singleton.1 hitem]
    exact hinput
  · exact htargets

end

namespace Local

section

variable (h : Local env tables)
include h

theorem of_set {id : String} {target : TargetRecord}
    (htarget : LocalAddress env target.targetHost target.targetPort.value) :
    Local env { tables with targets := tables.targets.set id target } := by
  intro key other hother
  rw [OrdMap.get?_set] at hother
  split at hother
  · cases hother
    exact htarget
  · exact h key other hother

omit h in
theorem postTunnel {draws : TunnelDraws} (hremote : env.allowRemoteTargets = false)
    (h : Local env tables) (hpost : postTunnel env tables principal draws body = .ok next) :
    Local env next := by
  obtain ⟨input, hinput, hcreate⟩ := bind_eq_ok.1 hpost
  obtain ⟨haddress, htargets⟩ := localAddress_readTunnel hremote hinput
  obtain ⟨-, -, inserted, hinsert, hadded⟩ := createTunnel_eq_ok hcreate
  obtain ⟨-, tunnel, -, -, -, -, -, -, -, rfl⟩ := insertTunnel_eq_ok hinsert
  intro id target htarget
  rcases hadded.found id target htarget with hold | hcreated
  · exact h id target hold
  · obtain ⟨index, item, hitem, hhost, hport⟩ := hcreated.item
    rw [hhost, hport]
    exact localAddress_targetAt haddress (localAddress_targetList haddress htargets item hitem)

theorem postTarget {tunnelId : String}
    (hnamed : NamesLocal env tables (.postTarget organizationId tunnelId id body))
    (hpost : postTarget env tables organizationId tunnelId id body = .ok next) :
    Local env next := by
  obtain ⟨input, hinput, hcreate⟩ := bind_eq_ok.1 hpost
  obtain ⟨given, -, hinput⟩ := bind_eq_ok.1 hinput
  obtain ⟨agentId, -, hinput⟩ := bind_eq_ok.1 hinput
  obtain ⟨name, -, hinput⟩ := bind_eq_ok.1 hinput
  obtain ⟨host, hhost, hinput⟩ := bind_eq_ok.1 hinput
  obtain ⟨port, hport, hinput⟩ := bind_eq_ok.1 hinput
  obtain ⟨weight, -, hinput⟩ := bind_eq_ok.1 hinput
  obtain ⟨priority, -, hinput⟩ := bind_eq_ok.1 hinput
  cases hinput
  obtain ⟨-, -, -, target, -, -, -, hstoredHost, hstoredPort, rfl⟩ :=
    createTunnelTarget_eq_ok hcreate
  apply h.of_set
  rw [hstoredHost, hstoredPort]
  exact ⟨hnamed.1 host hhost, hnamed.2 port hport⟩

theorem patchTarget (hnamed : NamesLocal env tables (.patchTarget organizationId id body))
    (hpatch : tables.updateTunnelTarget env.toStoreEnv organizationId id body = .ok (some next)) :
    Local env next := by
  obtain ⟨current, target, hcurrent, -, -, -, -, -, hhost, hport, rfl⟩ :=
    updateTunnelTarget_eq_ok hpatch
  obtain ⟨hcurrentHost, hcurrentPort⟩ := h id current hcurrent
  apply h.of_set
  constructor
  · rcases textValue_nullish hhost with hkept | ⟨v, hv, hvalue⟩
    · rw [hkept]
      exact hcurrentHost
    · exact hnamed.1 v _ hv hvalue
  · rcases changedNumber_eq_ok hport with hkept | ⟨v, hv, hne, hvalue⟩
    · rw [hkept]
      exact hcurrentPort
    · exact hnamed.2 v _ hv hne hvalue

theorem patchTunnel
    (hpatch : tables.updateTunnel env.toStoreEnv organizationId id body = .ok (some next)) :
    Local env next := by
  obtain ⟨current, tunnel, -, -, -, -, -, -, -, rfl⟩ := updateTunnel_eq_ok hpatch
  exact h

theorem deleteTunnel {agentId : Option String}
    (hdelete : tables.deleteTunnel organizationId id agentId = some next) : Local env next := by
  obtain ⟨-, rfl⟩ := deleteTunnel_eq_some hdelete
  intro key target htarget
  have hfound : (tables.targets.get? key).filter (fun target => target.tunnelId ≠ id) =
      some target := by
    rw [← htarget]
    exact (OrdMap.get?_filter tables.targets (fun _ target => target.tunnelId ≠ id) key).symm
  exact h key target (Option.filter_eq_some_iff.1 hfound).1

theorem deleteTarget (hdelete : tables.deleteTunnelTarget organizationId id = .ok (some next)) :
    Local env next := by
  obtain ⟨target, -, -, -, rfl⟩ := deleteTunnelTarget_eq_ok hdelete
  intro key other hother
  exact h key other (OrdMap.get?_of_get?_erase hother).2

end

end Local

theorem local_step (hremote : env.allowRemoteTargets = false) (h : Local env tables)
    {request : TunnelRequest} (hnamed : NamesLocal env tables request) :
    Local env (step env tables request) := by
  cases request with
  | postTunnel principal draws body => exact orSame_of h fun _ hnext => h.postTunnel hremote hnext
  | patchTunnel organizationId id body => exact orFound_of h fun _ hnext => h.patchTunnel hnext
  | deleteTunnel organizationId id =>
    show Local env ((tables.deleteTunnel organizationId id none).getD tables)
    cases hdelete : tables.deleteTunnel organizationId id none with
    | none => exact h
    | some next => exact h.deleteTunnel hdelete
  | postTarget organizationId tunnelId id body =>
    exact orSame_of h fun _ hnext => h.postTarget hnamed hnext
  | patchTarget organizationId id body =>
    exact orFound_of h fun _ hnext => h.patchTarget hnamed hnext
  | deleteTarget organizationId id => exact orFound_of h fun _ hnext => h.deleteTarget hnext

/-- **In every state** of a run in which the bodies of the two unchecked endpoints name
local addresses only, every stored target is local. -/
theorem local_run (hremote : env.allowRemoteTargets = false) {start : TunnelTables}
    (hstart : start.targets = .empty) {requests : List TunnelRequest}
    (hguard : Along (step env) (NamesLocal env) start requests) :
    Local env (run (step env) start requests) := by
  have hlocal : Local env start := by
    intro id target htarget
    rw [hstart] at htarget
    cases htarget
  exact hguard.invariant (fun _ _ h hnamed => local_step hremote h hnamed) hlocal

def localTunnel : TunnelRequest :=
  .postTunnel (.api "o1") ⟨plainDraws, "abc"⟩
    (.obj [("agentId", .str "a1"), ("targetPort", .num 3000)])

def remoteTargets : List TunnelRequest :=
  [localTunnel,
    .postTarget "o1" "t1" "g9" (.obj [("agentId", .str "a1"), ("name", .str "second"),
      ("targetHost", .str "10.0.0.5"), ("targetPort", .num 22)]),
    .patchTarget "o1" "g0" (.obj [("targetPort", .num 0)])]

theorem not_local_remoteTargets :
    ¬ ∀ requests, Local .plain (run (step .plain) emptyTables requests) := by
  intro h
  have hstored : ((run (step .plain) emptyTables remoteTargets).targets.get? "g9").map
      (fun target => target.targetHost) = some "10.0.0.5" := by decide +kernel
  obtain ⟨target, htarget, hhost⟩ := Option.map_eq_some_iff.1 hstored
  have hlocal := (h remoteTargets "g9" target htarget).1
  rw [hhost] at hlocal
  exact absurd hlocal (by decide)

def localTargets : List TunnelRequest :=
  [localTunnel, .patchTarget "o1" "g0" (.obj [("targetPort", .num 3001)])]

theorem local_run_localTargets :
    ApiEnv.plain.allowRemoteTargets = false ∧ emptyTables.targets = .empty ∧
      Along (step .plain) (NamesLocal .plain) emptyTables localTargets ∧
      Local .plain (run (step .plain) emptyTables localTargets) := by
  have hguard : Along (step .plain) (NamesLocal .plain) emptyTables localTargets := by
    refine ⟨trivial, ⟨?_, ?_⟩, trivial⟩
    · intro v host hv
      cases hv
    · intro v port hv _ hport
      cases hv
      cases hport
      decide
  exact ⟨rfl, rfl, hguard, local_run rfl rfl hguard⟩

end TunnelApi

end Tunnara.Control
