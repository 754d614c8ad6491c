import ClusterAudit.Check
import ClusterAudit.Store.Reference

/-!
# The check of network policies

The pod selector of a policy, and that of each of its peers, should cover a pod; the address blocks
of its peers should be well formed. A peer's pods are looked for in the namespaces that its
namespace selector covers, or in the policy's own; while namespaces are not loaded, their labels are
unknown and nothing is said.
-/

namespace ClusterAudit

namespace NetworkPolicyCheck

/-- Whether the policy covers a pod. -/
def onSelector (s : Snapshot) (t : Target) (p : NetworkPolicy) : Verdict :=
  .onResult (AuditError.ofStore (s.findCovered .pods p.metadata.space p.podSelector)) fun pods =>
    if pods.isEmpty then .note t 1200 [] else .clean

/-- Whether an address block is well formed. -/
def onBlock (t : Target) (b : IpBlock) : Verdict :=
  match b.validate with
  | .ok () => .clean
  | .error (.exceptOutsideBlock except cidr) => .note t 1201 [except, cidr]
  | .error e => .note t 1202 [e.message]

/-- The namespaces that a peer's pods are looked for in; nothing if they are unknown. -/
def spacesOf (s : Snapshot) (p : NetworkPolicy) (peer : PolicyPeer) :
    Except StoreError (Option (List String)) :=
  match peer.namespaceSelector with
  | none => .ok (some [p.metadata.space])
  | some selector => do
    if ← s.isLoaded .namespaces then
      .ok (some ((← s.findNamespaces .namespaces selector).map (·.name)))
    else .ok none

/-- Whether a selector covers a pod in one of some namespaces. -/
def coversIn (s : Snapshot) (selector : Selector) : List String → Except StoreError Bool
  | [] => .ok false
  | space :: rest => do
    if (← s.findCovered .pods space selector).isEmpty then coversIn s selector rest else .ok true

/-- How a list of namespaces is shown. -/
def showSpaces (spaces : List String) : String :=
  if spaces.isEmpty then "<none>" else ",".intercalate spaces

/-- Whether the pod selector of a peer covers a pod. -/
def onPods (s : Snapshot) (direction : String) (t : Target) (p : NetworkPolicy)
    (peer : PolicyPeer) : Verdict :=
  match peer.podSelector with
  | none => .clean
  | some selector =>
    .onResult (AuditError.ofStore (spacesOf s p peer)) fun
      | none => .clean
      | some spaces =>
        .onResult (AuditError.ofStore (coversIn s selector spaces)) fun covered =>
          if covered then .clean else .note t 1203 [direction, showSpaces spaces]

/-- The verdict on a peer. -/
def onPeer (s : Snapshot) (direction : String) (t : Target) (p : NetworkPolicy)
    (peer : PolicyPeer) : Verdict :=
  (match peer.ipBlock with
    | some b => onBlock t b
    | none => .clean)
    ++ onPods s direction t p peer

/-- The verdict on the rules of one direction. -/
def onRules (s : Snapshot) (direction : String) (t : Target) (p : NetworkPolicy)
    (rules : List PolicyRule) : Verdict :=
  .concat ((rules.flatMap (·.peers)).map (onPeer s direction t p))

/-- The verdict on a policy. -/
def verdict (s : Snapshot) (t : Target) (p : NetworkPolicy) : Verdict :=
  onSelector s t p ++ onRules s "ingress" t p p.ingress ++ onRules s "egress" t p p.egress

/-- A policy as the target of findings. -/
def target (p : NetworkPolicy) : Target := .ofMeta .networkPolicies p.metadata

end NetworkPolicyCheck

/-- The check of network policies. -/
def Check.networkPolicies : Check where
  kind := .networkPolicies
  name := "networkpolicy"
  look s :=
    onRecords s .networkPolicies Resource.asNetworkPolicy NetworkPolicyCheck.target
      (NetworkPolicyCheck.verdict s)

end ClusterAudit
