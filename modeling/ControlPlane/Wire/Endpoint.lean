import ControlPlane.Json.Tagged
import ControlPlane.Node

/-!
# Endpoints on the wire

Transports and tiers are written as their names.  An endpoint is a flat object: the
tag `transport_type` and the fields of its own transport.
-/

namespace ControlPlane.Wire

open ControlPlane.Json

/-! ## Names -/

/-- The transports by name. -/
def transports : List (String × Transport) :=
  [.tcp, .rdma].map fun t => (t.name, t)

/-- The tiers by name. -/
def tiers : List (String × Tier) :=
  [.highPerformance, .mediumPerformance, .standard, .basic].map fun t => (t.name, t)

/-- Reads a transport. -/
def transport : Decoder Transport :=
  .choice transports

/-- Reads a tier. -/
def tier : Decoder Tier :=
  .choice tiers

/-- A transport as a value. -/
def transportValue (t : Transport) : Value :=
  .text t.name

/-- A tier as a value. -/
def tierValue (t : Tier) : Value :=
  .text t.name

/-! ## Endpoints -/

/-- The member that names the transport. -/
def endpointTag : String := "transport_type"

/-- The fields of a socket. -/
def tcpFields : List Field :=
  [.of "tcp_addr" .text, .of "tcp_port" .uint16]

/-- The fields of a queue pair. -/
def rdmaFields : List Field :=
  [.of "rdma_qpn" .uint32, .of "rdma_lid" .uint16, .of "rdma_gid" .text,
   .of "rdma_psn" .uint32]

/-- A socket from its fields. -/
def buildTcp (kept : List (String × Draft)) (depth : Nat) : Except Refusal Endpoint := do
  let addr ← Record.required kept "tcp_addr" .text depth
  let port ← Record.required kept "tcp_port" .uint16 depth
  return .tcp addr port

/-- A queue pair from its fields. -/
def buildRdma (kept : List (String × Draft)) (depth : Nat) : Except Refusal Endpoint := do
  let qpn ← Record.required kept "rdma_qpn" .uint32 depth
  let lid ← Record.required kept "rdma_lid" .uint16 depth
  let gid ← Record.required kept "rdma_gid" .text depth
  let psn ← Record.required kept "rdma_psn" .uint32 depth
  return .rdma qpn lid gid psn

/-- The fields of an endpoint, by the name of its transport. -/
def endpointAlternatives : List (String × Alternative Endpoint) :=
  [(Transport.tcp.name,
      ⟨"struct variant TransportEndpoint::Tcp", tcpFields, buildTcp⟩),
   (Transport.rdma.name,
      ⟨"struct variant TransportEndpoint::Rdma", rdmaFields, buildRdma⟩)]

/-- Reads an endpoint. -/
def endpoint : Decoder Endpoint :=
  Tagged.decode "internally tagged enum TransportEndpoint" endpointTag endpointAlternatives

/-- The members of an endpoint. -/
def endpointMembers : Endpoint → List (String × Value)
  | .tcp addr port =>
      [(endpointTag, transportValue .tcp), ("tcp_addr", .text addr),
       ("tcp_port", .natural port.toNat)]
  | .rdma qpn lid gid psn =>
      [(endpointTag, transportValue .rdma), ("rdma_qpn", .natural qpn.toNat),
       ("rdma_lid", .natural lid.toNat), ("rdma_gid", .text gid),
       ("rdma_psn", .natural psn.toNat)]

/-- An endpoint as a value. -/
def endpointValue (e : Endpoint) : Value :=
  .object (endpointMembers e)

end ControlPlane.Wire
