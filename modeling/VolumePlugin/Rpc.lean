import VolumePlugin.Config
import VolumePlugin.Controller.Service
import VolumePlugin.Identity
import VolumePlugin.Message.Catalog
import VolumePlugin.Metrics
import VolumePlugin.Node.Service

/-! The remote procedures that the plugin offers, by name. -/

namespace VolumePlugin

/-- What the services of a plugin are made with. -/
structure Plugin where
  driverName : String := Setting.defaultDriverName
  vendorVersion : String := Setting.vendorVersion
  controller : Controller
  /-- The instance that the node runs on. -/
  node : Instance
  deriving DecidableEq, Repr

inductive ServiceKind where
  | identity
  | controller
  | node
  deriving DecidableEq, Repr

/-- Whether a process offers a service. -/
def Mode.offers (mode : Mode) : ServiceKind → Bool
  | .identity => true
  | .controller => mode.runsController
  | .node => mode.runsNode

/-- Work on a request. -/
inductive Work (α : Type) where
  | done (result : Except CsiError α)
  /-- Only looks at the shutdown signal. -/
  | signal (see : Signal → α)
  | controller (job : Controller.Job α)
  | node (job : Host.Job α)

namespace Work

def map {α β : Type} (f : α → β) : Work α → Work β
  | done result => done (result.map f)
  | signal see => signal (f ∘ see)
  | controller job => controller (f <$> job)
  | node job => node (f <$> job)

end Work

/-- A remote procedure. -/
structure Rpc where
  name : String
  service : ServiceKind
  /-- Whether finished calls are counted. -/
  observed : Bool
  /-- The work on a request in wire form, if it is one. -/
  ofBytes : Plugin → List UInt8 → Option (Work Message.Packed)
  /-- The work on a request in JSON. -/
  ofJson : Plugin → Json → Option (Work Message.Packed)

namespace Rpc

/-- A procedure from requests of type `σ` to responses of type `τ`. -/
def of {σ τ : Type} [Message σ] [Message τ] (name : String) (service : ServiceKind)
    (work : Plugin → σ → Work τ) : Rpc :=
  { name, service
    observed := true
    ofBytes := fun p bytes =>
      (Message.decode bytes : Option σ).map fun req => (work p req).map Message.pack
    ofJson := fun p v =>
      (Message.ofJson v : Option σ).map fun req => (work p req).map Message.pack }

/-- A procedure of the controller service that is not offered. -/
def refused (σ : Type) [Message σ] (name : String) : Rpc :=
  { name
    service := .controller
    observed := false
    ofBytes := fun _ bytes =>
      (Message.decode bytes : Option σ).map fun _ => .done (.error (.unimplemented name))
    ofJson := fun _ v =>
      (Message.ofJson v : Option σ).map fun _ => .done (.error (.unimplemented name)) }

def identityCatalog : List Rpc := [
  of "GetPluginInfo" .identity fun p (_ : GetPluginInfoRequest) =>
    .done (.ok (Identity.pluginInfo p.driverName p.vendorVersion)),
  of "GetPluginCapabilities" .identity fun _ (_ : GetPluginCapabilitiesRequest) =>
    .done (.ok Identity.pluginCapabilities),
  of "Probe" .identity fun _ (_ : ProbeRequest) => .signal Identity.probe]

def controllerCatalog : List Rpc := [
  of "CreateVolume" .controller fun p req => .controller (p.controller.createVolume req),
  of "DeleteVolume" .controller fun _ req => .controller (Controller.deleteVolume req),
  of "ControllerPublishVolume" .controller fun _ req =>
    .controller (Controller.publishVolume req),
  of "ControllerUnpublishVolume" .controller fun _ req =>
    .controller (Controller.unpublishVolume req),
  of "ValidateVolumeCapabilities" .controller fun _ req =>
    .controller (Controller.validateCapabilities req),
  of "ListVolumes" .controller fun _ req => .controller (Controller.listVolumes req),
  refused GetCapacityRequest "GetCapacity",
  of "ControllerGetCapabilities" .controller fun _ (_ : ControllerGetCapabilitiesRequest) =>
    .done (.ok Controller.capabilities),
  refused CreateSnapshotRequest "CreateSnapshot",
  refused DeleteSnapshotRequest "DeleteSnapshot",
  refused ListSnapshotsRequest "ListSnapshots",
  of "ControllerExpandVolume" .controller fun _ req => .controller (Controller.expandVolume req),
  refused ControllerGetVolumeRequest "ControllerGetVolume"]

def nodeCatalog : List Rpc := [
  of "NodeStageVolume" .node fun _ req => .node (Node.stage req),
  of "NodeUnstageVolume" .node fun _ req => .node (Node.unstage req),
  of "NodePublishVolume" .node fun _ req => .node (Node.publish req),
  of "NodeUnpublishVolume" .node fun _ req => .node (Node.unpublish req),
  of "NodeGetVolumeStats" .node fun _ req => .node (Node.volumeStats req),
  of "NodeExpandVolume" .node fun _ req => .node (Node.expand req),
  of "NodeGetCapabilities" .node fun _ (_ : NodeGetCapabilitiesRequest) =>
    .done (.ok Node.capabilities),
  of "NodeGetInfo" .node fun p (_ : NodeGetInfoRequest) => .done (.ok (Node.info p.node))]

def catalog : List Rpc :=
  identityCatalog ++ controllerCatalog ++ nodeCatalog

def find? (name : String) : Option Rpc :=
  catalog.find? (·.name = name)

end Rpc

def statusOf {α : Type} : Except CsiError α → StatusCode
  | .ok _ => .ok
  | .error e => e.code

/-- Whether work broke off before it came to a result. -/
def brokeOff {α : Type} : Except CsiError α → Bool
  | .error (.cloud .pageOverflow) => true
  | _ => false

/-- What the caller hears of what work ended with: nothing if it broke off. -/
def heard {α : Type} (result : Except CsiError α) : Option (Except CsiError α) :=
  if brokeOff result then none else some result

/-- What the caller hears of what work ended with, and the metrics then. Work that broke off is not
counted. Otherwise the caller hears of the result after the call has been recorded. -/
def Metrics.observe {α : Type} (m : Metrics) (rpc : Rpc) (result : Except CsiError α)
    (elapsed : Nat) : Option (Except CsiError α) × Metrics :=
  if rpc.observed && !brokeOff result then
    (if m.admits rpc.name (statusOf result) elapsed then some result else none,
      m.record rpc.name (statusOf result) elapsed)
  else (heard result, m)

end VolumePlugin
