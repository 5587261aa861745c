/-
# The portal

The portal on the machine hands a lease to the node.  The node accepts one that passes the checks
and names this machine, stores it and uses it from then on.
-/
import OzonSuite.Node.Lease

namespace OzonSuite

open Lib

/-- What the portal shows of the lease. -/
structure LeaseStatus where
  configured : Bool
  valid : Bool
  leaseId : Option Uuid
  deviceId : Option DeviceId
  features : List Feature
  expiresAt : Option Time
  issue : Option String
deriving DecidableEq

/-- The answer to a lease that is handed over. -/
structure PortalLeaseResponse where
  accepted : Bool
  lease : LeaseStatus
  savedAt : Time
deriving DecidableEq

/-- What a status shows of a lease: whether it is good for reading. -/
def leaseStatus (x : NodeCrates) (w : NodeWorld) (config : LocalConfig)
    (lease : EntitlementLease) : LeaseStatus :=
  let validation := validateCloudLeaseWithFeature x w config lease .ozonRead
  { configured := true
    valid := validation.isOk
    leaseId := some lease.leaseId
    deviceId := some lease.deviceId
    features := lease.features
    expiresAt := some lease.expiresAt
    issue := match validation with
      | .ok _ => none
      | .error e => some e.message }

/-- Take over a lease that the portal hands in. -/
def savePortalLease (x : NodeCrates) (w : NodeWorld) (lease : EntitlementLease) :
    NodeM PortalLeaseResponse := do
  let config := (← get).config
  ofExcept (validateCloudLeaseWithFeature x w config lease .ozonRead)
  let deviceFingerprint ← loadOrCreateDeviceFingerprint w
  ofExcept (ensureLeaseBoundToDevice x lease deviceFingerprint)
  putSecret w secretCloudLease (x.leaseText lease) "failed to save cloud lease"
  modify fun s => { s with cloudLeaseCache := some lease }
  return { accepted := true, lease := leaseStatus x w config lease, savedAt := w.now }

section Saving

variable {x : NodeCrates} {w : NodeWorld} {lease : EntitlementLease} {n n' : LocalState}
  {fingerprint : String}

/-- The node with a lease stored and cached. -/
def LocalState.install (x : NodeCrates) (lease : EntitlementLease) (n : LocalState) : LocalState :=
  { n with
    secrets := n.secrets.insert secretCloudLease (x.leaseText lease)
    cloudLeaseCache := some lease }

/-- A lease that passes the checks is saved. -/
lemma savePortalLease_of_valid (hvalid : validateCloudLeaseWithFeature x w n.config lease .ozonRead
      = .ok ())
    (hfingerprint : loadOrCreateDeviceFingerprint w n = .ok fingerprint n')
    (hbound : lease.deviceId = deviceIdFor x.newV5 lease.userId fingerprint)
    (hput : w.putFails secretCloudLease = false) :
    savePortalLease x w lease n =
      .ok ⟨true, leaseStatus x w n.config lease, w.now⟩ (n'.install x lease) := by
  simp only [savePortalLease, bind_eq_ok, get_eq_ok, ofExcept_eq_ok, putSecret_eq_ok,
    modify_eq_ok, pure_eq_ok]
  exact ⟨n, n, ⟨rfl, rfl⟩, (), n, ⟨hvalid, rfl⟩, fingerprint, n', hfingerprint, (), n',
    ⟨ensureLeaseBoundToDevice_ok.mpr hbound, rfl⟩, (), _, ⟨hput, rfl⟩, (), _, rfl, rfl, rfl⟩

/-- The lease that has been saved is the one that is used. -/
lemma installed_install (n : LocalState) : (n.install x lease).Installed x lease := .inl rfl

/-- And also when the node has been started again. -/
lemma installed_restart (hjson : x.parseLease (x.leaseText lease) = some lease) (n : LocalState) :
    (LocalState.new n.config (n.install x lease).secrets).Installed x lease := by
  refine .inr ⟨rfl, x.leaseText lease, ?_, hjson⟩
  simp [LocalState.new, LocalState.install]

/-- A lease does not change the fingerprint. -/
lemma fingerprint_install (h : n.Fingerprint w fingerprint) :
    (n.install x lease).Fingerprint w fingerprint := by
  have hne : secretDeviceFingerprint ≠ secretCloudLease := by decide
  rcases h with hstable | ⟨hstable, hstored, hvalid⟩
  · exact .inl hstable
  · refine .inr ⟨hstable, ?_, hvalid⟩
    rw [LocalState.install, Finmap.lookup_insert_of_ne _ hne]
    exact hstored

end Saving

end OzonSuite
