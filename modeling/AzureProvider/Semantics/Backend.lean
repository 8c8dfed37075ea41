import AzureProvider.Foundation.Program
import AzureProvider.Types

/-! # The backend the teardown talks to

The backend is the set of virtual machines, network interfaces and managed
disks, each named within a resource group; a virtual machine lists the NICs and
disks attached to it. The requests are those `deleteVMNicDisks` issues to the VM
client and to the `spi` helpers, which are not part of this repository: what
they may answer is modelled from the spec, as contracts (`Backend.responds`).
-/

namespace AzureProvider

structure ResourceId where
  resourceGroup : String
  name : String
  deriving DecidableEq, Repr

structure VirtualMachineRecord where
  id : ResourceId
  networkInterfaces : List ResourceId
  osDisk : ResourceId
  dataDisks : List ResourceId
  deriving DecidableEq, Repr

structure Backend where
  virtualMachines : List VirtualMachineRecord
  networkInterfaces : List ResourceId
  disks : List ResourceId
  deriving DecidableEq, Repr

namespace Backend

def HasVirtualMachine (backend : Backend) (id : ResourceId) : Prop :=
  ∃ vm ∈ backend.virtualMachines, vm.id = id

def NetworkInterfaceAttached (backend : Backend) (id : ResourceId) : Prop :=
  ∃ vm ∈ backend.virtualMachines, id ∈ vm.networkInterfaces

def DiskAttached (backend : Backend) (id : ResourceId) : Prop :=
  ∃ vm ∈ backend.virtualMachines, vm.osDisk = id ∨ id ∈ vm.dataDisks

def detachDataDisks (backend : Backend) (id : ResourceId) : Backend :=
  { backend with
    virtualMachines := backend.virtualMachines.map fun vm =>
      if vm.id = id then { vm with dataDisks := [] } else vm }

def removeVirtualMachine (backend : Backend) (id : ResourceId) : Backend :=
  { backend with virtualMachines := backend.virtualMachines.filter fun vm => vm.id ≠ id }

def removeNetworkInterface (backend : Backend) (id : ResourceId) : Backend :=
  { backend with networkInterfaces := backend.networkInterfaces.filter (· ≠ id) }

def removeDisk (backend : Backend) (id : ResourceId) : Backend :=
  { backend with disks := backend.disks.filter (· ≠ id) }

/-- A NIC's `CreateOrUpdate`: afterwards the NIC exists. -/
def addNetworkInterface (backend : Backend) (id : ResourceId) : Backend :=
  { backend with networkInterfaces := id :: backend.networkInterfaces }

/-- A VM's `CreateOrUpdate`: the VM replaces any VM of its ID, and its OS disk and
data disks exist afterwards. -/
def putVirtualMachine (backend : Backend) (vm : VirtualMachineRecord) : Backend :=
  { virtualMachines := vm :: backend.virtualMachines.filter fun other => other.id ≠ vm.id
    networkInterfaces := backend.networkInterfaces
    disks := vm.osDisk :: vm.dataDisks ++ backend.disks }

instance (backend : Backend) (id : ResourceId) : Decidable (backend.HasVirtualMachine id) :=
  inferInstanceAs (Decidable (∃ vm ∈ backend.virtualMachines, vm.id = id))

instance (backend : Backend) (id : ResourceId) :
    Decidable (backend.NetworkInterfaceAttached id) :=
  inferInstanceAs (Decidable (∃ vm ∈ backend.virtualMachines, id ∈ vm.networkInterfaces))

instance (backend : Backend) (id : ResourceId) : Decidable (backend.DiskAttached id) :=
  inferInstanceAs (Decidable (∃ vm ∈ backend.virtualMachines, vm.osDisk = id ∨ id ∈ vm.dataDisks))

/-- Detaching a machine's data disks and then deleting it leaves what deleting
it alone leaves. -/
theorem removeVirtualMachine_detachDataDisks (backend : Backend) (id : ResourceId) :
    (backend.detachDataDisks id).removeVirtualMachine id = backend.removeVirtualMachine id := by
  simp only [removeVirtualMachine, detachDataDisks, mk.injEq, and_true]
  induction backend.virtualMachines with
  | nil => rfl
  | cons vm rest induction => by_cases same : vm.id = id <;> simp_all [List.filter_cons]

theorem removeVirtualMachine_of_absent {backend : Backend} {id : ResourceId}
    (absent : ¬ backend.HasVirtualMachine id) : backend.removeVirtualMachine id = backend := by
  simp only [HasVirtualMachine, not_exists, not_and] at absent
  simp only [removeVirtualMachine]
  rw [List.filter_eq_self.mpr fun vm member => by simpa using absent vm member]

theorem removeNetworkInterface_of_absent {backend : Backend} {id : ResourceId}
    (absent : id ∉ backend.networkInterfaces) : backend.removeNetworkInterface id = backend := by
  simp only [removeNetworkInterface]
  rw [List.filter_eq_self.mpr fun nic member => by
    simpa using fun same : nic = id => absent (same ▸ member)]

theorem removeDisk_of_absent {backend : Backend} {id : ResourceId} (absent : id ∉ backend.disks) :
    backend.removeDisk id = backend := by
  simp only [removeDisk]
  rw [List.filter_eq_self.mpr fun disk member => by
    simpa using fun same : disk = id => absent (same ▸ member)]

@[simp] theorem mem_putVirtualMachine {backend : Backend} {vm record : VirtualMachineRecord} :
    record ∈ (backend.putVirtualMachine vm).virtualMachines ↔
      record = vm ∨ record ∈ backend.virtualMachines ∧ record.id ≠ vm.id := by
  simp [putVirtualMachine]

end Backend

/-- The requests `deleteVMNicDisks` issues: `clients.GetVM().Get`,
`spi.WaitForDataDiskDetachment`, `spi.DeleteVM`, `spi.FetchAttachedVMfromNIC`,
`spi.DeleteNIC`, and running a deleter of `spi.GetDeleterForDisk`. -/
inductive TeardownRequest where
  | getVM (resourceGroupName VMName : String)
  | waitForDataDiskDetachment (resourceGroupName : String) (vm : VirtualMachineRecord)
  | deleteVM (resourceGroupName VMName : String)
  | fetchAttachedVMfromNIC (resourceGroupName nicName : String)
  | deleteNIC (resourceGroupName nicName : String)
  | deleteDisk (resourceGroupName diskName : String)
  deriving DecidableEq, Repr

namespace TeardownRequest

@[reducible] def Response : TeardownRequest → Type
  | .getVM .. => Except DriverError VirtualMachineRecord
  | .waitForDataDiskDetachment .. => Option DriverError
  | .deleteVM .. => Option DriverError
  | .fetchAttachedVMfromNIC .. => Except DriverError String
  | .deleteNIC .. => Option DriverError
  | .deleteDisk .. => Option DriverError

/-- Issue a request of the teardown and return its answer. -/
def issue (call : TeardownRequest) : Program TeardownRequest Response (Response call) :=
  Program.issue call

@[simp] theorem issue_eq (call : TeardownRequest) : issue call = Program.issue call := rfl

/-- The requests that delete a NIC or a disk. -/
def IsDependentDeletion : TeardownRequest → Prop
  | .deleteNIC .. => True
  | .deleteDisk .. => True
  | _ => False

/-- The requests about the virtual machine itself. -/
def IsVMRequest : TeardownRequest → Prop
  | .getVM .. => True
  | .waitForDataDiskDetachment .. => True
  | .deleteVM .. => True
  | _ => False

theorem not_isVMRequest_of_isDependentDeletion {call : TeardownRequest}
    (deleting : call.IsDependentDeletion) : ¬ call.IsVMRequest := by
  cases call <;> simp_all [IsDependentDeletion, IsVMRequest]

end TeardownRequest

abbrev TeardownEvent := Event TeardownRequest TeardownRequest.Response

/-- Modelled from the spec: the contracts of what the teardown calls. A `Get`
of an absent resource fails with an error `spi.NotFound` recognizes, and only
then; `DeleteVM` and `DeleteNIC` remove their resource or fail; a disk deleter
returns `nil` on an absent disk, fails on an attached one, and otherwise deletes
it or fails; detaching data disks may or may not take effect, as its error is
ignored. Nothing but these requests changes the backend. -/
def Backend.responds : Responder TeardownRequest TeardownRequest.Response Backend
  | .getVM resourceGroupName VMName, backend, answer, after =>
      after = backend ∧ match answer with
        | .ok vm => vm ∈ backend.virtualMachines ∧ vm.id = ⟨resourceGroupName, VMName⟩
        | .error err =>
            (notFound err = true ↔ ¬ backend.HasVirtualMachine ⟨resourceGroupName, VMName⟩)
  | .waitForDataDiskDetachment _ vm, backend, _, after =>
      after = backend ∨ after = backend.detachDataDisks vm.id
  | .deleteVM resourceGroupName VMName, backend, answer, after =>
      after = backend.removeVirtualMachine ⟨resourceGroupName, VMName⟩ ∨
        (answer.isSome ∧ after = backend)
  | .fetchAttachedVMfromNIC resourceGroupName nicName, backend, answer, after =>
      after = backend ∧ match answer with
        | .ok vmHoldingNic => ⟨resourceGroupName, nicName⟩ ∈ backend.networkInterfaces ∧
            (vmHoldingNic = "" ↔ ¬ backend.NetworkInterfaceAttached ⟨resourceGroupName, nicName⟩)
        | .error err =>
            (notFound err = true ↔ ⟨resourceGroupName, nicName⟩ ∉ backend.networkInterfaces)
  | .deleteNIC resourceGroupName nicName, backend, answer, after =>
      after = backend.removeNetworkInterface ⟨resourceGroupName, nicName⟩ ∨
        (answer.isSome ∧ after = backend)
  | .deleteDisk resourceGroupName diskName, backend, answer, after =>
      if ⟨resourceGroupName, diskName⟩ ∉ backend.disks then answer = none ∧ after = backend
      else if backend.DiskAttached ⟨resourceGroupName, diskName⟩ then
        answer.isSome ∧ after = backend
      else after = backend.removeDisk ⟨resourceGroupName, diskName⟩ ∨
        (answer.isSome ∧ after = backend)

end AzureProvider
