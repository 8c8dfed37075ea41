import AzureProvider.Contracts.Teardown
import AzureProvider.Contracts.Workflow

/-! # What a creation leaves in the backend

The creation's requests act on the backend the teardown acts on: a NIC's or a
VM's `CreateOrUpdate` creates its resource, or fails having created it or not;
the other clients' requests only read; and the teardown runs `deleteVMNicDisks`
against the backend's contracts. Every request of `createVMNicDisk` names only
what the creation derived from the machine's name, so whatever the clients
answer, a creation changes nothing outside the VM, the NIC and the disks of those
names. From that: a creation that returns its VM leaves the VM with its disks and
the NIC, and a teardown of those names that returns `nil`, the creation's own
rollback or one after it, leaves the backend the creation started from without
them and otherwise as it was.
-/

namespace AzureProvider

/-- Modelled from the spec: what the creation's requests do to the backend. A
NIC's `CreateOrUpdate` creates the NIC, or fails and may leave the backend as it
was; a VM's creates the VM, in place of any VM of its name, with the OS disk and
the data disks of its definition, or fails and may leave the backend as it was;
the teardown runs `deleteVMNicDisks` against the backend's contracts and answers
with its result; the other requests change nothing. -/
def Backend.creates : Responder CreateRequest CreateRequest.Response Backend
  | .nicCreateOrUpdate resourceGroupName nicName _, backend, answer, after =>
      after = backend.addNetworkInterface ⟨resourceGroupName, nicName⟩ ∨
        (answer.isSome ∧ after = backend)
  | .vmCreateOrUpdate resourceGroupName vmName parameters, backend, answer, after =>
      (∃ vm : VirtualMachineRecord, vm.id = ⟨resourceGroupName, vmName⟩ ∧
        vm.osDisk = ⟨resourceGroupName, parameters.storageProfile.osDisk.name⟩ ∧
        vm.dataDisks = (parameters.storageProfile.dataDisks.getD []).map
          (fun disk => ⟨resourceGroupName, disk.name⟩) ∧
        after = backend.putVirtualMachine vm) ∨
      (answer.isSome ∧ after = backend)
  | .deleteVMNicDisks resourceGroupName VMName nicName diskName dataDiskNames, backend, answer,
      after =>
      ∃ events, Teardown.Runs Backend.responds
        (deleteVMNicDisks resourceGroupName VMName nicName diskName dataDiskNames)
        backend events answer after
  | _, backend, _, after => after = backend

namespace Backend

/-- `after` differs from `before` at most in the VM `vmName`, the NIC `nicName`
and the disks `diskNames` of the resource group. -/
structure SameOutside (resourceGroupName vmName nicName : String) (diskNames : List String)
    (before after : Backend) : Prop where
  virtualMachines : ∀ vm : VirtualMachineRecord, vm.id ≠ ⟨resourceGroupName, vmName⟩ →
    (vm ∈ after.virtualMachines ↔ vm ∈ before.virtualMachines)
  networkInterfaces : ∀ nic : ResourceId, nic ≠ ⟨resourceGroupName, nicName⟩ →
    (nic ∈ after.networkInterfaces ↔ nic ∈ before.networkInterfaces)
  disks : ∀ disk : ResourceId, (∀ name ∈ diskNames, disk ≠ ⟨resourceGroupName, name⟩) →
    (disk ∈ after.disks ↔ disk ∈ before.disks)

/-- `after` is `before` without the VM `vmName`, the NIC `nicName` and the disks
`diskNames` of the resource group, and nothing else changed. -/
structure Without (resourceGroupName vmName nicName : String) (diskNames : List String)
    (before after : Backend) : Prop where
  virtualMachines : ∀ vm : VirtualMachineRecord, vm ∈ after.virtualMachines ↔
    vm ∈ before.virtualMachines ∧ vm.id ≠ ⟨resourceGroupName, vmName⟩
  networkInterfaces : ∀ nic : ResourceId, nic ∈ after.networkInterfaces ↔
    nic ∈ before.networkInterfaces ∧ nic ≠ ⟨resourceGroupName, nicName⟩
  disks : ∀ disk : ResourceId, disk ∈ after.disks ↔
    disk ∈ before.disks ∧ ∀ name ∈ diskNames, disk ≠ ⟨resourceGroupName, name⟩

/-- The backend holds the machine: a VM of its name whose OS disk and data disks
are the disks of their names, and those disks. -/
def HoldsMachine (resourceGroupName vmName diskName : String)
    (dataDiskNames : Option (List String)) (backend : Backend) : Prop :=
  (∃ vm ∈ backend.virtualMachines, vm.id = ⟨resourceGroupName, vmName⟩ ∧
    vm.osDisk = ⟨resourceGroupName, diskName⟩ ∧
    vm.dataDisks = (dataDiskNames.getD []).map fun name => ⟨resourceGroupName, name⟩) ∧
  ∀ name ∈ diskName :: dataDiskNames.getD [], ⟨resourceGroupName, name⟩ ∈ backend.disks

variable {resourceGroupName vmName nicName diskName : String}
  {dataDiskNames : Option (List String)} {diskNames : List String}

namespace SameOutside

theorem refl (backend : Backend) :
    SameOutside resourceGroupName vmName nicName diskNames backend backend :=
  ⟨fun _ _ => .rfl, fun _ _ => .rfl, fun _ _ => .rfl⟩

theorem trans {first second third : Backend}
    (same : SameOutside resourceGroupName vmName nicName diskNames first second)
    (next : SameOutside resourceGroupName vmName nicName diskNames second third) :
    SameOutside resourceGroupName vmName nicName diskNames first third :=
  ⟨fun vm other => (next.virtualMachines vm other).trans (same.virtualMachines vm other),
    fun nic other => (next.networkInterfaces nic other).trans (same.networkInterfaces nic other),
    fun disk other => (next.disks disk other).trans (same.disks disk other)⟩

/-- Taking the VM, the NIC and the disks out of a backend that is `before`
outside them leaves `before` without them. -/
theorem without {before middle after : Backend}
    (same : SameOutside resourceGroupName vmName nicName diskNames before middle)
    (removed : Without resourceGroupName vmName nicName diskNames middle after) :
    Without resourceGroupName vmName nicName diskNames before after :=
  ⟨fun vm => (removed.virtualMachines vm).trans (and_congr_left (same.virtualMachines vm)),
    fun nic => (removed.networkInterfaces nic).trans (and_congr_left (same.networkInterfaces nic)),
    fun disk => (removed.disks disk).trans (and_congr_left (same.disks disk))⟩

theorem addNetworkInterface (backend : Backend) :
    SameOutside resourceGroupName vmName nicName diskNames backend
      (backend.addNetworkInterface ⟨resourceGroupName, nicName⟩) :=
  ⟨fun _ _ => .rfl, fun nic other => by simp [Backend.addNetworkInterface, other],
    fun _ _ => .rfl⟩

theorem putVirtualMachine {vm : VirtualMachineRecord}
    (identified : vm.id = ⟨resourceGroupName, vmName⟩)
    (named : ∀ disk ∈ vm.osDisk :: vm.dataDisks, ∃ name ∈ diskNames,
      disk = ⟨resourceGroupName, name⟩)
    (backend : Backend) :
    SameOutside resourceGroupName vmName nicName diskNames backend
      (backend.putVirtualMachine vm) := by
  refine ⟨fun record other => ?_, fun _ _ => .rfl, fun disk other => ?_⟩
  · have notVM : record ≠ vm := fun same => other (same ▸ identified)
    simp [notVM, other, identified]
  · have unnamed : disk ∉ vm.osDisk :: vm.dataDisks := fun member =>
      let ⟨name, listed, same⟩ := named disk member
      other name listed same
    show disk ∈ (vm.osDisk :: vm.dataDisks) ++ backend.disks ↔ _
    rw [List.mem_append, or_iff_right unnamed]

theorem removeVirtualMachine (backend : Backend) :
    SameOutside resourceGroupName vmName nicName diskNames backend
      (backend.removeVirtualMachine ⟨resourceGroupName, vmName⟩) :=
  ⟨fun vm other => by simp [Backend.removeVirtualMachine, other], fun _ _ => .rfl,
    fun _ _ => .rfl⟩

theorem detachDataDisks (backend : Backend) :
    SameOutside resourceGroupName vmName nicName diskNames backend
      (backend.detachDataDisks ⟨resourceGroupName, vmName⟩) := by
  refine ⟨fun vm other =>
    ⟨fun member => ?_, fun member => List.mem_map.mpr ⟨vm, member, if_neg other⟩⟩,
    fun _ _ => .rfl, fun _ _ => .rfl⟩
  obtain ⟨record, member, detached⟩ := List.mem_map.mp member
  by_cases same : record.id = ⟨resourceGroupName, vmName⟩
  · rw [if_pos same] at detached
    subst detached
    exact absurd same other
  · rw [if_neg same] at detached
    exact detached ▸ member

end SameOutside

end Backend

section Teardown

variable {resourceGroupName VMName nicName diskName : String} {dataDiskNames : Option (List String)}
  {diskNames : List String}

/-- Whatever the backend answers, the teardown up to its fan-out changes nothing
but the VM it names. -/
theorem deleteVMNicDisks_prelude_sameOutside {backend middle : Backend}
    {events : List TeardownEvent} {teardown : Teardown}
    (prelude : Program.Runs Backend.responds
      (deleteVMNicDisks resourceGroupName VMName nicName diskName dataDiskNames)
      backend events teardown middle) :
    Backend.SameOutside resourceGroupName VMName nicName diskNames backend middle := by
  simp only [deleteVMNicDisks, TeardownRequest.issue_eq, Program.issue_bind,
    Program.runs_request] at prelude
  obtain ⟨answer, start, _, rfl, ⟨rfl, reported⟩, prelude⟩ := prelude
  cases answer with
  | error err =>
      dsimp only at prelude
      split at prelude <;> obtain ⟨-, -, rfl⟩ := Program.runs_pure.mp prelude <;> exact .refl _
  | ok vm =>
      obtain ⟨-, identified⟩ := reported
      simp only [Program.runs_request] at prelude
      obtain ⟨_, detachedState, _, rfl, detached, deleted, removedState, _, rfl, removed,
        prelude⟩ := prelude
      have detachedSame : Backend.SameOutside resourceGroupName VMName nicName diskNames start
          detachedState := by
        rcases detached with rfl | rfl
        · exact .refl _
        · rw [identified]
          exact .detachDataDisks _
      have removedSame : Backend.SameOutside resourceGroupName VMName nicName diskNames
          detachedState removedState := by
        rcases removed with rfl | ⟨-, rfl⟩
        exacts [.removeVirtualMachine _, .refl _]
      cases deleted <;> obtain ⟨-, -, rfl⟩ := Program.runs_pure.mp prelude <;>
        exact detachedSame.trans removedSame

/-- However the deleters interleave and whatever they answer, the fan-out
removes at most its targets. -/
theorem fanOut_trimmed {targets : List Target} {base final : Backend}
    {events : List TeardownEvent} {results : List (Option DriverError)}
    (parallel : Parallel Backend.responds (targets.map Target.deleter) base events results final) :
    Backend.Trimmed targets base final :=
  (parallel.invariant (FanOut targets base)
    (fun _ _ _ _ _ _ _ holds found responded => holds.step found responded)
    ⟨.refl base, by simp, fun _ _ _ targeted found => .inl (by
      simpa [targeted, eq_comm] using found)⟩).1

theorem Backend.Trimmed.sameOutside {before after : Backend}
    (trimmed : Trimmed (fanOutTargets resourceGroupName nicName diskName dataDiskNames)
      before after) :
    SameOutside resourceGroupName VMName nicName (diskName :: dataDiskNames.getD []) before
      after := by
  refine ⟨fun _ _ => by rw [trimmed.virtualMachines],
    fun nic other => ⟨fun member => trimmed.networkInterfaces_subset member,
      fun member => trimmed.networkInterfaces_kept nic member (by simp [fanOutTargets, other])⟩,
    fun disk other => ⟨fun member => trimmed.disks_subset member,
      fun member => trimmed.disks_kept disk member fun targeted => ?_⟩⟩
  rcases List.mem_cons.mp targeted with wrongKind | mapped
  · cases wrongKind
  · obtain ⟨name, named, same⟩ := List.mem_map.mp mapped
    exact other name named (Target.disk.inj same).symm

/-- Whatever it answers, the teardown changes nothing but the VM, the NIC and the
disks it names. -/
theorem deleteVMNicDisks_sameOutside {backend final : Backend} {events : List TeardownEvent}
    {result : Option DriverError}
    (run : Teardown.Runs Backend.responds
      (deleteVMNicDisks resourceGroupName VMName nicName diskName dataDiskNames)
      backend events result final) :
    Backend.SameOutside resourceGroupName VMName nicName (diskName :: dataDiskNames.getD [])
      backend final := by
  rcases deleteVMNicDisks_runs run with
    ⟨_, -, prelude⟩ | ⟨_, _, _, _, -, -, prelude, parallel⟩
  · exact deleteVMNicDisks_prelude_sameOutside prelude
  · rw [deleters_eq_map] at parallel
    exact (deleteVMNicDisks_prelude_sameOutside prelude).trans
      (fanOut_trimmed parallel).sameOutside

end Teardown

/-! ## One request of the creation -/

section Requests

variable {resourceGroupName vmName nicName diskName : String}
  {dataDiskNames : Option (List String)}

private theorem getD_map_name (disks : Option (List DataDisk)) (resourceGroupName : String) :
    (disks.getD []).map (fun disk => (⟨resourceGroupName, disk.name⟩ : ResourceId)) =
      ((disks.map (List.map DataDisk.name)).getD []).map fun name => ⟨resourceGroupName, name⟩ := by
  cases disks <;> simp

/-- A request that uses the names the creation derived changes nothing outside
them. -/
theorem Backend.SameOutside.creates {call : CreateRequest} {backend after : Backend}
    {answer : call.Response}
    (agrees : call.Agrees resourceGroupName vmName nicName diskName dataDiskNames)
    (responded : Backend.creates call backend answer after) :
    SameOutside resourceGroupName vmName nicName (diskName :: dataDiskNames.getD []) backend
      after := by
  cases call with
  | nicCreateOrUpdate =>
      obtain ⟨rfl, rfl, -⟩ := agrees
      rcases responded with rfl | ⟨-, rfl⟩
      exacts [.addNetworkInterface _, .refl _]
  | vmCreateOrUpdate group name parameters =>
      obtain ⟨rfl, rfl, rfl, rfl⟩ := agrees
      rcases responded with ⟨vm, identified, osDisk, dataDisks, rfl⟩ | ⟨-, rfl⟩
      · refine .putVirtualMachine identified (fun disk member => ?_) _
        rw [dataDisks, getD_map_name] at member
        rcases List.mem_cons.mp member with rfl | data
        · exact ⟨_, List.mem_cons_self _ _, osDisk⟩
        · obtain ⟨name, listed, rfl⟩ := List.mem_map.mp data
          exact ⟨name, List.mem_cons_of_mem _ listed, rfl⟩
      · exact .refl _
  | deleteVMNicDisks =>
      obtain ⟨rfl, rfl, rfl, rfl, rfl⟩ := agrees
      obtain ⟨_, run⟩ := responded
      exact deleteVMNicDisks_sameOutside run
  | _ =>
      obtain rfl := responded
      exact .refl _

/-- A VM request that uses the derived names and creates the VM leaves the
machine held. -/
theorem Backend.holdsMachine_putVirtualMachine {group name : String}
    {parameters : VirtualMachine} {vm : VirtualMachineRecord}
    (agrees : (CreateRequest.vmCreateOrUpdate group name parameters).Agrees resourceGroupName
      vmName nicName diskName dataDiskNames)
    (identified : vm.id = ⟨group, name⟩)
    (osDisk : vm.osDisk = ⟨group, parameters.storageProfile.osDisk.name⟩)
    (dataDisks : vm.dataDisks =
      (parameters.storageProfile.dataDisks.getD []).map fun disk => ⟨group, disk.name⟩)
    (backend : Backend) :
    (backend.putVirtualMachine vm).HoldsMachine resourceGroupName vmName diskName
      dataDiskNames := by
  obtain ⟨rfl, rfl, rfl, rfl⟩ := agrees
  rw [getD_map_name] at dataDisks
  refine ⟨⟨vm, mem_putVirtualMachine.mpr (.inl rfl), identified, osDisk, dataDisks⟩,
    fun name named => ?_⟩
  show _ ∈ (vm.osDisk :: vm.dataDisks) ++ backend.disks
  rw [osDisk, dataDisks]
  exact List.mem_append_left _
    (List.mem_map_of_mem (fun name => (⟨group, name⟩ : ResourceId)) named)

/-- Requests that use the derived names, the teardown apart, keep the machine
held. -/
theorem Backend.HoldsMachine.creates {call : CreateRequest} {backend after : Backend}
    {answer : call.Response}
    (agrees : call.Agrees resourceGroupName vmName nicName diskName dataDiskNames)
    (notTeardown : ¬ call.IsTeardown)
    (holds : backend.HoldsMachine resourceGroupName vmName diskName dataDiskNames)
    (responded : Backend.creates call backend answer after) :
    after.HoldsMachine resourceGroupName vmName diskName dataDiskNames := by
  cases call with
  | nicCreateOrUpdate => rcases responded with rfl | ⟨-, rfl⟩ <;> exact holds
  | vmCreateOrUpdate =>
      rcases responded with ⟨vm, identified, osDisk, dataDisks, rfl⟩ | ⟨-, rfl⟩
      exacts [holdsMachine_putVirtualMachine agrees identified osDisk dataDisks _, holds]
  | deleteVMNicDisks => exact absurd trivial notTeardown
  | _ =>
      obtain rfl := responded
      exact holds

/-- Only the teardown removes NICs. -/
theorem Backend.networkInterfaces_subset_of_creates {call : CreateRequest}
    {backend after : Backend} {answer : call.Response} (notTeardown : ¬ call.IsTeardown)
    (responded : Backend.creates call backend answer after) :
    backend.networkInterfaces ⊆ after.networkInterfaces := by
  cases call with
  | nicCreateOrUpdate =>
      rcases responded with rfl | ⟨-, rfl⟩
      exacts [fun _ => List.mem_cons_of_mem _, fun _ => id]
  | vmCreateOrUpdate => rcases responded with ⟨_, -, -, -, rfl⟩ | ⟨-, rfl⟩ <;> exact fun _ => id
  | deleteVMNicDisks => exact absurd trivial notTeardown
  | _ =>
      obtain rfl := responded
      exact fun _ => id

end Requests

/-! ## Whole creations -/

section Creation

variable {toLower : String → String} {secret : Option Secret} {providerSpec : AzureProviderSpec}
  {req : CreateMachineRequest} {backend final : Backend} {events : List CreateEvent}
  {result : Except DriverError VirtualMachine}

/-- A run through requests that use the derived names changes nothing outside
them. -/
theorem Backend.SameOutside.of_accepts {resourceGroupName vmName nicName diskName : String}
    {dataDiskNames : Option (List String)}
    (run : Accepts (fun state event after => Backend.creates event.call state event.answer after)
      backend events final)
    (agreeing : ∀ event ∈ events,
      event.call.Agrees resourceGroupName vmName nicName diskName dataDiskNames) :
    SameOutside resourceGroupName vmName nicName (diskName :: dataDiskNames.getD []) backend
      final :=
  run.preserves (SameOutside resourceGroupName vmName nicName _ backend)
    (fun event => event.call.Agrees resourceGroupName vmName nicName diskName dataDiskNames)
    (fun _ _ _ agrees same responded => same.trans (.creates agrees responded)) agreeing
    (.refl backend)

/-- Every request of a creation uses the names it derived. -/
theorem createVMNicDisk_agrees
    (path : Program.Path (createVMNicDisk toLower secret (.ok providerSpec) req) events result) :
    ∀ event ∈ events, event.call.Agrees providerSpec.resourceGroup (toLower req.machineName)
      (dependencyNameFromVMName (toLower req.machineName) nicSuffix)
      (dependencyNameFromVMName (toLower req.machineName) diskSuffix)
      (if providerSpec.properties.storageProfile.dataDisks ≠ [] then
        some (getAzureDataDiskNames providerSpec.properties.storageProfile.dataDisks
          (toLower req.machineName) dataDiskSuffix)
      else none) :=
  fun event member =>
    (((createVMNicDisk_beforeNic toLower secret providerSpec req).path path).1 event member).agrees

/-- Answered as the contracts allow, a creation whose spec names its image by ID
can return its VM from every backend. -/
theorem createVMNicDisk_succeeds_imageID (backend : Backend) :
    ∃ events vm final, Program.Runs Backend.creates
      (createVMNicDisk id (some ⟨[]⟩) (.ok sampleProviderSpec) ⟨"machine", "class"⟩)
      backend events (.ok vm) final :=
  ⟨_, _, _, Program.runs_request.mpr ⟨none, _, _, rfl, rfl,
    Program.runs_request.mpr ⟨.ok ⟨"subnet-id"⟩, _, _, rfl, rfl,
    Program.runs_request.mpr ⟨none, _, _, rfl, .inl rfl,
    Program.runs_request.mpr ⟨none, _, _, rfl, rfl,
    Program.runs_request.mpr ⟨some (.ok (some "nic-id")), _, _, rfl, rfl,
    Program.runs_request.mpr ⟨none, _, _, rfl,
      .inl ⟨⟨⟨"rg", "machine"⟩, [], ⟨"rg", "machine-os-disk"⟩, []⟩, rfl, rfl, rfl, rfl⟩,
    Program.runs_request.mpr ⟨none, _, _, rfl, rfl,
    Program.runs_request.mpr ⟨some (.ok ⟨"machine", none, "westeurope", "Standard_A1",
        ⟨.id "image-id", ⟨"machine-os-disk", "None", "Standard_LRS", 50, "FromImage"⟩, none⟩,
        ⟨"machine", "core", "", true, "/home/core/.ssh/authorized_keys", "ssh-rsa"⟩,
        [⟨"nic-id", true⟩], none, none, none, []⟩), _, _, rfl, rfl,
      Program.runs_pure.mpr ⟨rfl, rfl, rfl⟩⟩⟩⟩⟩⟩⟩⟩⟩⟩

/-- A creation that returns its VM leaves in the backend a VM of the machine's
name whose OS disk and data disks are the disks of the derived names, those
disks, and the NIC of the derived name. -/
theorem createVMNicDisk_provisions {vm : VirtualMachine}
    (run : Program.Runs Backend.creates (createVMNicDisk toLower secret (.ok providerSpec) req)
      backend events (.ok vm) final) :
    let vmName := toLower req.machineName
    let nicName := dependencyNameFromVMName vmName nicSuffix
    let diskName := dependencyNameFromVMName vmName diskSuffix
    let dataDisks := providerSpec.properties.storageProfile.dataDisks
    let dataDiskNames :=
      if dataDisks ≠ [] then some (getAzureDataDiskNames dataDisks vmName dataDiskSuffix) else none
    final.HoldsMachine providerSpec.resourceGroup vmName diskName dataDiskNames ∧
      ⟨providerSpec.resourceGroup, nicName⟩ ∈ final.networkInterfaces := by
  intro vmName nicName diskName dataDisks dataDiskNames
  have agreeing := createVMNicDisk_agrees run.path
  have untouched : ∀ event ∈ events, ¬ event.call.IsTeardown := by
    rcases ((createVMNicDisk_beforeNic toLower secret providerSpec req).path run.path).2 with
      ⟨-, untouched⟩ | ⟨_, _, _, failed, -⟩
    exacts [untouched, nomatch failed]
  obtain ⟨last, workflow, returned⟩ :=
    (createVMNicDisk_follows toLower secret providerSpec req).path run.path
  cases Stage.eq_succeeded_of_returns returned
  obtain ⟨⟨_, _, _, nicCreated⟩, ⟨_, _, _, vmCreated⟩⟩ := Stage.created_of_accepts workflow
  refine ⟨run.accepts.established
    (Backend.HoldsMachine providerSpec.resourceGroup vmName diskName dataDiskNames)
    (fun event => event.call.Agrees providerSpec.resourceGroup vmName nicName diskName
      dataDiskNames ∧ ¬ event.call.IsTeardown)
    (fun _ _ _ allowed holds responded => holds.creates allowed.1 allowed.2 responded)
    (fun _ _ responded => ?_) (fun event member => ⟨agreeing event member, untouched event member⟩)
    vmCreated, ?_⟩
  · rcases responded with ⟨_, identified, osDisk, dataDisks, rfl⟩ | ⟨⟨⟩, -⟩
    exact Backend.holdsMachine_putVirtualMachine (agreeing _ vmCreated) identified osDisk
      dataDisks _
  · obtain ⟨rfl, rfl, -⟩ := agreeing _ nicCreated
    refine run.accepts.established
      (fun backend => ⟨providerSpec.resourceGroup, nicName⟩ ∈ backend.networkInterfaces)
      (fun event => ¬ event.call.IsTeardown)
      (fun _ _ _ notTeardown holds responded =>
        Backend.networkInterfaces_subset_of_creates notTeardown responded holds)
      (fun _ _ responded => ?_) untouched nicCreated
    rcases responded with rfl | ⟨⟨⟩, -⟩
    exact List.mem_cons_self _ _

theorem createVMNicDisk_provisions_imageID :
    ∃ events vm final, Program.Runs Backend.creates
      (createVMNicDisk id (some ⟨[]⟩) (.ok sampleProviderSpec) ⟨"machine", "class"⟩)
      ⟨[], [], []⟩ events (.ok vm) final ∧
      final.HoldsMachine "rg" "machine" "machine-os-disk" none ∧
      ⟨"rg", "machine-nic"⟩ ∈ final.networkInterfaces :=
  let ⟨_, _, _, run⟩ := createVMNicDisk_succeeds_imageID ⟨[], [], []⟩
  ⟨_, _, _, run, createVMNicDisk_provisions run⟩

/-- A failed creation whose own teardown returned `nil` leaves the backend it
started from without the VM, the NIC and the disks of the derived names, those
that were there before it included, and otherwise as it was. -/
theorem createVMNicDisk_rollback_restores
    (run : Program.Runs Backend.creates (createVMNicDisk toLower secret (.ok providerSpec) req)
      backend events result final) :
    let vmName := toLower req.machineName
    let nicName := dependencyNameFromVMName vmName nicSuffix
    let diskName := dependencyNameFromVMName vmName diskSuffix
    let dataDisks := providerSpec.properties.storageProfile.dataDisks
    let dataDiskNames :=
      if dataDisks ≠ [] then some (getAzureDataDiskNames dataDisks vmName dataDiskSuffix) else none
    (⟨.deleteVMNicDisks providerSpec.resourceGroup vmName nicName diskName dataDiskNames, none⟩ :
        CreateEvent) ∈ events →
      (∃ err, result = .error err) ∧
      Backend.Without providerSpec.resourceGroup vmName nicName
        (diskName :: dataDiskNames.getD []) backend final := by
  intro vmName nicName diskName dataDisks dataDiskNames tornDown
  rcases ((createVMNicDisk_beforeNic toLower secret providerSpec req).path run.path).2 with
    ⟨-, untouched⟩ | ⟨err, before, last, failed, rfl, -, untouched, -, -⟩
  · exact absurd trivial (untouched _ tornDown)
  rcases List.mem_append.mp tornDown with early | late
  · exact absurd trivial (untouched _ early)
  cases List.mem_singleton.mp late
  obtain ⟨middle, toTeardown, fromTeardown⟩ := run.accepts.split
  cases fromTeardown with
  | cons responded rest =>
      cases rest
      obtain ⟨_, tornDownRun⟩ := responded
      obtain ⟨vms, nics, disks⟩ := deleteVMNicDisks_removes tornDownRun
      exact ⟨⟨err, failed⟩, (Backend.SameOutside.of_accepts toTeardown fun event member =>
        createVMNicDisk_agrees run.path event (List.mem_append_left _ member)).without
        ⟨vms, nics, disks⟩⟩

/-- A creation whose NIC request fails rolls back and takes with it a free NIC of
the derived name that was there before, and leaves every other NIC. -/
theorem createVMNicDisk_rollback_restores_staleNic :
    ∃ events result final, Program.Runs Backend.creates
      (createVMNicDisk id (some ⟨[]⟩) (.ok sampleProviderSpec) ⟨"machine", "class"⟩)
      ⟨[], [⟨"rg", "machine-nic"⟩, ⟨"rg", "other-nic"⟩], []⟩ events result final ∧
      (⟨.deleteVMNicDisks "rg" "machine" "machine-nic" "machine-os-disk" none, none⟩ :
        CreateEvent) ∈ events ∧
      (∃ err, result = .error err) ∧
      ⟨"rg", "machine-nic"⟩ ∉ final.networkInterfaces ∧
      ⟨"rg", "other-nic"⟩ ∈ final.networkInterfaces := by
  obtain ⟨_, teardownRun⟩ : ∃ events, Teardown.Runs Backend.responds
      (deleteVMNicDisks "rg" "machine" "machine-nic" "machine-os-disk" none)
      ⟨[], [⟨"rg", "machine-nic"⟩, ⟨"rg", "other-nic"⟩], []⟩ events none _ :=
    deleteVMNicDisks_runs_of_free (by decide)
  have run : Program.Runs Backend.creates
      (createVMNicDisk id (some ⟨[]⟩) (.ok sampleProviderSpec) ⟨"machine", "class"⟩)
      ⟨[], [⟨"rg", "machine-nic"⟩, ⟨"rg", "other-nic"⟩], []⟩ _ _ _ :=
    Program.runs_request.mpr ⟨none, _, _, rfl, rfl,
      Program.runs_request.mpr ⟨.ok ⟨"subnet-id"⟩, _, _, rfl, rfl,
      Program.runs_request.mpr ⟨some (.detailed 500 "InternalServerError"), _, _, rfl,
        .inr ⟨rfl, rfl⟩,
      Program.runs_request.mpr ⟨none, _, _, rfl, ⟨_, teardownRun⟩,
        Program.runs_pure.mpr ⟨rfl, rfl, rfl⟩⟩⟩⟩⟩
  obtain ⟨failed, restored⟩ :=
    createVMNicDisk_rollback_restores run (.tail _ (.tail _ (.tail _ (.head _))))
  exact ⟨_, _, _, run, .tail _ (.tail _ (.tail _ (.head _))), failed,
    fun stale => ((restored.networkInterfaces _).mp stale).2 rfl,
    (restored.networkInterfaces _).mpr ⟨by decide, by decide⟩⟩

/-- A creation that never requests its NIC, failing at the setup or at the
subnet, leaves the backend exactly as it was. -/
theorem createVMNicDisk_untouched_before_nic
    (run : Program.Runs Backend.creates (createVMNicDisk toLower secret (.ok providerSpec) req)
      backend events result final)
    (noNic : ∀ event ∈ events, ¬ event.call.IsNICCreation) : final = backend := by
  obtain ⟨_, workflow, -⟩ := (createVMNicDisk_follows toLower secret providerSpec req).path run.path
  have lookups := workflow.forall_mem Stage.Early _ (fun event => ¬ event.call.IsNICCreation)
    (fun _ _ _ noNic early stepped => early.step stepped noNic) noNic trivial
  refine run.accepts.preserves (· = backend) _ ?_ lookups rfl
  rintro _ ⟨call, answer⟩ _ (rfl | ⟨_, _, _, rfl⟩) rfl responded <;> exact responded

theorem createVMNicDisk_untouched_before_nic_subnetFailure :
    let backend : Backend := ⟨[], [⟨"rg", "machine-nic"⟩], [⟨"rg", "machine-os-disk"⟩]⟩
    ∃ events result final, Program.Runs Backend.creates
      (createVMNicDisk id (some ⟨[]⟩) (.ok sampleProviderSpec) ⟨"machine", "class"⟩)
      backend events result final ∧
      (∀ event ∈ events, ¬ event.call.IsNICCreation) ∧ final = backend := by
  intro backend
  have run : Program.Runs Backend.creates
      (createVMNicDisk id (some ⟨[]⟩) (.ok sampleProviderSpec) ⟨"machine", "class"⟩)
      backend _ _ _ :=
    Program.runs_request.mpr ⟨none, _, _, rfl, rfl,
      Program.runs_request.mpr ⟨.error (.detailed 404 "SubnetNotFound"), _, _, rfl, rfl,
        Program.runs_pure.mpr ⟨rfl, rfl, rfl⟩⟩⟩
  have noNic : ∀ event ∈ [(⟨.setup, none⟩ : CreateEvent),
      ⟨.subnetGet "rg" "vnet" "subnet", .error (.detailed 404 "SubnetNotFound")⟩],
      ¬ event.call.IsNICCreation :=
    List.forall_mem_cons.mpr ⟨nofun, List.forall_mem_cons.mpr
      ⟨nofun, fun _ member => absurd member (List.not_mem_nil _)⟩⟩
  exact ⟨_, _, _, run, noNic, createVMNicDisk_untouched_before_nic run noNic⟩

end Creation

end AzureProvider
