import AzureProvider.Driver.Naming

/-! # Request bodies

The NIC and the virtual machine the driver asks the backend to create. Their
names, and those of the disks the virtual machine definition attaches, are the
names the rollback later deletes.
-/

namespace AzureProvider

def cachingTypesNone : String := "None"
def diskCreateOptionTypesEmpty : String := "Empty"
def dynamicAllocation : String := "Dynamic"

/-- `getNICParameters(vmName, subnet)`: the NIC named after the VM, with one
dynamic IP configuration in the subnet and IP forwarding on. -/
def getNICParameters (providerSpec : AzureProviderSpec) (vmName : String) (subnet : Subnet) :
    Interface :=
  let nicName := dependencyNameFromVMName vmName nicSuffix
  { name := nicName
    location := providerSpec.location
    ipConfigurations :=
      [{ name := nicName, privateIPAllocationMethod := dynamicAllocation, subnet := subnet }]
    enableIPForwarding := true
    enableAcceleratedNetworking := providerSpec.properties.acceleratedNetworking
    tags := providerSpec.tags }

/-- `generateDataDisks(vmName, azureDataDisks)`: a loop appending one data disk
per descriptor, with LUN `int32(i)` for the descriptor at position `i` that has
none. -/
def generateDataDisks (vmName : String) (azureDataDisks : List AzureDataDisk) : List DataDisk :=
  loop 0 azureDataDisks []
where
  loop (i : Nat) : List AzureDataDisk → List DataDisk → List DataDisk
    | [], dataDisks => dataDisks
    | azureDataDisk :: rest, dataDisks =>
        let dataDiskLun := azureDataDisk.lun.getD (BitVec.ofNat 32 i)
        let dataDiskName := dependencyNameFromVMNameAndDependency
          (getAzureDataDiskPrefix azureDataDisk.name dataDiskLun) vmName dataDiskSuffix
        let caching :=
          if azureDataDisk.caching ≠ "" then azureDataDisk.caching else cachingTypesNone
        loop (i + 1) rest (dataDisks ++
          [{ lun := dataDiskLun
             name := dataDiskName
             caching := caching
             storageAccountType := azureDataDisk.storageAccountType
             diskSizeGB := azureDataDisk.diskSizeGB
             createOption := diskCreateOptionTypesEmpty }])

/-- `getImageReference`: the image ID when one is set, else the first four
`:`-separated parts of the URN. `none` where the Go code panics: a `nil` URN, or
one with fewer than four parts. -/
def getImageReference (providerSpec : AzureProviderSpec) : Option ImageReference :=
  let imageRefClass := providerSpec.properties.storageProfile.imageReference
  if imageRefClass.id ≠ "" then some (.id imageRefClass.id)
  else
    match imageRefClass.urn with
    | none => none
    | some urn =>
        match urn.splitOn ":" with
        | publisher :: offer :: sku :: version :: _ => some (.urn publisher offer sku version)
        | _ => none

/-- `getVMParameters(vmName, image, networkInterfaceReferenceID)` of a plugin whose
`d.Secret` is `secret`. `none` where the Go code panics: on a `nil` secret, where
`getImageReference` panics, and on an image whose embedded properties are `nil`.
The plan is the image's, its three pointers copied. -/
def getVMParameters (providerSpec : AzureProviderSpec) (secret : Option Secret) (vmName : String)
    (image : Option VirtualMachineImage) (networkInterfaceReferenceID : String) :
    Option VirtualMachine := do
  let diskName := dependencyNameFromVMName vmName diskSuffix
  let secret ← secret
  let userDataEnc := encodeToString secret.userData
  let properties := providerSpec.properties
  let imageReference ← getImageReference providerSpec
  let plan ← match image with
    | some image => image.properties.map VirtualMachineImageProperties.plan
    | none => pure none
  let dataDisks :=
    if properties.storageProfile.dataDisks ≠ [] then
      some (generateDataDisks vmName properties.storageProfile.dataDisks)
    else none
  let (zones, availabilitySetID) := match properties.zone, properties.availabilitySetID with
    | some zone, _ => (some [toString zone], none)
    | none, some availabilitySetID => (none, some availabilitySetID)
    | none, none => (none, none)
  let identity := match properties.identityID with
    | some identityID => if identityID ≠ "" then some identityID else none
    | none => none
  return {
    name := vmName
    plan := plan
    location := providerSpec.location
    vmSize := properties.vmSize
    storageProfile := {
      imageReference := imageReference
      osDisk := {
        name := diskName
        caching := properties.storageProfile.osDisk.caching
        storageAccountType := properties.storageProfile.osDisk.storageAccountType
        diskSizeGB := properties.storageProfile.osDisk.diskSizeGB
        createOption := properties.storageProfile.osDisk.createOption }
      dataDisks := dataDisks }
    osProfile := {
      computerName := vmName
      adminUsername := properties.osProfile.adminUsername
      customData := userDataEnc
      disablePasswordAuthentication := properties.osProfile.disablePasswordAuthentication
      sshPublicKeyPath := properties.osProfile.sshPublicKeyPath
      sshPublicKeyData := properties.osProfile.sshPublicKeyData }
    networkInterfaces := [{ id := networkInterfaceReferenceID, primary := true }]
    zones := zones
    availabilitySetID := availabilitySetID
    identity := identity
    tags := providerSpec.tags }

/-! ## The data-disk loop -/

/-- The data disk the loop appends for the descriptor at position `i`. -/
def generatedDataDisk (vmName : String) (i : Nat) (azureDataDisk : AzureDataDisk) : DataDisk :=
  let dataDiskLun := azureDataDisk.lun.getD (BitVec.ofNat 32 i)
  { lun := dataDiskLun
    name := dependencyNameFromVMNameAndDependency
      (getAzureDataDiskPrefix azureDataDisk.name dataDiskLun) vmName dataDiskSuffix
    caching := if azureDataDisk.caching ≠ "" then azureDataDisk.caching else cachingTypesNone
    storageAccountType := azureDataDisk.storageAccountType
    diskSizeGB := azureDataDisk.diskSizeGB
    createOption := diskCreateOptionTypesEmpty }

private theorem generateDataDisks_loop (vmName : String) :
    ∀ (i : Nat) (azureDataDisks : List AzureDataDisk) (dataDisks : List DataDisk),
      generateDataDisks.loop vmName i azureDataDisks dataDisks =
        dataDisks ++ azureDataDisks.mapIdx fun j => generatedDataDisk vmName (i + j)
  | _, [], dataDisks => by simp [generateDataDisks.loop]
  | i, azureDataDisk :: rest, dataDisks => by
      rw [generateDataDisks.loop, generateDataDisks_loop vmName (i + 1) rest, List.mapIdx_cons,
        List.append_assoc]
      simp only [generatedDataDisk, Nat.add_zero, List.singleton_append]
      congr 3
      funext j
      rw [Nat.add_assoc, Nat.add_comm 1 j]

theorem generateDataDisks_eq_mapIdx (vmName : String) (azureDataDisks : List AzureDataDisk) :
    generateDataDisks vmName azureDataDisks =
      azureDataDisks.mapIdx (generatedDataDisk vmName) := by
  simpa using generateDataDisks_loop vmName 0 azureDataDisks []

/-- The appending loop builds one data disk per descriptor, in order: the disk
at position `i` takes the descriptor's LUN or else `i`, is named after the VM and
that LUN, caches as asked or else not at all, copies size and storage type, and
is created empty. -/
theorem generateDataDisks_spec (vmName : String) (azureDataDisks : List AzureDataDisk) :
    (generateDataDisks vmName azureDataDisks).length = azureDataDisks.length ∧
      ∀ i : Nat, (generateDataDisks vmName azureDataDisks)[i]? = azureDataDisks[i]?.map fun disk =>
        { lun := disk.lun.getD (BitVec.ofNat 32 i)
          name := vmName ++ "-" ++
            getAzureDataDiskPrefix disk.name (disk.lun.getD (BitVec.ofNat 32 i)) ++ "-data-disk"
          caching := if disk.caching ≠ "" then disk.caching else "None"
          storageAccountType := disk.storageAccountType
          diskSizeGB := disk.diskSizeGB
          createOption := "Empty" } := by
  rw [generateDataDisks_eq_mapIdx]
  exact ⟨List.length_mapIdx, fun i => List.getElem?_mapIdx⟩

/-- The names of the data disks the VM definition attaches are the names
`getAzureDataDiskNames` derives for teardown, position by position. -/
theorem generateDataDisks_names (vmName : String) (azureDataDisks : List AzureDataDisk) :
    (generateDataDisks vmName azureDataDisks).map DataDisk.name =
      getAzureDataDiskNames azureDataDisks vmName dataDiskSuffix := by
  rw [generateDataDisks_eq_mapIdx, getAzureDataDiskNames_eq_mapIdx, List.mapIdx_eq_enum_map,
    List.mapIdx_eq_enum_map, List.map_map]
  rfl

/-! ## What the VM definition carries -/

/-- `getImageReference` names the image by its ID when there is one, and
otherwise by the URN's parts, when the URN has four. -/
theorem getImageReference_cases (providerSpec : AzureProviderSpec) :
    let id := providerSpec.properties.storageProfile.imageReference.id
    id ≠ "" ∧ getImageReference providerSpec = some (.id id) ∨
      id = "" ∧ (getImageReference providerSpec = none ∨
        ∃ publisher offer sku version,
          getImageReference providerSpec = some (.urn publisher offer sku version)) := by
  intro id
  by_cases named : id = ""
  · refine .inr ⟨named, ?_⟩
    simp only [getImageReference, id] at named ⊢
    simp only [named, ne_eq, not_true_eq_false, if_false]
    split
    · exact .inl rfl
    · split
      · exact .inr ⟨_, _, _, _, rfl⟩
      · exact .inl rfl
  · exact .inl ⟨named, if_pos named⟩

/-- What the VM definition carries: the VM's name, the OS disk named after it,
the data disks `generateDataDisks` builds when the machine class has any, the
reference `getImageReference` returns, the plan of the image's properties, and the
zone when the spec has one, the availability set only when it has none. -/
theorem getVMParameters_spec {providerSpec : AzureProviderSpec} {secret : Option Secret}
    {vmName : String} {image : Option VirtualMachineImage} {networkInterfaceReferenceID : String}
    {parameters : VirtualMachine}
    (built : getVMParameters providerSpec secret vmName image networkInterfaceReferenceID =
      some parameters) :
    parameters.name = vmName ∧
    parameters.storageProfile.osDisk.name = dependencyNameFromVMName vmName diskSuffix ∧
    parameters.storageProfile.dataDisks =
      (if providerSpec.properties.storageProfile.dataDisks ≠ [] then
        some (generateDataDisks vmName providerSpec.properties.storageProfile.dataDisks)
      else none) ∧
    getImageReference providerSpec = some parameters.storageProfile.imageReference ∧
    parameters.plan =
      (image.bind VirtualMachineImage.properties).bind VirtualMachineImageProperties.plan ∧
    parameters.zones = providerSpec.properties.zone.map (fun zone => [toString zone]) ∧
    parameters.availabilitySetID =
      if providerSpec.properties.zone.isSome then none
      else providerSpec.properties.availabilitySetID := by
  rcases image with _ | ⟨_ | properties⟩ <;>
    simp only [getVMParameters, Option.bind_eq_bind, Option.bind_eq_some, Option.pure_def,
      Option.some.injEq, Option.map_none', Option.map_some'] at built <;>
    obtain ⟨_, -, imageReference, reference, _, planned, rfl⟩ := built <;>
    cases planned
  all_goals
    refine ⟨rfl, rfl, rfl, reference, rfl, ?_⟩
    rcases providerSpec.properties.zone with _ | zone <;>
      rcases providerSpec.properties.availabilitySetID with _ | availabilitySetID <;>
      exact ⟨rfl, rfl⟩

/-- The VM definition references the NIC it is given, as its primary NIC. -/
theorem getVMParameters_networkInterfaces {providerSpec : AzureProviderSpec}
    {secret : Option Secret} {vmName : String} {image : Option VirtualMachineImage}
    {networkInterfaceReferenceID : String} {parameters : VirtualMachine}
    (built : getVMParameters providerSpec secret vmName image networkInterfaceReferenceID =
      some parameters) :
    parameters.networkInterfaces = [⟨networkInterfaceReferenceID, true⟩] := by
  rcases image with _ | ⟨_ | properties⟩ <;>
    simp only [getVMParameters, Option.bind_eq_bind, Option.bind_eq_some, Option.pure_def,
      Option.some.injEq, Option.map_none', Option.map_some'] at built <;>
    obtain ⟨_, -, _, -, _, -, rfl⟩ := built <;>
    rfl

/-- `getVMParameters` builds a definition exactly when the secret is there,
`getImageReference` builds the reference, and an image it is given has its
properties. -/
theorem getVMParameters_isSome (providerSpec : AzureProviderSpec) (secret : Option Secret)
    (vmName : String) (image : Option VirtualMachineImage) (networkInterfaceReferenceID : String) :
    (getVMParameters providerSpec secret vmName image networkInterfaceReferenceID).isSome =
      (secret.isSome && (getImageReference providerSpec).isSome &&
        image.all fun image => image.properties.isSome) := by
  unfold getVMParameters
  rcases secret with _ | _ <;> rcases getImageReference providerSpec with _ | _ <;>
    rcases image with _ | ⟨_ | _⟩ <;> rfl

end AzureProvider
