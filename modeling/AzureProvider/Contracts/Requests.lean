import AzureProvider.Driver.Create

/-! # What the creation asks for

Every request `createVMNicDisk` issues carries what the creation derives from
its inputs (`createVMNicDisk_beforeNic`). From that: the names the rollback tears
down are those of the resources the creation asked for; an image ID takes
precedence over the URN, and a zone over an availability set.
-/

namespace AzureProvider

/-- The names the rollback tears down are those of the resources the creation
asks for: the NIC is requested under the NIC name, the VM definition's OS disk and
data disks carry the OS-disk and data-disk names, position by position, and both
the definition's data-disk list and the teardown's data-disk names are absent
exactly when the machine class has no data disks. -/
theorem createVMNicDisk_names (toLower : String → String) (secret : Option Secret)
    (providerSpec : AzureProviderSpec) (req : CreateMachineRequest) (subnet : Subnet)
    (image : Option VirtualMachineImage) (nicID : String) :
    let vmName := toLower req.machineName
    let dataDisks := providerSpec.properties.storageProfile.dataDisks
    let dataDiskNames :=
      if dataDisks ≠ [] then some (getAzureDataDiskNames dataDisks vmName dataDiskSuffix) else none
    (getNICParameters providerSpec vmName subnet).name = dependencyNameFromVMName vmName nicSuffix ∧
    (getVMParameters providerSpec secret vmName image nicID).isSome =
      (secret.isSome && (getImageReference providerSpec).isSome &&
        image.all fun image => image.properties.isSome) ∧
    (∀ parameters, getVMParameters providerSpec secret vmName image nicID = some parameters →
      parameters.storageProfile.osDisk.name = dependencyNameFromVMName vmName diskSuffix ∧
      parameters.storageProfile.dataDisks.map (List.map DataDisk.name) = dataDiskNames ∧
      (parameters.storageProfile.dataDisks = none ↔ dataDisks = [])) ∧
    getAzureDataDiskNames dataDisks vmName dataDiskSuffix =
      (generateDataDisks vmName dataDisks).map DataDisk.name ∧
    (dataDiskNames = none ↔ dataDisks = []) ∧
    ∀ events result,
      Program.Path (createVMNicDisk toLower secret (.ok providerSpec) req) events result →
      ∀ event ∈ events, CreateRequest.Agrees providerSpec.resourceGroup vmName
        (dependencyNameFromVMName vmName nicSuffix) (dependencyNameFromVMName vmName diskSuffix)
        dataDiskNames event.call := by
  intro vmName dataDisks dataDiskNames
  have absent : dataDiskNames = none ↔ dataDisks = [] := by
    simp only [dataDiskNames]
    split_ifs <;> simp_all
  refine ⟨rfl, getVMParameters_isSome providerSpec secret vmName image nicID,
    fun parameters built => ?_, (generateDataDisks_names vmName dataDisks).symm, absent,
    fun _ _ path event member =>
      (((createVMNicDisk_beforeNic toLower secret providerSpec req).path path).1 event
        member).agrees⟩
  obtain ⟨-, osDisk, named⟩ := vmParameters_agree built
  have mapped : dataDiskNames = parameters.storageProfile.dataDisks.map (List.map DataDisk.name) :=
    named.symm
  exact ⟨osDisk, named, by rw [← absent, mapped, Option.map_eq_none']⟩

/-- An image ID takes precedence over the URN: with one, the creation asks for
neither the image nor marketplace terms, and every VM definition it submits names
the image by that ID and carries no plan. -/
theorem createVMNicDisk_imageID_precedence {toLower : String → String} {secret : Option Secret}
    {providerSpec : AzureProviderSpec} {req : CreateMachineRequest} {events : List CreateEvent}
    {result : Except DriverError VirtualMachine}
    (named : providerSpec.properties.storageProfile.imageReference.id ≠ "")
    (path : Program.Path (createVMNicDisk toLower secret (.ok providerSpec) req) events result) :
    ∀ event ∈ events, ¬ event.call.IsImageRequest ∧
      ∀ group name parameters, event.call = .vmCreateOrUpdate group name parameters →
        parameters.storageProfile.imageReference =
          .id providerSpec.properties.storageProfile.imageReference.id ∧
        parameters.plan = none := by
  have byID : getImageReference providerSpec =
      some (.id providerSpec.properties.storageProfile.imageReference.id) := if_pos named
  rintro ⟨call, answer⟩ member
  have derived := ((createVMNicDisk_beforeNic toLower secret providerSpec req).path path).1 _ member
  refine ⟨fun image => ?_, fun group name parameters submitted => ?_⟩
  · cases call <;> simp only [CreateRequest.IsImageRequest] at image
    · obtain ⟨-, urn⟩ := derived
      rw [byID] at urn
      cases urn
    · exact named derived
    · exact named derived.1
  · subst submitted
    obtain ⟨-, -, image, nicID, noImage, built⟩ := derived
    obtain ⟨-, -, -, reference, plan, -⟩ := getVMParameters_spec built
    rw [byID, Option.some.injEq] at reference
    exact ⟨reference.symm, by rw [plan, noImage.mpr named, Option.none_bind, Option.none_bind]⟩

/-- With the sample's image ID, the creation reaches its VM request without asking
for the image, and the definition it submits names the image by that ID. -/
theorem createVMNicDisk_imageID_precedence_vmRejected :
    ∃ (events : List CreateEvent) (result : Except DriverError VirtualMachine), Program.Path
      (createVMNicDisk id (some ⟨[]⟩) (.ok sampleProviderSpec) ⟨"machine", "class"⟩) events
      result ∧
      (∃ parameters answer,
        (⟨.vmCreateOrUpdate "rg" "machine" parameters, answer⟩ : CreateEvent) ∈ events) ∧
      ∀ event ∈ events, ¬ event.call.IsImageRequest ∧
        ∀ group name parameters, event.call = .vmCreateOrUpdate group name parameters →
          parameters.storageProfile.imageReference = .id "image-id" ∧ parameters.plan = none := by
  have path : Program.Path
      (createVMNicDisk id (some ⟨[]⟩) (.ok sampleProviderSpec) ⟨"machine", "class"⟩) _ _ :=
    Program.path_request.mpr ⟨none, _, rfl,
      Program.path_request.mpr ⟨.ok ⟨"subnet-id"⟩, _, rfl,
      Program.path_request.mpr ⟨none, _, rfl,
      Program.path_request.mpr ⟨none, _, rfl,
      Program.path_request.mpr ⟨some (.ok (some "nic-id")), _, rfl,
      Program.path_request.mpr ⟨some (.detailed 409 "Conflict"), _, rfl,
      Program.path_request.mpr ⟨none, _, rfl,
        Program.path_pure.mpr ⟨rfl, rfl⟩⟩⟩⟩⟩⟩⟩⟩
  exact ⟨_, _, path, ⟨_, _, .tail _ (.tail _ (.tail _ (.tail _ (.tail _ (.head _)))))⟩,
    createVMNicDisk_imageID_precedence (by decide) path⟩

/-- A zone takes precedence over an availability set: every VM definition the
creation submits carries the spec's zone when it has one, and the availability
set only when it has none. -/
theorem createVMNicDisk_zone_precedence {toLower : String → String} {secret : Option Secret}
    {providerSpec : AzureProviderSpec} {req : CreateMachineRequest} {events : List CreateEvent}
    {result : Except DriverError VirtualMachine}
    (path : Program.Path (createVMNicDisk toLower secret (.ok providerSpec) req) events result) :
    ∀ event ∈ events, ∀ group name parameters,
      event.call = .vmCreateOrUpdate group name parameters →
        parameters.zones = providerSpec.properties.zone.map (fun zone => [toString zone]) ∧
        parameters.availabilitySetID =
          if providerSpec.properties.zone.isSome then none
          else providerSpec.properties.availabilitySetID := by
  rintro ⟨call, answer⟩ member group name parameters rfl
  obtain ⟨-, -, image, nicID, -, built⟩ :=
    ((createVMNicDisk_beforeNic toLower secret providerSpec req).path path).1 _ member
  exact (getVMParameters_spec built).2.2.2.2.2

/-- With both a zone and an availability set in the spec, the definition the
creation submits carries the zone and no availability set. -/
theorem createVMNicDisk_zone_precedence_vmRejected :
    ∃ (events : List CreateEvent) (result : Except DriverError VirtualMachine), Program.Path
      (createVMNicDisk id (some ⟨[]⟩)
        (.ok { sampleProviderSpec with
          properties.zone := some 2, properties.availabilitySetID := some "availability-set" })
        ⟨"machine", "class"⟩) events result ∧
      (∃ parameters answer,
        (⟨.vmCreateOrUpdate "rg" "machine" parameters, answer⟩ : CreateEvent) ∈ events) ∧
      ∀ event ∈ events, ∀ group name parameters,
        event.call = .vmCreateOrUpdate group name parameters →
          parameters.zones = some ["2"] ∧ parameters.availabilitySetID = none := by
  have path : Program.Path
      (createVMNicDisk id (some ⟨[]⟩)
        (.ok { sampleProviderSpec with
          properties.zone := some 2, properties.availabilitySetID := some "availability-set" })
        ⟨"machine", "class"⟩) _ _ :=
    Program.path_request.mpr ⟨none, _, rfl,
      Program.path_request.mpr ⟨.ok ⟨"subnet-id"⟩, _, rfl,
      Program.path_request.mpr ⟨none, _, rfl,
      Program.path_request.mpr ⟨none, _, rfl,
      Program.path_request.mpr ⟨some (.ok (some "nic-id")), _, rfl,
      Program.path_request.mpr ⟨some (.detailed 409 "Conflict"), _, rfl,
      Program.path_request.mpr ⟨none, _, rfl,
        Program.path_pure.mpr ⟨rfl, rfl⟩⟩⟩⟩⟩⟩⟩⟩
  exact ⟨_, _, path, ⟨_, _, .tail _ (.tail _ (.tail _ (.tail _ (.tail _ (.head _)))))⟩,
    createVMNicDisk_zone_precedence path⟩

end AzureProvider
