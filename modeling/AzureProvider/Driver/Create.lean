import AzureProvider.Driver.Parameters
import AzureProvider.Foundation.Program

/-! # Creating a machine

`createVMNicDisk` asks for a subnet, creates a NIC in it, looks up the image
and its marketplace terms, and creates the VM. Each failure after the NIC
request runs the same clean-up, `deleteVMNicDisks` of every name the creation
derived, and then returns the failing step's own error; the failures before it
return at once. Decoding the provider spec and lowering the machine name are pure
functions of the request, so they are the function's inputs here, as is the
plugin's secret `d.Secret`, which nothing in the file sets.
-/

namespace AzureProvider

/-- The fields of `driver.CreateMachineRequest` that `createVMNicDisk` reads
itself: the machine's name and its class's name. The class and the secret go
only to `decodeProviderSpecAndSecret` and `d.SPI.Setup`. -/
structure CreateMachineRequest where
  machineName : String
  machineClassName : String
  deriving DecidableEq, Repr

/-- The requests of `createVMNicDisk`: `d.SPI.Setup`, the subnet `Get`, the NIC's
`CreateOrUpdate` with the wait on its future and the future's `Result`, the image
`Get`, the marketplace terms' `Get` and `Create`, the VM's `CreateOrUpdate`, wait
and `Result`, and the call of `d.deleteVMNicDisks`. -/
inductive CreateRequest where
  | setup
  | subnetGet (vnetResourceGroup vnetName subnetName : String)
  | nicCreateOrUpdate (resourceGroupName nicName : String) (parameters : Interface)
  | nicWaitForCompletion
  | nicResult
  | imagesGet (location publisher offer sku version : String)
  | marketplaceGet (publisher product name : String)
  | marketplaceCreate (publisher product name : String) (agreement : Agreement)
  | vmCreateOrUpdate (resourceGroupName vmName : String) (parameters : VirtualMachine)
  | vmWaitForCompletion
  | vmResult
  | deleteVMNicDisks (resourceGroupName VMName nicName diskName : String)
      (dataDiskNames : Option (List String))
  deriving DecidableEq, Repr

namespace CreateRequest

/-- What each request answers: an error, or the value the Go code reads. A future's
`Result` is read through `clients.GetNic().(network.InterfacesClient)` or
`clients.GetVM().(compute.VirtualMachinesClient)`, so its answer is `none` when
that type assertion fails; of the NIC it reads only the `ID` pointer. -/
@[reducible] def Response : CreateRequest → Type
  | .setup => Option DriverError
  | .subnetGet .. => Except DriverError Subnet
  | .nicCreateOrUpdate .. => Option DriverError
  | .nicWaitForCompletion => Option DriverError
  | .nicResult => Option (Except DriverError (Option String))
  | .imagesGet .. => Except DriverError VirtualMachineImage
  | .marketplaceGet .. => Except DriverError Agreement
  | .marketplaceCreate .. => Option DriverError
  | .vmCreateOrUpdate .. => Option DriverError
  | .vmWaitForCompletion => Option DriverError
  | .vmResult => Option (Except DriverError VirtualMachine)
  | .deleteVMNicDisks .. => Option DriverError

/-- Issue a request of the creation and return its answer. -/
def issue (call : CreateRequest) : Program CreateRequest Response (Response call) :=
  Program.issue call

@[simp] theorem issue_eq (call : CreateRequest) : issue call = Program.issue call := rfl

def IsTeardown : CreateRequest → Prop
  | .deleteVMNicDisks .. => True
  | _ => False

def IsNICCreation : CreateRequest → Prop
  | .nicCreateOrUpdate .. => True
  | _ => False

/-- The requests of the image block: the image and its marketplace terms. -/
def IsImageRequest : CreateRequest → Prop
  | .imagesGet .. => True
  | .marketplaceGet .. => True
  | .marketplaceCreate .. => True
  | _ => False

end CreateRequest

abbrev CreateProgram := Program CreateRequest CreateRequest.Response

abbrev CreateEvent := Event CreateRequest CreateRequest.Response

open CreateRequest (issue)

/-- `createVMNicDisk(req)` of a plugin whose `d.Secret` is `secret`, given what
`decodeProviderSpecAndSecret` returns for the request and the `strings.ToLower` it
applies to the machine's name. The model panics where the Go code does: on a part
of the URN that `strings.Split` did not produce, on a `nil` pointer (the secret, the
NIC's ID, the image's or the agreement's embedded properties, a field of the
plan), and on a failed type assertion of a client. -/
def createVMNicDisk (toLower : String → String) (secret : Option Secret)
    (decoded : Except DriverError AzureProviderSpec) (req : CreateMachineRequest) :
    CreateProgram (Except DriverError VirtualMachine) :=
  match decoded with
  | .error err => return .error err
  | .ok providerSpec => do
    let vmName := toLower req.machineName
    let resourceGroupName := providerSpec.resourceGroup
    let vnetName := providerSpec.subnetInfo.vnetName
    let subnetName := providerSpec.subnetInfo.subnetName
    let nicName := dependencyNameFromVMName vmName nicSuffix
    let diskName := dependencyNameFromVMName vmName diskSuffix
    match ← issue .setup with
    | some err => return .error err
    | none =>
      let vnetResourceGroup := providerSpec.subnetInfo.vnetResourceGroup.getD resourceGroupName
      let dataDisks := providerSpec.properties.storageProfile.dataDisks
      let dataDiskNames :=
        if dataDisks ≠ [] then some (getAzureDataDiskNames dataDisks vmName dataDiskSuffix)
        else none
      let rollBack := createVMNicDisk.rollBack resourceGroupName vmName nicName diskName
        dataDiskNames
      match ← issue (.subnetGet vnetResourceGroup vnetName subnetName) with
      | .error err =>
        return .error (onARMAPIErrorFail prometheusServiceSubnet err
          ("Subnet.Get failed for " ++ subnetName ++ " due to " ++ err.text))
      | .ok subnet =>
        let NICParameters := getNICParameters providerSpec vmName subnet
        match ← issue (.nicCreateOrUpdate resourceGroupName NICParameters.name NICParameters) with
        | some err =>
          rollBack (onARMAPIErrorFail prometheusServiceNIC err
            ("NIC.CreateOrUpdate failed for " ++ NICParameters.name))
        | none =>
        match ← issue .nicWaitForCompletion with
        | some err =>
          rollBack (onARMAPIErrorFail prometheusServiceNIC err
            ("NIC.WaitForCompletionRef failed for " ++ NICParameters.name))
        | none =>
        match ← issue .nicResult with
        | none => .panic "interface conversion"
        | some (.error err) => rollBack err
        | some (.ok NICID) =>
        match ← createVMNicDisk.fetchImage providerSpec req.machineClassName with
        | .error err => rollBack err
        | .ok vmImageRef =>
        let some nicID := NICID | .panic "nil pointer dereference"
        match getVMParameters providerSpec secret vmName vmImageRef nicID with
        | none => .panic "nil pointer dereference"
        | some VMParameters =>
        match ← issue (.vmCreateOrUpdate resourceGroupName VMParameters.name VMParameters) with
        | some err =>
          rollBack (onARMAPIErrorFail prometheusServiceVM err
            ("GetVM().CreateOrUpdate failed for " ++ VMParameters.name))
        | none =>
        match ← issue .vmWaitForCompletion with
        | some err =>
          rollBack (onARMAPIErrorFail prometheusServiceVM err
            ("VMFuture.WaitForCompletionRef failed for " ++ VMParameters.name))
        | none =>
        match ← issue .vmResult with
        | none => .panic "interface conversion"
        | some (.error err) =>
          rollBack (onARMAPIErrorFail prometheusServiceVM err
            ("VMFuture.Result failed for " ++ VMParameters.name))
        | some (.ok VM) => return .ok VM
where
  /-- The clean-up of every failure after the NIC request: delete what may have
  been created, log a failed deletion, and return the step's own error. -/
  rollBack (resourceGroupName vmName nicName diskName : String)
      (dataDiskNames : Option (List String)) (err : DriverError) :
      CreateProgram (Except DriverError VirtualMachine) := do
    let _ ← issue (.deleteVMNicDisks resourceGroupName vmName nicName diskName dataDiskNames)
    return .error err
  /-- The image block: with no image ID, get the image of the URN and accept its
  plan's marketplace terms if they are not accepted yet. The plan is read through
  the image's embedded properties and `Accepted` through the agreement's, and the
  plan's three fields are dereferenced, publisher first. -/
  fetchImage (providerSpec : AzureProviderSpec) (machineClassName : String) :
      CreateProgram (Except DriverError (Option VirtualMachineImage)) :=
    if providerSpec.properties.storageProfile.imageReference.id = "" then
      match getImageReference providerSpec with
      | some (.urn publisher offer sku version) => do
        match ← issue (.imagesGet providerSpec.location publisher offer sku version) with
        | .error err =>
          return .error (onARMAPIErrorFail prometheusServiceVM err
            ("VirtualMachineImagesclientutils.Get failed for " ++ machineClassName))
        | .ok vmImage =>
        let some properties := vmImage.properties | .panic "nil pointer dereference"
        match properties.plan with
        | none => return .ok (some vmImage)
        | some plan =>
        let some planPublisher := plan.publisher | .panic "nil pointer dereference"
        let some planProduct := plan.product | .panic "nil pointer dereference"
        let some planName := plan.name | .panic "nil pointer dereference"
        match ← issue (.marketplaceGet planPublisher planProduct planName) with
        | .error err =>
          return .error (onARMAPIErrorFail prometheusServiceVM err
            ("MarketplaceAgreementsclient.Get failed for " ++ machineClassName))
        | .ok agreement =>
        let some agreementProperties := agreement.properties | .panic "nil pointer dereference"
        if agreementProperties.accepted ≠ some true then
          match ← issue (.marketplaceCreate planPublisher planProduct planName
              { agreement with
                properties := some { agreementProperties with accepted := some true } }) with
          | some err =>
            return .error (onARMAPIErrorFail prometheusServiceVM err
              ("MarketplaceAgreementsclientutils.Create failed for " ++ machineClassName))
          | none => return .ok (some vmImage)
        else return .ok (some vmImage)
      | _ => .panic "index out of range"
    else return .ok none

/-! ## The creation's protocol -/

namespace CreateRequest

/-- What a request of the creation carries, as a function of its inputs: the
spec's subnet; the NIC and VM definitions `getNICParameters` and `getVMParameters`
build for the VM's name, the VM's built without an image exactly when the spec
names its image by ID; image and marketplace requests only for a spec that names
its image by URN, the image asked for by the URN's parts in the spec's location
and the terms sent back marked accepted; and the teardown of the derived names. -/
def Derived (providerSpec : AzureProviderSpec) (secret : Option Secret) (vmName : String) :
    CreateRequest → Prop
  | .subnetGet vnetResourceGroup vnetName subnetName =>
      vnetResourceGroup =
          providerSpec.subnetInfo.vnetResourceGroup.getD providerSpec.resourceGroup ∧
        vnetName = providerSpec.subnetInfo.vnetName ∧
        subnetName = providerSpec.subnetInfo.subnetName
  | .nicCreateOrUpdate group name parameters =>
      group = providerSpec.resourceGroup ∧ name = parameters.name ∧
        ∃ subnet, parameters = getNICParameters providerSpec vmName subnet
  | .imagesGet location publisher offer sku version =>
      location = providerSpec.location ∧
        getImageReference providerSpec = some (.urn publisher offer sku version)
  | .marketplaceGet .. => providerSpec.properties.storageProfile.imageReference.id = ""
  | .marketplaceCreate _ _ _ agreement =>
      providerSpec.properties.storageProfile.imageReference.id = "" ∧
        agreement.properties.bind AgreementProperties.accepted = some true
  | .vmCreateOrUpdate group name parameters =>
      group = providerSpec.resourceGroup ∧ name = parameters.name ∧
        ∃ image nicID,
          (image = none ↔ providerSpec.properties.storageProfile.imageReference.id ≠ "") ∧
          getVMParameters providerSpec secret vmName image nicID = some parameters
  | .deleteVMNicDisks group VMName nicName diskName dataDiskNames =>
      group = providerSpec.resourceGroup ∧ VMName = vmName ∧
        nicName = dependencyNameFromVMName vmName nicSuffix ∧
        diskName = dependencyNameFromVMName vmName diskSuffix ∧
        dataDiskNames = if providerSpec.properties.storageProfile.dataDisks ≠ [] then
          some (getAzureDataDiskNames providerSpec.properties.storageProfile.dataDisks vmName
            dataDiskSuffix)
        else none
  | _ => True

/-- The names a request uses agree with those the creation derived: the NIC and
the VM are created under them, the VM's OS disk and data disks carry them, and the
teardown is given exactly them. -/
def Agrees (resourceGroupName vmName nicName diskName : String)
    (dataDiskNames : Option (List String)) : CreateRequest → Prop
  | .nicCreateOrUpdate group name parameters =>
      group = resourceGroupName ∧ name = nicName ∧ parameters.name = nicName
  | .vmCreateOrUpdate group name parameters =>
      group = resourceGroupName ∧ name = vmName ∧
        parameters.storageProfile.osDisk.name = diskName ∧
        parameters.storageProfile.dataDisks.map (List.map DataDisk.name) = dataDiskNames
  | .deleteVMNicDisks group teardownVM teardownNic teardownDisk teardownDataDisks =>
      group = resourceGroupName ∧ teardownVM = vmName ∧ teardownNic = nicName ∧
        teardownDisk = diskName ∧ teardownDataDisks = dataDiskNames
  | _ => True

end CreateRequest

/-- The VM definition carries the names the creation derived from the VM's name. -/
theorem vmParameters_agree {providerSpec : AzureProviderSpec} {secret : Option Secret}
    {vmName : String}
    {image : Option VirtualMachineImage} {nicID : String} {parameters : VirtualMachine}
    (built : getVMParameters providerSpec secret vmName image nicID = some parameters) :
    parameters.name = vmName ∧
      parameters.storageProfile.osDisk.name = dependencyNameFromVMName vmName diskSuffix ∧
      parameters.storageProfile.dataDisks.map (List.map DataDisk.name) =
        if providerSpec.properties.storageProfile.dataDisks ≠ [] then
          some (getAzureDataDiskNames providerSpec.properties.storageProfile.dataDisks vmName
            dataDiskSuffix)
        else none := by
  obtain ⟨named, osDisk, dataDisks, -⟩ := getVMParameters_spec built
  refine ⟨named, osDisk, ?_⟩
  rw [dataDisks]
  split_ifs <;> simp [generateDataDisks_names]

/-- A request derived from the creation's inputs uses the names it derived. -/
theorem CreateRequest.Derived.agrees {providerSpec : AzureProviderSpec} {secret : Option Secret}
    {vmName : String} {call : CreateRequest} (derived : call.Derived providerSpec secret vmName) :
    call.Agrees providerSpec.resourceGroup vmName (dependencyNameFromVMName vmName nicSuffix)
      (dependencyNameFromVMName vmName diskSuffix)
      (if providerSpec.properties.storageProfile.dataDisks ≠ [] then
        some (getAzureDataDiskNames providerSpec.properties.storageProfile.dataDisks vmName
          dataDiskSuffix)
      else none) := by
  cases call with
  | nicCreateOrUpdate =>
      obtain ⟨rfl, rfl, subnet, rfl⟩ := derived
      exact ⟨rfl, rfl, rfl⟩
  | vmCreateOrUpdate =>
      obtain ⟨rfl, rfl, image, nicID, -, built⟩ := derived
      exact ⟨rfl, vmParameters_agree built⟩
  | deleteVMNicDisks => exact derived
  | _ => trivial

variable {allowed : CreateRequest → Prop}

/-- After the NIC request: every request is `allowed`, and every path returns the
VM or ends in one teardown, after which it returns an error fixed before the
teardown was answered. -/
def RollsBack (allowed : CreateRequest → Prop) :
    CreateProgram (Except DriverError VirtualMachine) → Prop
  | .pure result => ∃ vm, result = .ok vm
  | .request call next => allowed call ∧
      (call.IsTeardown → ∃ err, ∀ answer, next answer = .pure (.error err)) ∧
      (¬ call.IsTeardown → ∀ answer, RollsBack allowed (next answer))
  | .panic _ => True

/-- Up to the NIC request: every request is `allowed`, none is a teardown, and
no path panics; from the NIC request on, the program rolls back. -/
def BeforeNic (allowed : CreateRequest → Prop) :
    CreateProgram (Except DriverError VirtualMachine) → Prop
  | .pure _ => True
  | .request call next => allowed call ∧ ¬ call.IsTeardown ∧
      (call.IsNICCreation → ∀ answer, RollsBack allowed (next answer)) ∧
      (¬ call.IsNICCreation → ∀ answer, BeforeNic allowed (next answer))
  | .panic _ => False

theorem RollsBack.step {call : CreateRequest}
    {next : CreateRequest.Response call → CreateProgram (Except DriverError VirtualMachine)}
    (permitted : allowed call) (notTeardown : ¬ call.IsTeardown)
    (rest : ∀ answer, RollsBack allowed (next answer)) :
    RollsBack allowed (.request call next) :=
  ⟨permitted, fun teardown => absurd teardown notTeardown, fun _ => rest⟩

theorem BeforeNic.step {call : CreateRequest}
    {next : CreateRequest.Response call → CreateProgram (Except DriverError VirtualMachine)}
    (permitted : allowed call) (notTeardown : ¬ call.IsTeardown) (notNic : ¬ call.IsNICCreation)
    (rest : ∀ answer, BeforeNic allowed (next answer)) :
    BeforeNic allowed (.request call next) :=
  ⟨permitted, notTeardown, fun nic => absurd nic notNic, fun _ => rest⟩

theorem BeforeNic.nic {call : CreateRequest}
    {next : CreateRequest.Response call → CreateProgram (Except DriverError VirtualMachine)}
    (permitted : allowed call) (notTeardown : ¬ call.IsTeardown) (nic : call.IsNICCreation)
    (rest : ∀ answer, RollsBack allowed (next answer)) :
    BeforeNic allowed (.request call next) :=
  ⟨permitted, notTeardown, fun _ => rest, fun notNic => absurd nic notNic⟩

/-- A block that issues no teardown, followed by a rolling-back continuation for
each value it may return, rolls back. -/
theorem RollsBack.bind {β : Type} {post : β → Prop} {program : CreateProgram β}
    {next : β → CreateProgram (Except DriverError VirtualMachine)}
    (first : program.Meets (fun call => allowed call ∧ ¬ call.IsTeardown) post True)
    (rest : ∀ value, post value → RollsBack allowed (next value)) :
    RollsBack allowed (program.bind next) := by
  induction program with
  | pure value => exact rest value first
  | request call following induction =>
      exact .step first.1.1 first.1.2 fun answer => induction answer (first.2 answer)
  | panic _ => trivial
/-- On every path, after the NIC request, either the VM is returned and nothing
was torn down, or the path ends in its one teardown, and answering that teardown
otherwise gives the same result. -/
theorem RollsBack.path {program : CreateProgram (Except DriverError VirtualMachine)}
    (rollsBack : RollsBack allowed program) {events : List CreateEvent}
    {result : Except DriverError VirtualMachine} (path : Program.Path program events result) :
    (∀ event ∈ events, allowed event.call) ∧
    ((∃ vm, result = .ok vm) ∧ (∀ event ∈ events, ¬ event.call.IsTeardown) ∨
      ∃ err before last, result = .error err ∧ events = before ++ [last] ∧
        last.call.IsTeardown ∧ (∀ event ∈ before, ¬ event.call.IsTeardown) ∧
        ∀ other, Program.Path program (before ++ [⟨last.call, other⟩]) result) := by
  induction program generalizing events with
  | pure value =>
      obtain ⟨rfl, rfl⟩ := Program.path_pure.mp path
      exact ⟨by simp, .inl ⟨rollsBack, by simp⟩⟩
  | request call next induction =>
      obtain ⟨permitted, tearingDown, continuing⟩ := rollsBack
      obtain ⟨answer, rest, rfl, restPath⟩ := Program.path_request.mp path
      by_cases teardown : call.IsTeardown
      · obtain ⟨err, fixed⟩ := tearingDown teardown
        rw [fixed] at restPath
        obtain ⟨rfl, rfl⟩ := Program.path_pure.mp restPath
        refine ⟨List.forall_mem_singleton.mpr permitted,
          .inr ⟨err, [], _, rfl, rfl, teardown, by simp, fun other => ?_⟩⟩
        exact Program.path_request.mpr
          ⟨other, [], rfl, by rw [fixed]; exact Program.path_pure.mpr ⟨rfl, rfl⟩⟩
      · obtain ⟨allowedRest, outcome⟩ := induction answer (continuing teardown answer) restPath
        refine ⟨List.forall_mem_cons.mpr ⟨permitted, allowedRest⟩, ?_⟩
        rcases outcome with ⟨returned, untouched⟩ |
            ⟨err, before, last, failed, rfl, isTeardown, untouched, others⟩
        · exact .inl ⟨returned, List.forall_mem_cons.mpr ⟨teardown, untouched⟩⟩
        · exact .inr ⟨err, ⟨call, answer⟩ :: before, last, failed, rfl, isTeardown,
            List.forall_mem_cons.mpr ⟨teardown, untouched⟩,
            fun other => Program.path_request.mpr ⟨answer, _, rfl, others other⟩⟩
  | panic _ => exact absurd path Program.path_panic

/-- On every path: every request is `allowed`; a path that stops before the NIC
request, or returns the VM, tears nothing down; any other path fails and ends in
its one teardown, after the NIC request, and answering that teardown otherwise
gives the same result. -/
theorem BeforeNic.path {program : CreateProgram (Except DriverError VirtualMachine)}
    (beforeNic : BeforeNic allowed program) {events : List CreateEvent}
    {result : Except DriverError VirtualMachine} (path : Program.Path program events result) :
    (∀ event ∈ events, allowed event.call) ∧
    (((∀ event ∈ events, ¬ event.call.IsNICCreation) ∨ ∃ vm, result = .ok vm) ∧
        (∀ event ∈ events, ¬ event.call.IsTeardown) ∨
      ∃ err before last, result = .error err ∧ events = before ++ [last] ∧
        last.call.IsTeardown ∧ (∀ event ∈ before, ¬ event.call.IsTeardown) ∧
        (∃ event ∈ before, event.call.IsNICCreation) ∧
        ∀ other, Program.Path program (before ++ [⟨last.call, other⟩]) result) := by
  induction program generalizing events with
  | pure value =>
      obtain ⟨rfl, rfl⟩ := Program.path_pure.mp path
      exact ⟨by simp, .inl ⟨.inl (by simp), by simp⟩⟩
  | request call next induction =>
      obtain ⟨permitted, notTeardown, afterNic, beforeRest⟩ := beforeNic
      obtain ⟨answer, rest, rfl, restPath⟩ := Program.path_request.mp path
      have relabel : ∀ {before : List CreateEvent} {last : CreateEvent},
          (∀ other, Program.Path (next answer) (before ++ [⟨last.call, other⟩]) result) →
          ∀ other, Program.Path (.request call next)
            ((⟨call, answer⟩ :: before) ++ [⟨last.call, other⟩]) result :=
        fun others other => Program.path_request.mpr ⟨answer, _, rfl, others other⟩
      by_cases nic : call.IsNICCreation
      · obtain ⟨allowedRest, outcome⟩ := (afterNic nic answer).path restPath
        refine ⟨List.forall_mem_cons.mpr ⟨permitted, allowedRest⟩, ?_⟩
        rcases outcome with ⟨returned, untouched⟩ |
            ⟨err, before, last, failed, rfl, isTeardown, untouched, others⟩
        · exact .inl ⟨.inr returned, List.forall_mem_cons.mpr ⟨notTeardown, untouched⟩⟩
        · exact .inr ⟨err, ⟨call, answer⟩ :: before, last, failed, rfl, isTeardown,
            List.forall_mem_cons.mpr ⟨notTeardown, untouched⟩, ⟨_, List.mem_cons_self _ _, nic⟩,
            relabel others⟩
      · obtain ⟨allowedRest, outcome⟩ := induction answer (beforeRest nic answer) restPath
        refine ⟨List.forall_mem_cons.mpr ⟨permitted, allowedRest⟩, ?_⟩
        rcases outcome with ⟨stopped, untouched⟩ |
            ⟨err, before, last, failed, rfl, isTeardown, untouched, ⟨event, member, nicEvent⟩,
              others⟩
        · refine .inl ⟨?_, List.forall_mem_cons.mpr ⟨notTeardown, untouched⟩⟩
          rcases stopped with noNic | returned
          · exact .inl (List.forall_mem_cons.mpr ⟨nic, noNic⟩)
          · exact .inr returned
        · exact .inr ⟨err, ⟨call, answer⟩ :: before, last, failed, rfl, isTeardown,
            List.forall_mem_cons.mpr ⟨notTeardown, untouched⟩,
            ⟨event, List.mem_cons_of_mem _ member, nicEvent⟩,
            relabel others⟩
  | panic _ => exact absurd path Program.path_panic

section Protocol

variable {providerSpec : AzureProviderSpec} {secret : Option Secret} {vmName : String}

theorem rollBack_rollsBack (err : DriverError) :
    RollsBack (CreateRequest.Derived providerSpec secret vmName)
      (createVMNicDisk.rollBack providerSpec.resourceGroup vmName
        (dependencyNameFromVMName vmName nicSuffix) (dependencyNameFromVMName vmName diskSuffix)
        (if providerSpec.properties.storageProfile.dataDisks ≠ [] then
          some (getAzureDataDiskNames providerSpec.properties.storageProfile.dataDisks vmName
            dataDiskSuffix)
        else none) err) :=
  ⟨⟨rfl, rfl, rfl, rfl, rfl⟩, fun _ => ⟨err, fun _ => rfl⟩,
    fun notTeardown => absurd trivial notTeardown⟩

/-- The image block asks only for the image and the marketplace terms the spec's
URN leads to, sends the terms back marked accepted, and returns no image exactly
when the spec names its image by ID. -/
theorem fetchImage_meets (machineClassName : String) :
    (createVMNicDisk.fetchImage providerSpec machineClassName).Meets
      (fun call => call.Derived providerSpec secret vmName ∧ ¬ call.IsTeardown)
      (fun fetched => ∀ image, fetched = .ok image →
        (image = none ↔ providerSpec.properties.storageProfile.imageReference.id ≠ ""))
      True := by
  unfold createVMNicDisk.fetchImage
  split
  · next unnamed =>
    split
    · next publisher offer sku version urn =>
      refine ⟨⟨⟨rfl, urn⟩, nofun⟩,
        Program.forall_except.mpr ⟨fun _ _ => nofun, fun vmImage => ?_⟩⟩
      have returned : ∀ image, (.ok (some vmImage) : Except DriverError _) = .ok image →
          (image = none ↔ providerSpec.properties.storageProfile.imageReference.id ≠ "") := by
        rintro _ ⟨⟩
        simp [unnamed]
      obtain ⟨_ | ⟨_ | ⟨_ | planName, _ | planProduct, _ | planPublisher⟩⟩⟩ := vmImage <;>
        try exact trivial
      · exact returned
      refine ⟨⟨unnamed, nofun⟩,
        Program.forall_except.mpr ⟨fun _ _ => nofun, fun agreement => ?_⟩⟩
      obtain ⟨_ | agreementProperties⟩ := agreement
      · trivial
      simp only [Program.pure_bind]
      split
      · exact ⟨⟨⟨unnamed, rfl⟩, nofun⟩, Option.forall.mpr ⟨returned, fun _ _ => nofun⟩⟩
      · exact returned
    · trivial
  · next named =>
    rintro image ⟨⟩
    simpa using named

end Protocol

/-- `createVMNicDisk` keeps to the protocol: every request carries what the
creation derives from its inputs, no teardown comes before the NIC request and
every failure after it ends in one teardown, and it panics only after the NIC
request. -/
theorem createVMNicDisk_beforeNic (toLower : String → String) (secret : Option Secret)
    (providerSpec : AzureProviderSpec) (req : CreateMachineRequest) :
    BeforeNic (CreateRequest.Derived providerSpec secret (toLower req.machineName))
      (createVMNicDisk toLower secret (.ok providerSpec) req) := by
  refine .step trivial nofun nofun (Option.forall.mpr ⟨?_, fun _ => trivial⟩)
  refine .step ⟨rfl, rfl, rfl⟩ nofun nofun
    (Program.forall_except.mpr ⟨fun _ => trivial, fun subnet => ?_⟩)
  refine .nic ⟨rfl, rfl, subnet, rfl⟩ nofun trivial
    (Option.forall.mpr ⟨?_, fun _ => rollBack_rollsBack _⟩)
  refine .step trivial nofun (Option.forall.mpr ⟨?_, fun _ => rollBack_rollsBack _⟩)
  refine .step trivial nofun (Option.forall.mpr ⟨trivial,
    Program.forall_except.mpr ⟨fun _ => rollBack_rollsBack _, fun NICID => ?_⟩⟩)
  simp only [Program.pure_bind, Program.bind_eq]
  refine RollsBack.bind (fetchImage_meets _)
    (Program.forall_except.mpr ⟨fun _ _ => rollBack_rollsBack _, fun vmImageRef imageOk => ?_⟩)
  obtain _ | nicID := NICID
  · trivial
  dsimp only
  rcases built : getVMParameters providerSpec secret (toLower req.machineName) vmImageRef nicID
    with _ | VMParameters
  · trivial
  refine .step ⟨rfl, rfl, vmImageRef, nicID, imageOk _ rfl, built⟩ nofun
    (Option.forall.mpr ⟨?_, fun _ => rollBack_rollsBack _⟩)
  refine .step trivial nofun (Option.forall.mpr ⟨?_, fun _ => rollBack_rollsBack _⟩)
  exact .step trivial nofun (Option.forall.mpr ⟨trivial,
    Program.forall_except.mpr ⟨fun _ => rollBack_rollsBack _, fun vm => ⟨vm, rfl⟩⟩⟩)

end AzureProvider
