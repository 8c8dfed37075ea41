import AzureProvider.Driver.Create

/-! # The provisioning workflow

What `createVMNicDisk` is for, in the order the spec gives: set up the clients,
resolve the subnet, create the NIC, wait for it and read it; unless the spec
names its image by ID, get the image and, if it has a plan, get the plan's
marketplace terms and accept them if they are not accepted yet; then create the
VM with the image's plan, wait for it and read it. A failure before the NIC
request ends the creation, and one after it is followed by one teardown. An
answer without a pointer the code dereferences, or read through a client of
another type than the code asserts, ends it in a runtime panic.

The workflow is an automaton over the creation's events. What it guarantees is
proved here once, by an invariant over its runs: a VM with a plan is requested
only after the plan's terms were found accepted or were accepted.
-/

namespace AzureProvider

/-- Modelled from the spec: where the provisioning workflow is, named by what it
does next. -/
inductive Stage where
  | setup
  | subnet
  | nic
  | nicWait
  | nicResult
  | image
  | terms (publisher product name : String)
  | accept (publisher product name : String) (properties : AgreementProperties)
  | vm (plan : Option Plan)
  | vmWait
  | vmResult
  | rollBack
  | succeeded
  | failed
  | panicked
  deriving DecidableEq, Repr

/-- Modelled from the spec: the steps of the workflow. `byID` says whether the
spec names its image by ID; the marketplace requests are for the three fields of
the image's plan, and the VM is requested with that plan. -/
inductive Step (byID : Bool) : Stage → CreateEvent → Stage → Prop
  | setupFailed (err : DriverError) : Step byID .setup ⟨.setup, some err⟩ .failed
  | setUp : Step byID .setup ⟨.setup, none⟩ .subnet
  | subnetFailed (vnetResourceGroup vnetName subnetName : String) (err : DriverError) :
      Step byID .subnet ⟨.subnetGet vnetResourceGroup vnetName subnetName, .error err⟩ .failed
  | subnetFound (vnetResourceGroup vnetName subnetName : String) (subnet : Subnet) :
      Step byID .subnet ⟨.subnetGet vnetResourceGroup vnetName subnetName, .ok subnet⟩ .nic
  | nicRejected (resourceGroupName nicName : String) (parameters : Interface) (err : DriverError) :
      Step byID .nic ⟨.nicCreateOrUpdate resourceGroupName nicName parameters, some err⟩ .rollBack
  | nicRequested (resourceGroupName nicName : String) (parameters : Interface) :
      Step byID .nic ⟨.nicCreateOrUpdate resourceGroupName nicName parameters, none⟩ .nicWait
  | nicWaitFailed (err : DriverError) :
      Step byID .nicWait ⟨.nicWaitForCompletion, some err⟩ .rollBack
  | nicCreated : Step byID .nicWait ⟨.nicWaitForCompletion, none⟩ .nicResult
  | nicMismatched : Step byID .nicResult ⟨.nicResult, none⟩ .panicked
  | nicFailed (err : DriverError) : Step byID .nicResult ⟨.nicResult, some (.error err)⟩ .rollBack
  | nicRead (nicID : Option String) :
      Step byID .nicResult ⟨.nicResult, some (.ok nicID)⟩ (if byID then .vm none else .image)
  | imageFailed (location publisher offer sku version : String) (err : DriverError) :
      Step byID .image ⟨.imagesGet location publisher offer sku version, .error err⟩ .rollBack
  | imageWithoutProperties (location publisher offer sku version : String) :
      Step byID .image ⟨.imagesGet location publisher offer sku version, .ok ⟨none⟩⟩ .panicked
  | imageWithoutPlan (location publisher offer sku version : String) :
      Step byID .image ⟨.imagesGet location publisher offer sku version, .ok ⟨some ⟨none⟩⟩⟩
        (.vm none)
  | imageWithPlan (location publisher offer sku version : String)
      (planPublisher planProduct planName : String) :
      Step byID .image ⟨.imagesGet location publisher offer sku version,
        .ok ⟨some ⟨some ⟨some planName, some planProduct, some planPublisher⟩⟩⟩⟩
        (.terms planPublisher planProduct planName)
  | planIncomplete (location publisher offer sku version : String) (plan : Plan)
      (incomplete : plan.publisher = none ∨ plan.product = none ∨ plan.name = none) :
      Step byID .image ⟨.imagesGet location publisher offer sku version, .ok ⟨some ⟨some plan⟩⟩⟩
        .panicked
  | termsFailed (publisher product name : String) (err : DriverError) :
      Step byID (.terms publisher product name) ⟨.marketplaceGet publisher product name, .error err⟩
        .rollBack
  | termsWithoutProperties (publisher product name : String) :
      Step byID (.terms publisher product name) ⟨.marketplaceGet publisher product name, .ok ⟨none⟩⟩
        .panicked
  | termsRead (publisher product name : String) (properties : AgreementProperties) :
      Step byID (.terms publisher product name)
        ⟨.marketplaceGet publisher product name, .ok ⟨some properties⟩⟩
        (if properties.accepted = some true then
          .vm (some ⟨some name, some product, some publisher⟩)
        else .accept publisher product name properties)
  | acceptFailed (publisher product name : String) (properties : AgreementProperties)
      (err : DriverError) :
      Step byID (.accept publisher product name properties) ⟨.marketplaceCreate publisher product
        name ⟨some { properties with accepted := some true }⟩, some err⟩ .rollBack
  | termsAccepted (publisher product name : String) (properties : AgreementProperties) :
      Step byID (.accept publisher product name properties) ⟨.marketplaceCreate publisher product
        name ⟨some { properties with accepted := some true }⟩, none⟩
        (.vm (some ⟨some name, some product, some publisher⟩))
  | vmRejected (resourceGroupName vmName : String) (parameters : VirtualMachine)
      (err : DriverError) :
      Step byID (.vm parameters.plan) ⟨.vmCreateOrUpdate resourceGroupName vmName parameters,
        some err⟩ .rollBack
  | vmRequested (resourceGroupName vmName : String) (parameters : VirtualMachine) :
      Step byID (.vm parameters.plan) ⟨.vmCreateOrUpdate resourceGroupName vmName parameters,
        none⟩ .vmWait
  | vmWaitFailed (err : DriverError) : Step byID .vmWait ⟨.vmWaitForCompletion, some err⟩ .rollBack
  | vmCreated : Step byID .vmWait ⟨.vmWaitForCompletion, none⟩ .vmResult
  | vmMismatched : Step byID .vmResult ⟨.vmResult, none⟩ .panicked
  | vmFailed (err : DriverError) : Step byID .vmResult ⟨.vmResult, some (.error err)⟩ .rollBack
  | vmRead (vm : VirtualMachine) : Step byID .vmResult ⟨.vmResult, some (.ok vm)⟩ .succeeded
  | tornDown (resourceGroupName VMName nicName diskName : String)
      (dataDiskNames : Option (List String)) (answer : Option DriverError) :
      Step byID .rollBack
        ⟨.deleteVMNicDisks resourceGroupName VMName nicName diskName dataDiskNames, answer⟩ .failed

/-- Modelled from the spec: the plan's three fields are set, and the marketplace
terms for them were found accepted, or were accepted, among `events`. -/
def TermsAccepted (plan : Plan) (events : List CreateEvent) : Prop :=
  ∃ publisher product name properties, plan = ⟨some name, some product, some publisher⟩ ∧
    (⟨.marketplaceGet publisher product name, .ok ⟨some properties⟩⟩ : CreateEvent) ∈ events ∧
    (properties.accepted = some true ∨
      (⟨.marketplaceCreate publisher product name ⟨some { properties with accepted := some true }⟩,
        none⟩ : CreateEvent) ∈ events)

namespace Stage

/-- Modelled from the spec: the workflow returns the VM when it succeeded and an
error when it failed. -/
def Returns : Stage → Except DriverError VirtualMachine → Prop
  | .succeeded, .ok _ => True
  | .failed, .error _ => True
  | _, _ => False

/-- Only a workflow that succeeded returns a VM. -/
theorem eq_succeeded_of_returns {stage : Stage} {vm : VirtualMachine}
    (returns : stage.Returns (.ok vm)) : stage = .succeeded := by
  cases stage <;> first | rfl | cases returns

/-- What the workflow has done by the time it reaches a stage: about to accept a
plan's terms, it has read them; about to request a VM with a plan, the plan's
terms are accepted. -/
def Cleared : Stage → List CreateEvent → Prop
  | .accept publisher product name properties, history =>
      ⟨.marketplaceGet publisher product name, .ok ⟨some properties⟩⟩ ∈ history
  | .vm (some plan), history => TermsAccepted plan history
  | _, _ => True

variable {byID : Bool}

theorem Cleared.step {stage next : Stage} {event : CreateEvent} {history : List CreateEvent}
    (cleared : stage.Cleared history) (stepped : Step byID stage event next) :
    next.Cleared (history ++ [event]) := by
  cases stepped with
  | nicRead => cases byID <;> trivial
  | termsRead publisher product name properties =>
      split
      · exact ⟨publisher, product, name, properties, rfl, by simp, .inl ‹_›⟩
      · exact List.mem_append_right _ (List.mem_singleton_self _)
  | termsAccepted publisher product name properties =>
      exact ⟨publisher, product, name, properties, rfl, List.mem_append_left _ cleared,
        .inr (by simp)⟩
  | _ => trivial

/-- In every run of the workflow, a VM with a plan is requested only after the
plan's terms were found accepted or were accepted. -/
theorem termsAccepted_of_accepts {before after : List CreateEvent} {group name : String}
    {parameters : VirtualMachine} {answer : Option DriverError} {last : Stage} {plan : Plan}
    (run : Accepts (Step byID) .setup
      (before ++ ⟨.vmCreateOrUpdate group name parameters, answer⟩ :: after) last)
    (planned : parameters.plan = some plan) : TermsAccepted plan before := by
  obtain ⟨middle, toVM, fromVM⟩ := run.split
  have cleared : middle.Cleared ([] ++ before) :=
    toVM.invariant Cleared (fun _ _ _ _ cleared stepped => cleared.step stepped) trivial
  cases fromVM with
  | cons stepped _ =>
      cases stepped <;> rw [planned, List.nil_append] at cleared <;> exact cleared

/-- The stages after the NIC's creation has been requested without error. -/
def pastNic : Stage → Bool
  | .setup | .subnet | .nic | .rollBack | .failed => false
  | _ => true

/-- The stages after the VM's creation has been requested without error. -/
def pastVM : Stage → Bool
  | .vmWait | .vmResult | .succeeded => true
  | _ => false

/-- Past the NIC's creation the workflow has had a NIC request answered without
error, and past the VM's creation a VM request too. -/
def Created (stage : Stage) (history : List CreateEvent) : Prop :=
  (stage.pastNic → ∃ group name parameters,
    (⟨.nicCreateOrUpdate group name parameters, none⟩ : CreateEvent) ∈ history) ∧
  (stage.pastVM → ∃ group name parameters,
    (⟨.vmCreateOrUpdate group name parameters, none⟩ : CreateEvent) ∈ history)

theorem Created.step {stage next : Stage} {event : CreateEvent} {history : List CreateEvent}
    (created : stage.Created history) (stepped : Step byID stage event next) :
    next.Created (history ++ [event]) := by
  have carryNic : stage.pastNic → ∃ group name parameters,
      (⟨.nicCreateOrUpdate group name parameters, none⟩ : CreateEvent) ∈ history ++ [event] :=
    fun past => let ⟨group, name, parameters, member⟩ := created.1 past
      ⟨group, name, parameters, List.mem_append_left _ member⟩
  have carryVM : stage.pastVM → ∃ group name parameters,
      (⟨.vmCreateOrUpdate group name parameters, none⟩ : CreateEvent) ∈ history ++ [event] :=
    fun past => let ⟨group, name, parameters, member⟩ := created.2 past
      ⟨group, name, parameters, List.mem_append_left _ member⟩
  cases stepped with
  | nicRequested group name parameters =>
      exact ⟨fun _ => ⟨group, name, parameters, by simp⟩, nofun⟩
  | vmRequested group name parameters =>
      exact ⟨fun _ => carryNic rfl, fun _ => ⟨group, name, parameters, by simp⟩⟩
  | nicRead => cases byID <;> exact ⟨fun _ => carryNic rfl, nofun⟩
  | termsRead => split <;> exact ⟨fun _ => carryNic rfl, nofun⟩
  | vmCreated | vmRead =>
      exact ⟨fun _ => carryNic rfl, fun _ => carryVM rfl⟩
  | nicCreated | imageWithoutPlan | imageWithPlan | termsAccepted | nicMismatched
  | imageWithoutProperties | planIncomplete | termsWithoutProperties | vmMismatched =>
      exact ⟨fun _ => carryNic rfl, nofun⟩
  | setupFailed | setUp | subnetFailed | subnetFound | nicRejected | nicWaitFailed | nicFailed
  | imageFailed | termsFailed | acceptFailed | vmRejected | vmWaitFailed | vmFailed | tornDown =>
      exact ⟨nofun, nofun⟩

/-- A run of the workflow that succeeds requested a NIC and a VM, and both
requests were answered without error. -/
theorem created_of_accepts {events : List CreateEvent}
    (run : Accepts (Step byID) .setup events .succeeded) :
    (∃ group name parameters,
      (⟨.nicCreateOrUpdate group name parameters, none⟩ : CreateEvent) ∈ events) ∧
    ∃ group name parameters,
      (⟨.vmCreateOrUpdate group name parameters, none⟩ : CreateEvent) ∈ events := by
  have created : Stage.succeeded.Created ([] ++ events) :=
    run.invariant Created (fun _ _ _ _ created stepped => created.step stepped) ⟨nofun, nofun⟩
  rw [List.nil_append] at created
  exact ⟨created.1 rfl, created.2 rfl⟩

/-- The stages of the workflow before it requests the NIC. -/
def Early : Stage → Prop
  | .setup | .subnet | .nic | .failed => True
  | _ => False

/-- Until it requests the NIC, the workflow only sets up its clients and reads the
subnet. -/
theorem Early.step {stage next : Stage} {event : CreateEvent} (early : stage.Early)
    (stepped : Step byID stage event next) (noNic : ¬ event.call.IsNICCreation) :
    (event.call = .setup ∨ ∃ vnetResourceGroup vnetName subnetName,
      event.call = .subnetGet vnetResourceGroup vnetName subnetName) ∧ next.Early := by
  cases stepped with
  | setupFailed | setUp => exact ⟨.inl rfl, trivial⟩
  | subnetFailed | subnetFound => exact ⟨.inr ⟨_, _, _, rfl⟩, trivial⟩
  | nicRejected | nicRequested => exact absurd trivial noNic
  | _ => cases early

end Stage

end AzureProvider
