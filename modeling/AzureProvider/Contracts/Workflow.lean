import AzureProvider.Semantics.Workflow

/-! # The creation runs the workflow

Whatever the clients answer, `createVMNicDisk` runs the provisioning workflow
from its first stage: every path of it is a run of the workflow's automaton that
ends in success exactly when the VM is returned. What the workflow guarantees
then holds of the code: a VM with a plan is requested only after the plan's
marketplace terms were found accepted or were accepted.
-/

namespace AzureProvider

section Refinement

variable {byID : Bool}

theorem rollBack_follows {resourceGroupName vmName nicName diskName : String}
    {dataDiskNames : Option (List String)} {err : DriverError} :
    (createVMNicDisk.rollBack resourceGroupName vmName nicName diskName dataDiskNames
      err).Follows (Step byID) Stage.Returns (fun _ => True) .rollBack :=
  fun answer => ⟨_, .tornDown _ _ _ _ _ answer, trivial⟩

/-- The image block runs the workflow from the NIC's result: it returns the
image with the VM's stage for the plan of its properties, or fails at the
rollback. -/
theorem fetchImage_follows (providerSpec : AzureProviderSpec) (machineClassName : String) :
    let byID := providerSpec.properties.storageProfile.imageReference.id != ""
    (createVMNicDisk.fetchImage providerSpec machineClassName).Follows (Step byID)
      (fun stage fetched =>
        (∀ image, fetched = .ok image → stage = .vm
          ((image.bind VirtualMachineImage.properties).bind VirtualMachineImageProperties.plan)) ∧
        ∀ err, fetched = .error err → stage = .rollBack)
      (fun _ => True) (if byID then .vm none else .image) := by
  intro byID
  unfold createVMNicDisk.fetchImage
  by_cases unnamed : providerSpec.properties.storageProfile.imageReference.id = ""
  case neg =>
    have named : byID = true := by simpa [byID] using unnamed
    rw [if_neg unnamed, named, if_pos rfl]
    exact ⟨fun _ fetched => by cases fetched; rfl, nofun⟩
  have byURN : byID = false := by simp [byID, unnamed]
  rw [if_pos unnamed, byURN, if_neg Bool.false_ne_true]
  split
  · refine Program.forall_except.mpr ⟨fun err => ⟨_, .imageFailed _ _ _ _ _ err, nofun,
      fun _ _ => rfl⟩, fun vmImage => ?_⟩
    obtain ⟨_ | ⟨_ | plan⟩⟩ := vmImage
    · exact ⟨_, .imageWithoutProperties _ _ _ _ _, trivial⟩
    · exact ⟨_, .imageWithoutPlan _ _ _ _ _, fun _ fetched => by cases fetched; rfl, nofun⟩
    obtain ⟨_ | planName, _ | planProduct, _ | planPublisher⟩ := plan <;>
      try exact ⟨_, .planIncomplete _ _ _ _ _ _ (by simp), trivial⟩
    refine ⟨_, .imageWithPlan _ _ _ _ _ planPublisher planProduct planName,
      Program.forall_except.mpr ⟨fun err => ⟨_, .termsFailed _ _ _ err, nofun, fun _ _ => rfl⟩,
        fun agreement => ?_⟩⟩
    obtain ⟨_ | properties⟩ := agreement
    · exact ⟨_, .termsWithoutProperties _ _ _, trivial⟩
    refine ⟨_, .termsRead _ _ _ properties, ?_⟩
    simp only [Program.pure_bind]
    by_cases accepted : properties.accepted = some true
    · rw [if_pos accepted, if_neg (not_not.mpr accepted)]
      exact ⟨fun _ fetched => by cases fetched; rfl, nofun⟩
    · rw [if_neg accepted, if_pos (show properties.accepted ≠ some true from accepted)]
      exact Option.forall.mpr ⟨⟨_, .termsAccepted _ _ _ properties,
        fun _ fetched => by cases fetched; rfl, nofun⟩,
        fun err => ⟨_, .acceptFailed _ _ _ properties err, nofun, fun _ _ => rfl⟩⟩
  · trivial

/-- `createVMNicDisk` runs the workflow: whatever the clients answer, each of
its events is a step of the workflow, and it returns what the stage it ends at
says. -/
theorem createVMNicDisk_follows (toLower : String → String) (secret : Option Secret)
    (providerSpec : AzureProviderSpec) (req : CreateMachineRequest) :
    (createVMNicDisk toLower secret (.ok providerSpec) req).Follows
      (Step (providerSpec.properties.storageProfile.imageReference.id != "")) Stage.Returns
      (fun _ => True) .setup := by
  refine Option.forall.mpr ⟨⟨_, .setUp, ?_⟩, fun err => ⟨_, .setupFailed err, trivial⟩⟩
  refine Program.forall_except.mpr ⟨fun err => ⟨_, .subnetFailed _ _ _ err, trivial⟩,
    fun subnet => ⟨_, .subnetFound _ _ _ subnet, ?_⟩⟩
  refine Option.forall.mpr
    ⟨⟨_, .nicRequested _ _ _, ?_⟩, fun err => ⟨_, .nicRejected _ _ _ err, rollBack_follows⟩⟩
  refine Option.forall.mpr
    ⟨⟨_, .nicCreated, ?_⟩, fun err => ⟨_, .nicWaitFailed err, rollBack_follows⟩⟩
  refine Option.forall.mpr ⟨⟨_, .nicMismatched, trivial⟩, Program.forall_except.mpr
    ⟨fun err => ⟨_, .nicFailed err, rollBack_follows⟩, fun NICID => ⟨_, .nicRead NICID, ?_⟩⟩⟩
  simp only [Program.pure_bind, Program.bind_eq]
  refine Program.Follows.bind (fetchImage_follows _ _)
    fun stage fetched ⟨fetchedImage, failed⟩ => ?_
  cases fetched with
  | error err =>
      rw [failed err rfl]
      exact rollBack_follows
  | ok vmImageRef =>
    rw [fetchedImage vmImageRef rfl]
    obtain _ | nicID := NICID
    · trivial
    dsimp only
    rcases built : getVMParameters providerSpec secret (toLower req.machineName) vmImageRef
      nicID with _ | VMParameters
    · trivial
    · rw [← (getVMParameters_spec built).2.2.2.2.1]
      refine Option.forall.mpr ⟨⟨_, .vmRequested _ _ _, ?_⟩,
        fun err => ⟨_, .vmRejected _ _ _ err, rollBack_follows⟩⟩
      refine Option.forall.mpr
        ⟨⟨_, .vmCreated, ?_⟩, fun err => ⟨_, .vmWaitFailed err, rollBack_follows⟩⟩
      exact Option.forall.mpr ⟨⟨_, .vmMismatched, trivial⟩, Program.forall_except.mpr
        ⟨fun err => ⟨_, .vmFailed err, rollBack_follows⟩, fun vm => ⟨_, .vmRead vm, trivial⟩⟩⟩

end Refinement

unseal String.splitOnAux in
/-- A run of the sample class with its marketplace image: the image has a plan,
its terms are found not accepted and are accepted, and the VM request, the
ninth event, carries the plan and is rejected. -/
theorem sampleURNSpec_marketplace_path :
    ∃ (events : List CreateEvent) (result : Except DriverError VirtualMachine)
      (parameters : VirtualMachine) (answer : Option DriverError) (after : List CreateEvent),
      Program.Path (createVMNicDisk id (some ⟨[]⟩) (.ok sampleURNSpec) ⟨"machine", "class"⟩)
        events result ∧
      events = events.take 8 ++ ⟨.vmCreateOrUpdate "rg" "machine" parameters, answer⟩ :: after ∧
      parameters.plan =
        some ⟨some "18_04-lts-gen2", some "0001-com-ubuntu-server", some "canonical"⟩ :=
  ⟨_, _, _, _, _,
    Program.path_request.mpr ⟨none, _, rfl,
      Program.path_request.mpr ⟨.ok ⟨"subnet-id"⟩, _, rfl,
      Program.path_request.mpr ⟨none, _, rfl,
      Program.path_request.mpr ⟨none, _, rfl,
      Program.path_request.mpr ⟨some (.ok (some "nic-id")), _, rfl,
      Program.path_request.mpr ⟨.ok ⟨some ⟨some
        ⟨some "18_04-lts-gen2", some "0001-com-ubuntu-server", some "canonical"⟩⟩⟩, _, rfl,
      Program.path_request.mpr ⟨.ok ⟨some ⟨some false⟩⟩, _, rfl,
      Program.path_request.mpr ⟨none, _, rfl,
      Program.path_request.mpr ⟨some (.detailed 409 "Conflict"), _, rfl,
      Program.path_request.mpr ⟨none, _, rfl,
        Program.path_pure.mpr ⟨rfl, rfl⟩⟩⟩⟩⟩⟩⟩⟩⟩⟩⟩,
    (List.take_append_drop 8 _).symm, rfl⟩

/-- Every path of `createVMNicDisk` is a complete run of the provisioning
workflow: its events are the workflow's steps in order, from setting up the
clients through the subnet, the NIC, the image and its marketplace terms unless
the spec names an image ID, to the VM, and the run ends in success when the VM
is returned and in failure when an error is. -/
theorem createVMNicDisk_runs_workflow {toLower : String → String} {secret : Option Secret}
    {providerSpec : AzureProviderSpec} {req : CreateMachineRequest} {events : List CreateEvent}
    {result : Except DriverError VirtualMachine}
    (path : Program.Path (createVMNicDisk toLower secret (.ok providerSpec) req) events result) :
    ∃ last, Accepts (Step (providerSpec.properties.storageProfile.imageReference.id != ""))
      .setup events last ∧ last.Returns result :=
  (createVMNicDisk_follows toLower secret providerSpec req).path path

/-- With a marketplace image whose terms are not accepted yet, a creation whose VM
request is rejected runs through every step of the workflow: the subnet, the NIC,
the image, its terms and their acceptance, the VM and the teardown. -/
theorem createVMNicDisk_runs_workflow_marketplace :
    ∃ (events : List CreateEvent) (result : Except DriverError VirtualMachine), Program.Path
      (createVMNicDisk id (some ⟨[]⟩) (.ok sampleURNSpec) ⟨"machine", "class"⟩) events result ∧
      (∃ parameters answer,
        (⟨.vmCreateOrUpdate "rg" "machine" parameters, answer⟩ : CreateEvent) ∈ events) ∧
      ∃ last, Accepts (Step (sampleURNSpec.properties.storageProfile.imageReference.id != ""))
        .setup events last ∧ last.Returns result := by
  obtain ⟨events, result, parameters, answer, after, path, split, -⟩ :=
    sampleURNSpec_marketplace_path
  exact ⟨events, result, path,
    ⟨parameters, answer, split ▸ List.mem_append_right _ (List.mem_cons_self _ _)⟩,
    createVMNicDisk_runs_workflow path⟩

/-- A VM is created with a plan only once the plan's marketplace terms were found
accepted or were accepted: on every path, every VM request whose definition
carries a plan comes after a marketplace request for the plan's three fields that
answered with accepted terms, or after one that accepted them. -/
theorem createVMNicDisk_terms_accepted {toLower : String → String} {secret : Option Secret}
    {providerSpec : AzureProviderSpec} {req : CreateMachineRequest} {events : List CreateEvent}
    {result : Except DriverError VirtualMachine}
    (path : Program.Path (createVMNicDisk toLower secret (.ok providerSpec) req) events result) :
    ∀ before (group name : String) (parameters : VirtualMachine) (answer : Option DriverError)
      after, events = before ++ ⟨.vmCreateOrUpdate group name parameters, answer⟩ :: after →
      ∀ plan, parameters.plan = some plan → TermsAccepted plan before := by
  intro before group name parameters answer after split plan planned
  obtain ⟨_, run, -⟩ := (createVMNicDisk_follows toLower secret providerSpec req).path path
  subst split
  exact Stage.termsAccepted_of_accepts run planned

/-- With a marketplace image whose terms are not accepted yet, the creation
accepts them and then requests the VM with the image's plan. -/
theorem createVMNicDisk_terms_accepted_marketplace :
    ∃ (events : List CreateEvent) (result : Except DriverError VirtualMachine)
      (group name : String) (parameters : VirtualMachine) (answer : Option DriverError)
      (after : List CreateEvent), Program.Path
        (createVMNicDisk id (some ⟨[]⟩) (.ok sampleURNSpec) ⟨"machine", "class"⟩) events result ∧
      events = events.take 8 ++ ⟨.vmCreateOrUpdate group name parameters, answer⟩ :: after ∧
      parameters.plan =
        some ⟨some "18_04-lts-gen2", some "0001-com-ubuntu-server", some "canonical"⟩ ∧
      TermsAccepted ⟨some "18_04-lts-gen2", some "0001-com-ubuntu-server", some "canonical"⟩
        (events.take 8) := by
  obtain ⟨events, result, parameters, answer, after, path, split, planned⟩ :=
    sampleURNSpec_marketplace_path
  exact ⟨events, result, "rg", "machine", parameters, answer, after, path, split, planned,
    createVMNicDisk_terms_accepted path _ _ _ _ _ _ split _ planned⟩

end AzureProvider
