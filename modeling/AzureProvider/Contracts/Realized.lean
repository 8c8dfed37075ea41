import AzureProvider.Driver.Create

/-! # What a creation builds from what it read

`createVMNicDisk` builds each resource from an earlier answer: the NIC on the
subnet that `Subnet.Get` returned, and the VM with the ID that the NIC's result
returned and with the plan of the image that `VirtualMachineImagesClient.Get`
returned. It panics only on what it read or was given: an answer without a
pointer it dereferences, or read through a client of another type than it
asserts; an image reference `getImageReference` cannot build; or a plugin
without a secret. An automaton whose stage is the history of events checks each
request, and each panic, against the events before it.
-/

namespace AzureProvider

/-- Whether the Go code reads an answer without a runtime panic: a future's
result read through a client of the type it asserts, the NIC with its ID, an
image and an agreement with their embedded properties, and an image's plan with
its three fields. -/
def CreateEvent.wellFormed : CreateEvent → Bool
  | ⟨.nicResult, none⟩ => false
  | ⟨.nicResult, some (.ok none)⟩ => false
  | ⟨.imagesGet .., .ok ⟨none⟩⟩ => false
  | ⟨.imagesGet .., .ok ⟨some ⟨some plan⟩⟩⟩ =>
      plan.publisher.isSome && plan.product.isSome && plan.name.isSome
  | ⟨.marketplaceGet .., .ok ⟨none⟩⟩ => false
  | ⟨.vmResult, none⟩ => false
  | _ => true

/-- What a panic of the creation is traced to, given the events so far: an answer
the code cannot read, an image reference `getImageReference` cannot build, or a
plugin without a secret. -/
def PanicCause (providerSpec : AzureProviderSpec) (secret : Option Secret)
    (history : List CreateEvent) : Prop :=
  (∃ event ∈ history, event.wellFormed = false) ∨ getImageReference providerSpec = none ∨
    secret = none

theorem PanicCause.of_last {providerSpec : AzureProviderSpec} {secret : Option Secret}
    {history : List CreateEvent} {event : CreateEvent} (unreadable : event.wellFormed = false) :
    PanicCause providerSpec secret (history ++ [event]) :=
  .inl ⟨event, List.mem_append_right _ (List.mem_singleton_self _), unreadable⟩

/-- What a request may carry, given the events before it: the NIC is requested
on a subnet an earlier lookup returned, and the VM references the NIC ID an
earlier result returned and carries only the plan of an image an earlier lookup
returned. -/
def Realized (providerSpec : AzureProviderSpec) (vmName : String) (history : List CreateEvent) :
    CreateRequest → Prop
  | .nicCreateOrUpdate _ _ parameters => ∃ vnetResourceGroup vnetName subnetName subnet,
      (⟨.subnetGet vnetResourceGroup vnetName subnetName, .ok subnet⟩ : CreateEvent) ∈ history ∧
      parameters = getNICParameters providerSpec vmName subnet
  | .vmCreateOrUpdate _ _ parameters =>
      (∃ nicID, (⟨.nicResult, some (.ok (some nicID))⟩ : CreateEvent) ∈ history ∧
        parameters.networkInterfaces = [⟨nicID, true⟩]) ∧
      ∀ plan, parameters.plan = some plan → ∃ location publisher offer sku version image,
        (⟨.imagesGet location publisher offer sku version, .ok image⟩ : CreateEvent) ∈ history ∧
        image.properties = some ⟨some plan⟩
  | _ => True

/-- The automaton whose stage is the history: each event is appended to it, and
its request must be `Realized` from the events before it. -/
def Feeds (providerSpec : AzureProviderSpec) (vmName : String) (history : List CreateEvent)
    (event : CreateEvent) (next : List CreateEvent) : Prop :=
  next = history ++ [event] ∧ Realized providerSpec vmName history event.call

/-- A run of `Feeds` ends at the history it started from followed by its events. -/
theorem Feeds.history_eq {providerSpec : AzureProviderSpec} {vmName : String}
    {history events last : List CreateEvent}
    (run : Accepts (Feeds providerSpec vmName) history events last) : last = history ++ events :=
  run.invariant (fun stage events => stage = events)
    (fun _ _ _ _ same stepped => stepped.1.trans (congrArg (· ++ _) same)) rfl

/-- A run of `Feeds` checks each of its requests against the history before it. -/
theorem Feeds.realized {providerSpec : AzureProviderSpec} {vmName : String}
    {history last before after : List CreateEvent} {event : CreateEvent}
    (run : Accepts (Feeds providerSpec vmName) history (before ++ event :: after) last) :
    Realized providerSpec vmName (history ++ before) event.call := by
  obtain ⟨middle, toEvent, fromEvent⟩ := run.split
  cases fromEvent with
  | cons stepped _ => exact Feeds.history_eq toEvent ▸ stepped.2

section Creation

variable {providerSpec : AzureProviderSpec} {secret : Option Secret} {vmName : String}
  {α : Type} {post : List CreateEvent → α → Prop} {panics : List CreateEvent → Prop}

theorem request_feeds {call : CreateRequest} {next : call.Response → CreateProgram α}
    {history : List CreateEvent} (realized : Realized providerSpec vmName history call)
    (rest : ∀ answer, (next answer).Follows (Feeds providerSpec vmName) post panics
      (history ++ [⟨call, answer⟩])) :
    (Program.request call next).Follows (Feeds providerSpec vmName) post panics history :=
  fun answer => ⟨_, ⟨rfl, realized⟩, rest answer⟩

theorem rollBack_feeds {resourceGroupName nicName diskName : String}
    {dataDiskNames : Option (List String)} {err : DriverError} {history : List CreateEvent} :
    (createVMNicDisk.rollBack resourceGroupName vmName nicName diskName dataDiskNames
      err).Follows (Feeds providerSpec vmName) (fun _ _ => True) panics history :=
  request_feeds trivial fun _ => trivial

/-- The image block only appends to the history, an image it returns is one that
a lookup of the history returned, and it panics only on an answer it cannot read
or where `getImageReference` does. -/
theorem fetchImage_feeds (machineClassName : String) (history : List CreateEvent) :
    (createVMNicDisk.fetchImage providerSpec machineClassName).Follows
      (Feeds providerSpec vmName)
      (fun after fetched => (∃ extra, after = history ++ extra) ∧
        ∀ image, fetched = .ok (some image) → ∃ location publisher offer sku version,
          (⟨.imagesGet location publisher offer sku version, .ok image⟩ : CreateEvent) ∈ after)
      (PanicCause providerSpec secret) history := by
  unfold createVMNicDisk.fetchImage
  by_cases unnamed : providerSpec.properties.storageProfile.imageReference.id = ""
  case neg =>
    rw [if_neg unnamed]
    exact ⟨⟨[], (List.append_nil _).symm⟩, fun _ fetched => by cases fetched⟩
  rw [if_pos unnamed]
  split
  next publisher offer sku version _ =>
    refine request_feeds trivial (Program.forall_except.mpr
      ⟨fun _ => ⟨⟨_, rfl⟩, fun _ fetched => by cases fetched⟩, fun vmImage => ?_⟩)
    have found : ∀ extra, (⟨.imagesGet providerSpec.location publisher offer sku version,
        .ok vmImage⟩ : CreateEvent) ∈ history ++ [⟨.imagesGet providerSpec.location publisher
          offer sku version, .ok vmImage⟩] ++ extra :=
      fun _ => List.mem_append_left _ (List.mem_append_right _ (List.mem_singleton_self _))
    obtain ⟨_ | ⟨_ | ⟨_ | planName, _ | planProduct, _ | planPublisher⟩⟩⟩ := vmImage <;>
      try exact PanicCause.of_last rfl
    · exact ⟨⟨_, rfl⟩, fun _ fetched => by cases fetched; exact ⟨_, _, _, _, _,
        List.mem_append_right _ (List.mem_singleton_self _)⟩⟩
    refine request_feeds trivial (Program.forall_except.mpr
      ⟨fun _ => ⟨⟨_, List.append_assoc _ _ _⟩, fun _ fetched => by cases fetched⟩,
        fun agreement => ?_⟩)
    obtain ⟨_ | agreementProperties⟩ := agreement
    · exact PanicCause.of_last rfl
    simp only [Program.pure_bind]
    by_cases accepted : agreementProperties.accepted = some true
    · rw [if_neg (not_not.mpr accepted)]
      exact ⟨⟨_, List.append_assoc _ _ _⟩, fun _ fetched => by
        cases fetched; exact ⟨_, _, _, _, _, found _⟩⟩
    · rw [if_pos (show agreementProperties.accepted ≠ some true from accepted)]
      have grown : ∀ {a b c : CreateEvent}, history ++ [a] ++ [b] ++ [c] = history ++ [a, b, c] :=
        (List.append_assoc _ _ _).trans (List.append_assoc _ _ _)
      refine request_feeds trivial (Option.forall.mpr ⟨?_, fun _ =>
        ⟨⟨_, grown⟩, fun _ fetched => by cases fetched⟩⟩)
      exact ⟨⟨_, grown⟩, fun _ fetched => by
        cases fetched; exact ⟨_, _, _, _, _, List.mem_append_left _ (found _)⟩⟩
  next notURN =>
    rcases getImageReference_cases providerSpec with
      ⟨named, -⟩ | ⟨-, malformed | ⟨publisher, offer, sku, version, urn⟩⟩
    · exact absurd unnamed named
    · exact .inr (.inl malformed)
    · exact absurd urn (notURN publisher offer sku version)

/-- Where `getVMParameters` panics on an image the image block returned, the
panic is traced to the inputs or to the image's answer. -/
theorem PanicCause.of_getVMParameters {vmName nicID : String} {history : List CreateEvent}
    {image : Option VirtualMachineImage}
    (looked : ∀ returned, image = some returned → ∃ location publisher offer sku version,
      (⟨.imagesGet location publisher offer sku version, .ok returned⟩ : CreateEvent) ∈ history)
    (panicked : getVMParameters providerSpec secret vmName image nicID = none) :
    PanicCause providerSpec secret history := by
  have missing := getVMParameters_isSome providerSpec secret vmName image nicID
  rw [panicked] at missing
  rcases secret with _ | _
  · exact .inr (.inr rfl)
  rcases reference : getImageReference providerSpec with _ | _
  · exact .inr (.inl reference)
  rw [reference] at missing
  rcases image with _ | ⟨_ | _⟩
  · cases missing
  · obtain ⟨_, _, _, _, _, member⟩ := looked _ rfl
    exact .inl ⟨_, member, rfl⟩
  · cases missing

/-- `createVMNicDisk` builds the NIC from the subnet it looked up and the VM from
the NIC ID and the image it got back, and it panics only where an answer, the
spec's image reference or the plugin's secret is missing something it reads. -/
theorem createVMNicDisk_feeds (toLower : String → String) (secret : Option Secret)
    (providerSpec : AzureProviderSpec) (req : CreateMachineRequest) :
    (createVMNicDisk toLower secret (.ok providerSpec) req).Follows
      (Feeds providerSpec (toLower req.machineName)) (fun _ _ => True)
      (PanicCause providerSpec secret) [] := by
  refine request_feeds trivial (Option.forall.mpr ⟨?_, fun _ => trivial⟩)
  refine request_feeds trivial (Program.forall_except.mpr ⟨fun _ => trivial, fun subnet => ?_⟩)
  refine request_feeds ⟨_, _, _, subnet, List.mem_append_right _ (List.mem_singleton_self _), rfl⟩
    (Option.forall.mpr ⟨?_, fun _ => rollBack_feeds⟩)
  refine request_feeds trivial (Option.forall.mpr ⟨?_, fun _ => rollBack_feeds⟩)
  refine request_feeds trivial (Option.forall.mpr ⟨PanicCause.of_last rfl,
    Program.forall_except.mpr ⟨fun _ => rollBack_feeds, fun NICID => ?_⟩⟩)
  simp only [Program.pure_bind, Program.bind_eq]
  refine Program.Follows.bind (fetchImage_feeds _ _) fun stage fetched ⟨⟨_, grown⟩, looked⟩ => ?_
  subst grown
  cases fetched with
  | error err => exact rollBack_feeds
  | ok vmImageRef =>
  obtain _ | nicID := NICID
  · exact .inl ⟨_, List.mem_append_left _ (List.mem_append_right _ (List.mem_singleton_self _)),
      rfl⟩
  dsimp only
  rcases built : getVMParameters providerSpec secret (toLower req.machineName) vmImageRef nicID
    with _ | VMParameters
  · exact PanicCause.of_getVMParameters (fun returned => looked returned ∘ congrArg _) built
  refine request_feeds ⟨⟨nicID,
    List.mem_append_left _ (List.mem_append_right _ (List.mem_singleton_self _)),
    getVMParameters_networkInterfaces built⟩, fun plan planned => ?_⟩
    (Option.forall.mpr ⟨?_, fun _ => rollBack_feeds⟩)
  · obtain ⟨-, -, -, -, fromImage, -⟩ := getVMParameters_spec built
    rw [planned] at fromImage
    obtain ⟨properties, fromProperties, propertiesPlan⟩ := Option.bind_eq_some.mp fromImage.symm
    obtain ⟨image, rfl, imageProperties⟩ := Option.bind_eq_some.mp fromProperties
    obtain ⟨_, _, _, _, _, member⟩ := looked image rfl
    refine ⟨_, _, _, _, _, image, member, ?_⟩
    rw [imageProperties, ← propertiesPlan]
  refine request_feeds trivial (Option.forall.mpr ⟨?_, fun _ => rollBack_feeds⟩)
  exact request_feeds trivial (Option.forall.mpr ⟨PanicCause.of_last rfl,
    Program.forall_except.mpr ⟨fun _ => rollBack_feeds, fun _ => trivial⟩⟩)

/-- Whatever the clients answer, each request of a creation is built from the
answers before it: the NIC from a subnet that `Subnet.Get` returned, and the VM
with a NIC ID that the NIC's result returned as its primary NIC and only with the
plan of an image that `VirtualMachineImagesClient.Get` returned. -/
theorem createVMNicDisk_uses_answers {toLower : String → String} {secret : Option Secret}
    {providerSpec : AzureProviderSpec} {req : CreateMachineRequest} {events : List CreateEvent}
    {result : Except DriverError VirtualMachine}
    (path : Program.Path (createVMNicDisk toLower secret (.ok providerSpec) req) events result)
    (before : List CreateEvent) (event : CreateEvent) (after : List CreateEvent)
    (split : events = before ++ event :: after) :
    Realized providerSpec (toLower req.machineName) before event.call := by
  obtain ⟨_, run, -⟩ := (createVMNicDisk_feeds toLower secret providerSpec req).path path
  subst split
  simpa only [List.nil_append] using Feeds.realized run

/-- A creation whose VM request is rejected: the VM request references the NIC ID
that the NIC's result returned. -/
theorem createVMNicDisk_uses_answers_vmRejected :
    ∃ (events : List CreateEvent) (result : Except DriverError VirtualMachine)
      (event : CreateEvent) (after : List CreateEvent), Program.Path
      (createVMNicDisk id (some ⟨[]⟩) (.ok sampleProviderSpec) ⟨"machine", "class"⟩) events
      result ∧
      events = events.take 5 ++ event :: after ∧
      (∃ parameters answer, event = ⟨.vmCreateOrUpdate "rg" "machine" parameters, answer⟩) ∧
      Realized sampleProviderSpec "machine" (events.take 5) event.call := by
  have path : Program.Path
      (createVMNicDisk id (some ⟨[]⟩) (.ok sampleProviderSpec) ⟨"machine", "class"⟩) _ _ :=
    Program.path_request.mpr ⟨none, _, rfl,
      Program.path_request.mpr ⟨.ok ⟨"subnet-id"⟩, _, rfl,
      Program.path_request.mpr ⟨none, _, rfl,
      Program.path_request.mpr ⟨none, _, rfl,
      Program.path_request.mpr ⟨some (.ok (some "nic-id")), _, rfl,
      Program.path_request.mpr ⟨some (.detailed 409 "Conflict"), _, rfl,
      Program.path_request.mpr ⟨none, _, rfl,
        Program.path_pure.mpr ⟨rfl, rfl⟩⟩⟩⟩⟩⟩⟩⟩
  exact ⟨_, _, _, _, path, (List.take_append_drop 5 _).symm, ⟨_, _, rfl⟩,
    createVMNicDisk_uses_answers path _ _ _ (List.take_append_drop 5 _).symm⟩

end Creation

/-! ## Panics -/

end AzureProvider
