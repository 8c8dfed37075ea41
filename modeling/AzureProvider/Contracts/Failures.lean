import AzureProvider.Contracts.Workflow

/-! # The errors a creation returns

`createVMNicDisk` swallows no failure of a client and invents none: whatever the
clients answer, it returns an error exactly when a request other than the
teardown reported one, and the error it returns is that request's, as it came or
wrapped by `spi.OnARMAPIErrorFail`. The teardown's own error is only logged. One
automaton over the creation's events carries this through the code: its stage is
the request that failed.
-/

namespace AzureProvider

/-- The error of an answer that may fail. -/
def errorOf {α : Type} : Except DriverError α → Option DriverError
  | .error err => some err
  | .ok _ => none

/-- The error a request's answer carries: the `err` the Go code tests. A future's
result read through a client of another type carries none: the type assertion
panics before the result is read. -/
def CreateEvent.failure : CreateEvent → Option DriverError
  | ⟨.setup, answer⟩ => answer
  | ⟨.subnetGet .., answer⟩ => errorOf answer
  | ⟨.nicCreateOrUpdate .., answer⟩ => answer
  | ⟨.nicWaitForCompletion, answer⟩ => answer
  | ⟨.nicResult, answer⟩ => answer.bind errorOf
  | ⟨.imagesGet .., answer⟩ => errorOf answer
  | ⟨.marketplaceGet .., answer⟩ => errorOf answer
  | ⟨.marketplaceCreate .., answer⟩ => answer
  | ⟨.vmCreateOrUpdate .., answer⟩ => answer
  | ⟨.vmWaitForCompletion, answer⟩ => answer
  | ⟨.vmResult, answer⟩ => answer.bind errorOf
  | ⟨.deleteVMNicDisks .., answer⟩ => answer

/-- The automaton that remembers the request that failed: a request other than
the teardown whose answer carries an error becomes the stage, and every other
event keeps the stage. -/
inductive Recording : Option CreateEvent → CreateEvent → Option CreateEvent → Prop
  | failed {stage : Option CreateEvent} {event : CreateEvent} {cause : DriverError}
      (client : ¬ event.call.IsTeardown) (reported : event.failure = some cause) :
      Recording stage event (some event)
  | passed {stage : Option CreateEvent} {event : CreateEvent}
      (clean : event.failure = none ∨ event.call.IsTeardown) : Recording stage event stage

/-- What may be returned from a stage: a value while no request has failed, and
once one has, an error that is that request's, as it came or wrapped by
`spi.OnARMAPIErrorFail`. -/
def Surfaced {α : Type} : Option CreateEvent → Except DriverError α → Prop
  | none, .ok _ => True
  | some failed, .error err => ∃ cause, failed.failure = some cause ∧
      (err = cause ∨ ∃ service message, err = onARMAPIErrorFail service cause message)
  | _, _ => False

/-- The stage is a request of the run, not the teardown, and is empty only while
no such request has reported an error. -/
def Recorded (stage : Option CreateEvent) (history : List CreateEvent) : Prop :=
  (∀ failed, stage = some failed → failed ∈ history ∧ ¬ failed.call.IsTeardown) ∧
  (stage = none → ∀ event ∈ history, ¬ event.call.IsTeardown → event.failure = none)

theorem Recorded.step {stage next : Option CreateEvent} {event : CreateEvent}
    {history : List CreateEvent} (recorded : Recorded stage history)
    (stepped : Recording stage event next) : Recorded next (history ++ [event]) := by
  cases stepped with
  | failed client _ =>
      exact ⟨fun _ same => by cases same; exact ⟨by simp, client⟩, nofun⟩
  | passed clean =>
      refine ⟨fun failed same => ?_, fun empty earlier member client => ?_⟩
      · obtain ⟨member, client⟩ := recorded.1 failed same
        exact ⟨List.mem_append_left _ member, client⟩
      · rcases List.mem_append.mp member with before | last
        · exact recorded.2 empty earlier before client
        · cases List.mem_singleton.mp last
          exact clean.resolve_right client

/-! ## The creation keeps its failures -/

section Failures

theorem rollBack_surfaces {resourceGroupName vmName nicName diskName : String}
    {dataDiskNames : Option (List String)} {failed : Option CreateEvent} {err : DriverError}
    (surfaced : Surfaced failed (.error err : Except DriverError VirtualMachine)) :
    (createVMNicDisk.rollBack resourceGroupName vmName nicName diskName dataDiskNames
      err).Follows Recording Surfaced (fun _ => True) failed :=
  fun _ => ⟨_, .passed (.inr trivial), surfaced⟩

/-- The image block returns the image while no request has failed, and the
failed request's error, wrapped, once one has. -/
theorem fetchImage_surfaces (providerSpec : AzureProviderSpec) (machineClassName : String) :
    (createVMNicDisk.fetchImage providerSpec machineClassName).Follows Recording Surfaced
      (fun _ => True) none := by
  unfold createVMNicDisk.fetchImage
  by_cases unnamed : providerSpec.properties.storageProfile.imageReference.id = ""
  case neg =>
    rw [if_neg unnamed]
    trivial
  rw [if_pos unnamed]
  split
  · refine Program.forall_except.mpr ⟨fun err => ⟨_, .failed nofun rfl, _, rfl, .inr ⟨_, _, rfl⟩⟩,
      fun vmImage => ⟨_, .passed (.inl rfl), ?_⟩⟩
    obtain ⟨_ | ⟨_ | ⟨_ | planName, _ | planProduct, _ | planPublisher⟩⟩⟩ := vmImage <;>
      try trivial
    refine Program.forall_except.mpr ⟨fun err => ⟨_, .failed nofun rfl, _, rfl, .inr ⟨_, _, rfl⟩⟩,
      fun agreement => ⟨_, .passed (.inl rfl), ?_⟩⟩
    obtain ⟨_ | agreementProperties⟩ := agreement
    · trivial
    simp only [Program.pure_bind]
    by_cases accepted : agreementProperties.accepted = some true
    · rw [if_neg (not_not.mpr accepted)]
      trivial
    · rw [if_pos (show agreementProperties.accepted ≠ some true from accepted)]
      exact Option.forall.mpr ⟨⟨_, .passed (.inl rfl), trivial⟩,
        fun err => ⟨_, .failed nofun rfl, _, rfl, .inr ⟨_, _, rfl⟩⟩⟩
  · trivial

/-- `createVMNicDisk` keeps the failure it meets: whatever the clients answer, it
returns the VM while no request has failed, and the failed request's error, as
it came or wrapped, once one has. -/
theorem createVMNicDisk_surfaces (toLower : String → String) (secret : Option Secret)
    (providerSpec : AzureProviderSpec) (req : CreateMachineRequest) :
    (createVMNicDisk toLower secret (.ok providerSpec) req).Follows Recording Surfaced
      (fun _ => True) none := by
  refine Option.forall.mpr
    ⟨⟨_, .passed (.inl rfl), ?_⟩, fun err => ⟨_, .failed nofun rfl, _, rfl, .inl rfl⟩⟩
  refine Program.forall_except.mpr ⟨fun err => ⟨_, .failed nofun rfl, _, rfl, .inr ⟨_, _, rfl⟩⟩,
    fun subnet => ⟨_, .passed (.inl rfl), ?_⟩⟩
  refine Option.forall.mpr ⟨⟨_, .passed (.inl rfl), ?_⟩,
    fun err => ⟨_, .failed nofun rfl, rollBack_surfaces ⟨_, rfl, .inr ⟨_, _, rfl⟩⟩⟩⟩
  refine Option.forall.mpr ⟨⟨_, .passed (.inl rfl), ?_⟩,
    fun err => ⟨_, .failed nofun rfl, rollBack_surfaces ⟨_, rfl, .inr ⟨_, _, rfl⟩⟩⟩⟩
  refine Option.forall.mpr ⟨⟨_, .passed (.inl rfl), trivial⟩, Program.forall_except.mpr
    ⟨fun err => ⟨_, .failed nofun rfl, rollBack_surfaces ⟨_, rfl, .inl rfl⟩⟩,
      fun NICID => ⟨_, .passed (.inl rfl), ?_⟩⟩⟩
  simp only [Program.pure_bind, Program.bind_eq]
  refine Program.Follows.bind (fetchImage_surfaces _ _) fun stage fetched surfaced => ?_
  cases stage with
  | some failed =>
      cases fetched with
      | error err => exact rollBack_surfaces surfaced
      | ok _ => cases surfaced
  | none =>
    cases fetched with
    | error err => cases surfaced
    | ok vmImageRef =>
    obtain _ | nicID := NICID
    · trivial
    dsimp only
    rcases getVMParameters providerSpec secret (toLower req.machineName) vmImageRef nicID
      with _ | VMParameters
    · trivial
    refine Option.forall.mpr ⟨⟨_, .passed (.inl rfl), ?_⟩,
      fun err => ⟨_, .failed nofun rfl, rollBack_surfaces ⟨_, rfl, .inr ⟨_, _, rfl⟩⟩⟩⟩
    refine Option.forall.mpr ⟨⟨_, .passed (.inl rfl), ?_⟩,
      fun err => ⟨_, .failed nofun rfl, rollBack_surfaces ⟨_, rfl, .inr ⟨_, _, rfl⟩⟩⟩⟩
    exact Option.forall.mpr ⟨⟨_, .passed (.inl rfl), trivial⟩, Program.forall_except.mpr
      ⟨fun err => ⟨_, .failed nofun rfl, rollBack_surfaces ⟨_, rfl, .inr ⟨_, _, rfl⟩⟩⟩,
        fun _ => ⟨_, .passed (.inl rfl), trivial⟩⟩⟩

/-- Whatever the clients answer, a creation returns an error exactly when a
request other than the teardown reported one, and the error it returns is such a
request's, as it came or wrapped by `spi.OnARMAPIErrorFail`: no failure is
swallowed or invented, and the teardown's error is never the one returned. -/
theorem createVMNicDisk_fails_iff {toLower : String → String} {secret : Option Secret}
    {providerSpec : AzureProviderSpec} {req : CreateMachineRequest} {events : List CreateEvent}
    {result : Except DriverError VirtualMachine}
    (path : Program.Path (createVMNicDisk toLower secret (.ok providerSpec) req) events result) :
    ((∃ err, result = .error err) ↔
      ∃ event ∈ events, ¬ event.call.IsTeardown ∧ event.failure.isSome) ∧
    ∀ err, result = .error err → ∃ event ∈ events, ∃ cause,
      ¬ event.call.IsTeardown ∧ event.failure = some cause ∧
      (err = cause ∨ ∃ service message, err = onARMAPIErrorFail service cause message) := by
  obtain ⟨last, run, surfaced⟩ :=
    (createVMNicDisk_surfaces toLower secret providerSpec req).path path
  have recorded : Recorded last ([] ++ events) :=
    run.invariant Recorded (fun _ _ _ _ recorded stepped => recorded.step stepped)
      ⟨fun _ empty => absurd empty.symm (Option.some_ne_none _),
        fun _ _ member => absurd member (List.not_mem_nil _)⟩
  rw [List.nil_append] at recorded
  cases last with
  | none =>
      cases result with
      | error err => cases surfaced
      | ok vm =>
          refine ⟨⟨fun ⟨_, failed⟩ => (nomatch failed),
            fun ⟨event, member, client, failing⟩ => ?_⟩, fun _ failed => nomatch failed⟩
          rw [recorded.2 rfl event member client] at failing
          cases failing
  | some failed =>
      cases result with
      | ok vm => cases surfaced
      | error err =>
          obtain ⟨cause, reported, wrapped⟩ := surfaced
          obtain ⟨member, client⟩ := recorded.1 failed rfl
          refine ⟨⟨fun _ => ⟨failed, member, client, by rw [reported]; rfl⟩, fun _ => ⟨err, rfl⟩⟩,
            ?_⟩
          rintro _ ⟨⟩
          exact ⟨failed, member, cause, client, reported, wrapped⟩

/-- A NIC request that fails is followed by a teardown that fails too, and the
creation returns the NIC's error. -/
theorem createVMNicDisk_fails_iff_nicRejected :
    ∃ (events : List CreateEvent) (result : Except DriverError VirtualMachine), Program.Path
      (createVMNicDisk id (some ⟨[]⟩) (.ok sampleProviderSpec) ⟨"machine", "class"⟩) events result ∧
      (⟨.deleteVMNicDisks "rg" "machine" "machine-nic" "machine-os-disk" none,
        some (.formatted "teardown failed")⟩ : CreateEvent) ∈ events ∧
      ((∃ err, result = .error err) ↔
        ∃ event ∈ events, ¬ event.call.IsTeardown ∧ event.failure.isSome) ∧
      ∀ err, result = .error err → ∃ event ∈ events, ∃ cause,
        ¬ event.call.IsTeardown ∧ event.failure = some cause ∧
        (err = cause ∨ ∃ service message, err = onARMAPIErrorFail service cause message) := by
  have path : Program.Path
      (createVMNicDisk id (some ⟨[]⟩) (.ok sampleProviderSpec) ⟨"machine", "class"⟩) _ _ :=
    Program.path_request.mpr ⟨none, _, rfl,
      Program.path_request.mpr ⟨.ok ⟨"subnet-id"⟩, _, rfl,
      Program.path_request.mpr ⟨some (.detailed 500 "InternalServerError"), _, rfl,
      Program.path_request.mpr ⟨some (.formatted "teardown failed"), _, rfl,
        Program.path_pure.mpr ⟨rfl, rfl⟩⟩⟩⟩⟩
  exact ⟨_, _, path, .tail _ (.tail _ (.tail _ (.head _))), createVMNicDisk_fails_iff path⟩

end Failures

end AzureProvider
