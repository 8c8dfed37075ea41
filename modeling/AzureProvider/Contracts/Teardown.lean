import AzureProvider.Driver.Teardown

/-! # The teardown against the backend's contracts

Answered as `Backend.responds` allows, a teardown that returns `nil` leaves the
backend without its VM, NIC and disks and with everything else, and a second
teardown on what is left returns `nil` again and changes nothing. The fan-out is
followed deleter by deleter: each one is at one of a few stages, and every step
of any deleter removes at most that deleter's own target. Whatever the clients
answer, the teardown returns `nil` exactly when no answer was fatal; a failed
wait for the data disks to detach is passed over.
-/

namespace AzureProvider

open TeardownRequest (issue)

/-- What one deleter of the fan-out deletes. -/
inductive Target where
  | nic (id : ResourceId)
  | disk (id : ResourceId)
  deriving DecidableEq, Repr

namespace Target

def deleter : Target → TeardownProgram (Option DriverError)
  | .nic id => nicDeleter id.resourceGroup id.name
  | .disk id => diskDeleter id.resourceGroup id.name

def Gone : Target → Backend → Prop
  | .nic id, backend => id ∉ backend.networkInterfaces
  | .disk id, backend => id ∉ backend.disks

def remove : Target → Backend → Backend
  | .nic id, backend => backend.removeNetworkInterface id
  | .disk id, backend => backend.removeDisk id

/-- Where a deleter can be: not started, the NIC deleter about to delete its
NIC, or returned, with its target gone if it returned `nil`. -/
def Stage (target : Target) (backend : Backend) (thread : TeardownProgram (Option DriverError)) :
    Prop :=
  thread = target.deleter ∨
    (∃ id, target = .nic id ∧ thread = issue (.deleteNIC id.resourceGroup id.name)) ∨
    ∃ value, thread = .pure value ∧ (value = none → target.Gone backend)

instance : ∀ (target : Target) (backend : Backend), Decidable (target.Gone backend)
  | .nic id, backend => inferInstanceAs (Decidable (id ∉ backend.networkInterfaces))
  | .disk id, backend => inferInstanceAs (Decidable (id ∉ backend.disks))

/-- No VM holds the target. -/
def Free : Target → Backend → Prop
  | .nic id, backend => ¬ backend.NetworkInterfaceAttached id
  | .disk id, backend => ¬ backend.DiskAttached id

instance : ∀ (target : Target) (backend : Backend), Decidable (target.Free backend)
  | .nic id, backend => inferInstanceAs (Decidable (¬ backend.NetworkInterfaceAttached id))
  | .disk id, backend => inferInstanceAs (Decidable (¬ backend.DiskAttached id))

theorem remove_virtualMachines (target : Target) (backend : Backend) :
    (target.remove backend).virtualMachines = backend.virtualMachines := by
  cases target <;> rfl

theorem Free.of_virtualMachines {target : Target} {before after : Backend}
    (free : target.Free before) (same : after.virtualMachines = before.virtualMachines) :
    target.Free after := by
  cases target <;>
    simpa only [Free, Backend.NetworkInterfaceAttached, Backend.DiskAttached, same] using free

theorem deleter_ne_pure (target : Target) (value : Option DriverError) :
    target.deleter ≠ .pure value := by
  cases target <;> rintro ⟨⟩

end Target

/-- The targets of `deleteVMNicDisks`'s fan-out, in the order of its deleters. -/
def fanOutTargets (resourceGroupName nicName diskName : String)
    (dataDiskNames : Option (List String)) : List Target :=
  .nic ⟨resourceGroupName, nicName⟩ ::
    (diskName :: dataDiskNames.getD []).map fun name => .disk ⟨resourceGroupName, name⟩

theorem deleters_eq_map (resourceGroupName nicName diskName : String)
    (dataDiskNames : Option (List String)) :
    deleteVMNicDisks.deleters resourceGroupName nicName diskName dataDiskNames =
      (fanOutTargets resourceGroupName nicName diskName dataDiskNames).map Target.deleter := by
  cases dataDiskNames <;>
    simp [deleteVMNicDisks.deleters, fanOutTargets, Target.deleter, Function.comp_def]

/-! ## What the backend loses -/

/-- `after` is `before` with some of the targets gone and nothing else changed. -/
structure Backend.Trimmed (targets : List Target) (before after : Backend) : Prop where
  virtualMachines : after.virtualMachines = before.virtualMachines
  networkInterfaces_subset : after.networkInterfaces ⊆ before.networkInterfaces
  disks_subset : after.disks ⊆ before.disks
  networkInterfaces_kept :
    ∀ id ∈ before.networkInterfaces, .nic id ∉ targets → id ∈ after.networkInterfaces
  disks_kept : ∀ id ∈ before.disks, .disk id ∉ targets → id ∈ after.disks

namespace Backend.Trimmed

variable {targets : List Target}

theorem refl (backend : Backend) : Trimmed targets backend backend :=
  ⟨rfl, fun _ => id, fun _ => id, fun _ member _ => member, fun _ member _ => member⟩

theorem trans {first second third : Backend} (trimmed : Trimmed targets first second)
    (next : Trimmed targets second third) : Trimmed targets first third :=
  ⟨next.virtualMachines.trans trimmed.virtualMachines,
    next.networkInterfaces_subset.trans trimmed.networkInterfaces_subset,
    next.disks_subset.trans trimmed.disks_subset,
    fun id member other => next.networkInterfaces_kept id
      (trimmed.networkInterfaces_kept id member other) other,
    fun id member other => next.disks_kept id (trimmed.disks_kept id member other) other⟩

theorem remove {target : Target} (targeted : target ∈ targets) (backend : Backend) :
    Trimmed targets backend (target.remove backend) := by
  cases target with
  | nic removed =>
      refine ⟨rfl, fun _ member => (List.mem_filter.mp member).1, fun _ => id,
        fun id member other => ?_, fun _ member _ => member⟩
      have : id ≠ removed := by rintro rfl; exact other targeted
      simp [Backend.removeNetworkInterface, Target.remove, member, this]
  | disk removed =>
      refine ⟨rfl, fun _ => id, fun _ member => (List.mem_filter.mp member).1,
        fun _ member _ => member, fun id member other => ?_⟩
      have : id ≠ removed := by rintro rfl; exact other targeted
      simp [Backend.removeDisk, Target.remove, member, this]

end Backend.Trimmed

theorem Target.Gone.of_trimmed {target : Target} {targets : List Target} {before after : Backend}
    (gone : target.Gone before) (trimmed : Backend.Trimmed targets before after) :
    target.Gone after := by
  cases target with
  | nic id => exact fun member => gone (trimmed.networkInterfaces_subset member)
  | disk id => exact fun member => gone (trimmed.disks_subset member)

theorem Target.Stage.of_trimmed {target : Target} {targets : List Target} {before after : Backend}
    {thread : TeardownProgram (Option DriverError)} (stage : target.Stage before thread)
    (trimmed : Backend.Trimmed targets before after) : target.Stage after thread := by
  rcases stage with started | waiting | ⟨value, rfl, gone⟩
  · exact .inl started
  · exact .inr (.inl waiting)
  · exact .inr (.inr ⟨value, rfl, fun succeeded => (gone succeeded).of_trimmed trimmed⟩)

/-! ## One step of a deleter -/

/-- A step of a deleter takes it to its next stage, and the backend loses at most
that deleter's target. -/
theorem Target.Stage.step {target : Target} {backend after : Backend} {call : TeardownRequest}
    {next : TeardownRequest.Response call → TeardownProgram (Option DriverError)}
    {answer : TeardownRequest.Response call} (stage : target.Stage backend (.request call next))
    (responded : Backend.responds call backend answer after) :
    target.Stage after (next answer) ∧ (after = backend ∨ after = target.remove backend) := by
  rcases stage with started | ⟨id, rfl, waiting⟩ | ⟨value, stopped, -⟩
  case inl =>
    cases target with
    | nic id =>
        obtain ⟨resourceGroupName, nicName⟩ := id
        cases started
        obtain ⟨rfl, reported⟩ := responded
        refine ⟨?_, .inl rfl⟩
        cases answer with
        | error err =>
            refine .inr (.inr ⟨_, rfl, fun succeeded => ?_⟩)
            by_cases missing : notFound err = true
            · exact reported.mp missing
            · simp [missing] at succeeded
        | ok vmHoldingNic =>
            by_cases free : vmHoldingNic = ""
            · subst free
              exact .inr (.inl ⟨_, rfl, by simp⟩)
            · exact .inr (.inr ⟨_, if_pos free, nofun⟩)
    | disk id =>
        obtain ⟨resourceGroupName, diskName⟩ := id
        cases started
        have stopped : ∀ after, (answer = none → (Target.disk _).Gone after) →
            (Target.disk ⟨resourceGroupName, diskName⟩).Stage after (.pure answer) :=
          fun _ gone => .inr (.inr ⟨answer, rfl, gone⟩)
        simp only [Backend.responds] at responded
        split_ifs at responded with present attached
        · obtain ⟨failed, rfl⟩ := responded
          exact ⟨stopped _ fun succeeded => by simp [succeeded] at failed, .inl rfl⟩
        · rcases responded with rfl | ⟨failed, rfl⟩
          · exact ⟨stopped _ fun _ => by simp [Target.Gone, Backend.removeDisk], .inr rfl⟩
          · exact ⟨stopped _ fun succeeded => by simp [succeeded] at failed, .inl rfl⟩
        · obtain ⟨rfl, rfl⟩ := responded
          exact ⟨stopped _ fun _ => present, .inl rfl⟩
  case inr.inl =>
    obtain ⟨resourceGroupName, nicName⟩ := id
    cases waiting
    refine ⟨.inr (.inr ⟨answer, rfl, fun succeeded => ?_⟩), ?_⟩ <;>
      rcases responded with rfl | ⟨nonempty, rfl⟩ <;>
      simp_all [Target.Gone, Target.remove, Backend.removeNetworkInterface]
  case inr.inr => cases stopped

/-- Once its target is gone, a deleter returns `nil` at its first step and
changes nothing. -/
theorem Target.step_of_gone {target : Target} {backend after : Backend} {call : TeardownRequest}
    {next : TeardownRequest.Response call → TeardownProgram (Option DriverError)}
    {answer : TeardownRequest.Response call} (gone : target.Gone backend)
    (started : .request call next = target.deleter)
    (responded : Backend.responds call backend answer after) :
    next answer = .pure none ∧ after = backend := by
  cases target with
  | nic id =>
      obtain ⟨resourceGroupName, nicName⟩ := id
      cases started
      obtain ⟨rfl, reported⟩ := responded
      cases answer with
      | error err => simp [reported.mpr gone]
      | ok vmHoldingNic => exact absurd reported.1 gone
  | disk id =>
      obtain ⟨resourceGroupName, diskName⟩ := id
      cases started
      have absent : (⟨resourceGroupName, diskName⟩ : ResourceId) ∉ backend.disks := gone
      simp only [Backend.responds, absent, not_false_eq_true, if_true] at responded
      obtain ⟨rfl, rfl⟩ := responded
      exact ⟨rfl, rfl⟩

/-! ## The fan-out -/

/-- Setting one slot of a list keeps a slotwise relation to another list. -/
private theorem slotwise_set {β γ : Type} {related : β → γ → Prop} {targets : List β}
    {threads : List γ} {index : Nat} {target : β} {thread : γ}
    (slotwise : ∀ (i : Nat) b c, targets[i]? = some b → threads[i]? = some c → related b c)
    (targeted : targets[index]? = some target) (updated : related target thread) :
    ∀ (i : Nat) b c, targets[i]? = some b → (threads.set index thread)[i]? = some c →
      related b c := by
  intro i b c atTarget atThread
  by_cases same : index = i
  · subst same
    rw [targeted, Option.some.injEq] at atTarget
    rw [List.getElem?_set, if_pos rfl] at atThread
    split_ifs at atThread
    cases atTarget
    cases atThread
    exact updated
  · rw [List.getElem?_set_ne same] at atThread
    exact slotwise i b c atTarget atThread

private theorem slot_of_length {β γ : Type} {targets : List β} {threads : List γ} {index : Nat}
    {thread : γ} (sameLength : threads.length = targets.length)
    (found : threads[index]? = some thread) : ∃ target, targets[index]? = some target :=
  ⟨_, List.getElem?_eq_getElem (sameLength ▸ (List.getElem?_eq_some_iff.mp found).1)⟩

/-- The fan-out's invariant: the backend has lost only targets, and each deleter
is at one of its stages. -/
def FanOut (targets : List Target) (base : Backend)
    (threads : List (TeardownProgram (Option DriverError))) (backend : Backend) : Prop :=
  Backend.Trimmed targets base backend ∧ threads.length = targets.length ∧
    ∀ (index : Nat) target thread, targets[index]? = some target → threads[index]? = some thread →
      target.Stage backend thread

theorem FanOut.step {targets : List Target} {base backend after : Backend}
    {threads : List (TeardownProgram (Option DriverError))} {index : Nat} {call : TeardownRequest}
    {next : TeardownRequest.Response call → TeardownProgram (Option DriverError)}
    {answer : TeardownRequest.Response call} (fanOut : FanOut targets base threads backend)
    (found : threads[index]? = some (.request call next))
    (responded : Backend.responds call backend answer after) :
    FanOut targets base (threads.set index (next answer)) after := by
  obtain ⟨trimmed, sameLength, stages⟩ := fanOut
  obtain ⟨target, targeted⟩ := slot_of_length sameLength found
  obtain ⟨stage, removed⟩ := (stages index target _ targeted found).step responded
  have trimmedStep : Backend.Trimmed targets backend after := by
    rcases removed with rfl | rfl
    · exact .refl _
    · exact .remove (List.getElem?_mem targeted) _
  exact ⟨trimmed.trans trimmedStep, by simpa using sameLength,
    slotwise_set (fun i b c atTarget atThread => (stages i b c atTarget atThread).of_trimmed
      trimmedStep) targeted stage⟩

/-- In every interleaving of the deleters in which all of them return `nil`,
every target is removed and nothing else is. -/
theorem fanOut_removes {targets : List Target} {base final : Backend}
    {events : List TeardownEvent} {results : List (Option DriverError)}
    (parallel : Parallel Backend.responds (targets.map Target.deleter) base events results final)
    (succeeded : runInParallel results = none) :
    Backend.Trimmed targets base final ∧ ∀ target ∈ targets, target.Gone final := by
  obtain ⟨trimmed, sameLength, stages⟩ := parallel.invariant (FanOut targets base)
    (fun _ _ _ _ _ _ _ holds found responded => holds.step found responded)
    ⟨.refl base, by simp, fun index target thread targeted found => .inl (by
      simpa [targeted, eq_comm] using found)⟩
  refine ⟨trimmed, fun target targeted => ?_⟩
  obtain ⟨index, within, rfl⟩ := List.getElem_of_mem targeted
  have resulted : index < results.length := by
    have : results.length = targets.length := by simpa using sameLength
    omega
  rcases stages index _ (.pure results[index]) (List.getElem?_eq_getElem within)
    (by simp [resulted])
    with started | ⟨_, _, waiting⟩ | ⟨value, stopped, gone⟩
  · exact absurd started.symm (Target.deleter_ne_pure _ _)
  · cases waiting
  · cases stopped
    exact gone (runInParallel_eq_none.mp succeeded _ (List.getElem_mem resulted))

/-- Once every target is gone, the deleters keep the backend as it is and all
return `nil`. -/
def Settled (targets : List Target) (final : Backend)
    (threads : List (TeardownProgram (Option DriverError))) (backend : Backend) : Prop :=
  backend = final ∧ threads.length = targets.length ∧
    ∀ (index : Nat) target thread, targets[index]? = some target → threads[index]? = some thread →
      thread = target.deleter ∨ thread = .pure none

theorem Settled.step {targets : List Target} {final backend after : Backend}
    {threads : List (TeardownProgram (Option DriverError))} {index : Nat} {call : TeardownRequest}
    {next : TeardownRequest.Response call → TeardownProgram (Option DriverError)}
    {answer : TeardownRequest.Response call} (gone : ∀ target ∈ targets, target.Gone final)
    (settled : Settled targets final threads backend)
    (found : threads[index]? = some (.request call next))
    (responded : Backend.responds call backend answer after) :
    Settled targets final (threads.set index (next answer)) after := by
  obtain ⟨rfl, sameLength, stages⟩ := settled
  obtain ⟨target, targeted⟩ := slot_of_length sameLength found
  rcases stages index target _ targeted found with started | stopped
  · obtain ⟨returned, rfl⟩ :=
      Target.step_of_gone (gone target (List.getElem?_mem targeted)) started responded
    exact ⟨rfl, by simpa using sameLength, slotwise_set stages targeted (.inr returned)⟩
  · cases stopped

theorem fanOut_settled {targets : List Target} {final after : Backend}
    {events : List TeardownEvent} {results : List (Option DriverError)}
    (gone : ∀ target ∈ targets, target.Gone final)
    (parallel : Parallel Backend.responds (targets.map Target.deleter) final events results after) :
    runInParallel results = none ∧ after = final := by
  obtain ⟨rfl, sameLength, stages⟩ := parallel.invariant (Settled targets final)
    (fun _ _ _ _ _ _ _ holds found responded => holds.step gone found responded)
    ⟨rfl, by simp, fun index target thread targeted found => .inl (by
      simpa [targeted, eq_comm] using found)⟩
  refine ⟨runInParallel_eq_none.mpr fun result member => ?_, rfl⟩
  obtain ⟨index, within, rfl⟩ := List.getElem_of_mem member
  have targetedWithin : index < targets.length := by
    have : results.length = targets.length := by simpa using sameLength
    omega
  rcases stages index _ (.pure results[index]) (List.getElem?_eq_getElem targetedWithin)
    (by simp [within]) with started | stopped
  · exact absurd started.symm (Target.deleter_ne_pure _ _)
  · exact Program.pure.inj stopped

/-- A deleter whose target is gone can return `nil` at once. -/
theorem Target.runs_of_gone {target : Target} {backend : Backend} (gone : target.Gone backend) :
    ∃ events, Program.Runs Backend.responds target.deleter backend events none backend := by
  cases target with
  | nic id =>
      exact ⟨_, .request (show Backend.responds (.fetchAttachedVMfromNIC id.resourceGroup id.name)
        backend (.error (.detailed 404 "")) backend from ⟨rfl, iff_of_true rfl gone⟩)
        (.pure none backend)⟩
  | disk id =>
      have absent : (⟨id.resourceGroup, id.name⟩ : ResourceId) ∉ backend.disks := gone
      exact ⟨_, .request (show Backend.responds (.deleteDisk id.resourceGroup id.name) backend none
        backend by simp [Backend.responds, absent]) (.pure none backend)⟩

theorem fanOut_runs_of_gone {targets : List Target} {backend : Backend}
    (gone : ∀ target ∈ targets, target.Gone backend) :
    ∃ events, Parallel Backend.responds (targets.map Target.deleter) backend events
      (targets.map fun _ => none) backend := by
  induction targets with
  | nil => exact ⟨[], .done [] backend⟩
  | cons target targets induction =>
      obtain ⟨own, first⟩ := Target.runs_of_gone (gone target (List.mem_cons_self _ _))
      obtain ⟨events, rest⟩ :=
        induction fun other member => gone other (List.mem_cons_of_mem _ member)
      exact ⟨own ++ events, Parallel.cons first rest⟩

/-- A deleter whose target no VM holds can remove it and return `nil`. -/
theorem Target.runs_of_free {target : Target} {backend : Backend} (free : target.Free backend) :
    ∃ events, Program.Runs Backend.responds target.deleter backend events none
      (target.remove backend) := by
  cases target with
  | nic id =>
      by_cases present : id ∈ backend.networkInterfaces
      · exact ⟨_, .request (show Backend.responds (.fetchAttachedVMfromNIC id.resourceGroup id.name)
          backend (.ok "") backend from ⟨rfl, present, iff_of_true rfl free⟩)
          (.request (show Backend.responds (.deleteNIC id.resourceGroup id.name) backend none
            (backend.removeNetworkInterface id) from .inl rfl) (.pure none _))⟩
      · rw [Target.remove, Backend.removeNetworkInterface_of_absent present]
        exact Target.runs_of_gone (show Target.Gone (.nic id) backend from present)
  | disk id =>
      by_cases present : id ∈ backend.disks
      · have free : ¬ backend.DiskAttached id := free
        exact ⟨_, .request (show Backend.responds (.deleteDisk id.resourceGroup id.name) backend
          none (backend.removeDisk id) by simp [Backend.responds, present, free])
          (.pure none _)⟩
      · rw [Target.remove, Backend.removeDisk_of_absent present]
        exact Target.runs_of_gone (show Target.Gone (.disk id) backend from present)

theorem fanOut_runs_of_free {targets : List Target} {backend : Backend}
    (free : ∀ target ∈ targets, target.Free backend) :
    ∃ events, Parallel Backend.responds (targets.map Target.deleter) backend events
      (targets.map fun _ => none)
      (targets.foldl (fun backend target => target.remove backend) backend) := by
  induction targets generalizing backend with
  | nil => exact ⟨[], .done [] backend⟩
  | cons target targets induction =>
      obtain ⟨own, first⟩ := Target.runs_of_free (free target (List.mem_cons_self _ _))
      obtain ⟨events, rest⟩ := induction fun other member =>
        (free other (List.mem_cons_of_mem _ member)).of_virtualMachines
          (target.remove_virtualMachines backend)
      exact ⟨own ++ events, Parallel.cons first rest⟩

/-- Every deleter can run to its end from any backend: a NIC that a VM holds is
reported as held, and a disk that one holds fails to delete. -/
theorem Target.runs (target : Target) (backend : Backend) :
    ∃ events value after,
      Program.Runs Backend.responds target.deleter backend events value after := by
  by_cases gone : target.Gone backend
  · obtain ⟨events, run⟩ := Target.runs_of_gone gone
    exact ⟨events, none, backend, run⟩
  by_cases free : target.Free backend
  · obtain ⟨events, run⟩ := Target.runs_of_free free
    exact ⟨events, none, _, run⟩
  cases target with
  | nic id =>
      exact ⟨_, _, _, .request
        (show Backend.responds (.fetchAttachedVMfromNIC id.resourceGroup id.name) backend
          (.ok "holder") backend from ⟨rfl, not_not.mp gone, iff_of_false nofun free⟩)
        (.pure _ _)⟩
  | disk id =>
      have present : (⟨id.resourceGroup, id.name⟩ : ResourceId) ∈ backend.disks := not_not.mp gone
      have attached : backend.DiskAttached ⟨id.resourceGroup, id.name⟩ := not_not.mp free
      exact ⟨_, _, _, .request
        (show Backend.responds (.deleteDisk id.resourceGroup id.name) backend
          (some (.formatted "disk is attached")) backend by
          simp [Backend.responds, present, attached])
        (.pure _ _)⟩

theorem fanOut_runs (targets : List Target) (backend : Backend) :
    ∃ events values final,
      Parallel Backend.responds (targets.map Target.deleter) backend events values final := by
  induction targets generalizing backend with
  | nil => exact ⟨[], [], backend, .done [] backend⟩
  | cons target targets induction =>
      obtain ⟨own, value, middle, first⟩ := target.runs backend
      obtain ⟨events, values, final, rest⟩ := induction middle
      exact ⟨own ++ events, value :: values, final, Parallel.cons first rest⟩

/-! ## The teardown -/

section Teardown

variable {resourceGroupName VMName nicName diskName : String} {dataDiskNames : Option (List String)}

/-- Under the contracts, the teardown fails before its fan-out only while the VM
exists, and without touching a NIC; it reaches its fan-out with the VM gone and
nothing else changed. -/
theorem deleteVMNicDisks_prelude {backend middle : Backend} {events : List TeardownEvent}
    {teardown : Teardown}
    (prelude : Program.Runs Backend.responds
      (deleteVMNicDisks resourceGroupName VMName nicName diskName dataDiskNames)
      backend events teardown middle) :
    (∃ err, teardown = .failed err) ∧ backend.HasVirtualMachine ⟨resourceGroupName, VMName⟩ ∧
      middle.networkInterfaces = backend.networkInterfaces ∨
    teardown = .runInParallel
        (deleteVMNicDisks.deleters resourceGroupName nicName diskName dataDiskNames) ∧
      middle = backend.removeVirtualMachine ⟨resourceGroupName, VMName⟩ := by
  simp only [deleteVMNicDisks, TeardownRequest.issue_eq, Program.issue_bind,
    Program.runs_request] at prelude
  obtain ⟨answer, _, _, rfl, ⟨rfl, reported⟩, prelude⟩ := prelude
  cases answer with
  | error err =>
      dsimp only at prelude reported
      by_cases missing : notFound err = true
      · simp only [missing, if_true, Program.pure_eq, Program.runs_pure] at prelude
        obtain ⟨rfl, rfl, rfl⟩ := prelude
        exact .inr ⟨rfl, (Backend.removeVirtualMachine_of_absent (reported.mp missing)).symm⟩
      · simp only [missing, Bool.false_eq_true, if_false, Program.pure_eq,
          Program.runs_pure] at prelude
        obtain ⟨rfl, rfl, rfl⟩ := prelude
        exact .inl ⟨⟨_, rfl⟩, not_not.mp (mt reported.mpr missing), rfl⟩
  | ok vm =>
      obtain ⟨found, identified⟩ := reported
      simp only [Program.runs_request] at prelude
      obtain ⟨_, _, _, rfl, detached, deleted, _, _, rfl, removed, prelude⟩ := prelude
      cases deleted with
      | some deleteErr =>
          obtain ⟨rfl, rfl, rfl⟩ := Program.runs_pure.mp prelude
          refine .inl ⟨⟨_, rfl⟩, ⟨vm, found, identified⟩, ?_⟩
          rcases removed with rfl | ⟨-, rfl⟩ <;> rcases detached with rfl | rfl <;> rfl
      | none =>
          obtain ⟨rfl, rfl, rfl⟩ := Program.runs_pure.mp prelude
          refine .inr ⟨rfl, ?_⟩
          rcases removed with rfl | ⟨⟨⟩, -⟩
          rcases detached with rfl | rfl
          · rfl
          · rw [identified, Backend.removeVirtualMachine_detachDataDisks]

/-- A teardown that returns `nil` removes the VM, the NIC and the disks it names,
and nothing else. -/
theorem deleteVMNicDisks_removes {backend final : Backend} {events : List TeardownEvent}
    (run : Teardown.Runs Backend.responds
      (deleteVMNicDisks resourceGroupName VMName nicName diskName dataDiskNames)
      backend events none final) :
    (∀ vm, vm ∈ final.virtualMachines ↔
      vm ∈ backend.virtualMachines ∧ vm.id ≠ ⟨resourceGroupName, VMName⟩) ∧
    (∀ nic, nic ∈ final.networkInterfaces ↔
      nic ∈ backend.networkInterfaces ∧ nic ≠ ⟨resourceGroupName, nicName⟩) ∧
    (∀ disk, disk ∈ final.disks ↔ disk ∈ backend.disks ∧
      ∀ name ∈ diskName :: dataDiskNames.getD [], disk ≠ ⟨resourceGroupName, name⟩) := by
  rcases deleteVMNicDisks_runs run with
    ⟨_, failing, -⟩ | ⟨_, _, _, results, -, succeeded, preludeRun, parallel⟩
  · cases failing
  rcases deleteVMNicDisks_prelude preludeRun with ⟨⟨_, failing⟩, -⟩ | ⟨-, rfl⟩
  · cases failing
  rw [deleters_eq_map] at parallel
  obtain ⟨trimmed, gone⟩ := fanOut_removes parallel succeeded.symm
  refine ⟨fun vm => ?_, fun nic => ⟨fun member => ⟨trimmed.networkInterfaces_subset member,
    fun same => gone (.nic nic) (by simp [fanOutTargets, same]) member⟩,
    fun ⟨member, other⟩ => trimmed.networkInterfaces_kept nic member
      (by simp [fanOutTargets, other])⟩, fun disk => ⟨fun member => ⟨trimmed.disks_subset member,
    fun name named same => gone (.disk disk) ?_ member⟩,
    fun ⟨member, other⟩ => trimmed.disks_kept disk member ?_⟩⟩
  · simp [trimmed.virtualMachines, Backend.removeVirtualMachine]
  · subst same
    exact List.mem_cons_of_mem _ (List.mem_map_of_mem _ named)
  · intro targeted
    rcases List.mem_cons.mp targeted with wrongKind | mapped
    · cases wrongKind
    · obtain ⟨name, named, same⟩ := List.mem_map.mp mapped
      exact other name named (Target.disk.inj same).symm

/-- From any backend the teardown can reach its fan-out, with the VM gone. -/
theorem deleteVMNicDisks_prelude_runs (backend : Backend) :
    ∃ events, Program.Runs Backend.responds
      (deleteVMNicDisks resourceGroupName VMName nicName diskName dataDiskNames) backend events
      (.runInParallel (deleteVMNicDisks.deleters resourceGroupName nicName diskName dataDiskNames))
      (backend.removeVirtualMachine ⟨resourceGroupName, VMName⟩) := by
  by_cases present : backend.HasVirtualMachine ⟨resourceGroupName, VMName⟩
  · obtain ⟨vm, found, identified⟩ := present
    exact ⟨_, .request (show Backend.responds (.getVM resourceGroupName VMName) backend (.ok vm)
      backend from ⟨rfl, found, identified⟩)
      (.request (show Backend.responds (.waitForDataDiskDetachment resourceGroupName vm) backend
        none backend from .inl rfl)
      (.request (show Backend.responds (.deleteVM resourceGroupName VMName) backend none
        (backend.removeVirtualMachine ⟨resourceGroupName, VMName⟩) from .inl rfl) (.pure _ _)))⟩
  · rw [Backend.removeVirtualMachine_of_absent present]
    exact ⟨_, .request (show Backend.responds (.getVM resourceGroupName VMName) backend
      (.error (.detailed 404 "")) backend from ⟨rfl, iff_of_true rfl present⟩) (.pure _ backend)⟩

/-- A fan-out whose deleters all return `nil` makes the teardown return `nil`. -/
private theorem deleteVMNicDisks_runs_of_fanOut {backend middle final : Backend}
    {parallelEvents : List TeardownEvent}
    (prelude : ∃ events, Program.Runs Backend.responds
      (deleteVMNicDisks resourceGroupName VMName nicName diskName dataDiskNames) backend events
      (.runInParallel (deleteVMNicDisks.deleters resourceGroupName nicName diskName dataDiskNames))
      middle)
    (parallel : Parallel Backend.responds
      ((fanOutTargets resourceGroupName nicName diskName dataDiskNames).map Target.deleter) middle
      parallelEvents ((fanOutTargets resourceGroupName nicName diskName dataDiskNames).map
        fun _ => none) final) :
    ∃ events, Teardown.Runs Backend.responds
      (deleteVMNicDisks resourceGroupName VMName nicName diskName dataDiskNames)
      backend events none final := by
  obtain ⟨_, prelude⟩ := prelude
  rw [← deleters_eq_map] at parallel
  have run := Teardown.Runs.fanOut prelude parallel
  rw [runInParallel_eq_none.mpr (by simp)] at run
  exact ⟨_, run⟩

/-- On a backend without the VM and its dependents the teardown can return `nil`. -/
theorem deleteVMNicDisks_runs_of_gone {backend : Backend}
    (vmGone : ¬ backend.HasVirtualMachine ⟨resourceGroupName, VMName⟩)
    (gone : ∀ target ∈ fanOutTargets resourceGroupName nicName diskName dataDiskNames,
      target.Gone backend) :
    ∃ events, Teardown.Runs Backend.responds
      (deleteVMNicDisks resourceGroupName VMName nicName diskName dataDiskNames)
      backend events none backend := by
  exact deleteVMNicDisks_runs_of_fanOut
    (by
      simpa only [Backend.removeVirtualMachine_of_absent vmGone] using
        @deleteVMNicDisks_prelude_runs resourceGroupName VMName nicName diskName dataDiskNames
          backend)
    (fanOut_runs_of_gone gone).choose_spec

/-- When no other VM holds the NIC or the disks, the teardown can remove all of
them and return `nil`. -/
theorem deleteVMNicDisks_runs_of_free {backend : Backend}
    (free : ∀ target ∈ fanOutTargets resourceGroupName nicName diskName dataDiskNames,
      target.Free (backend.removeVirtualMachine ⟨resourceGroupName, VMName⟩)) :
    ∃ events, Teardown.Runs Backend.responds
      (deleteVMNicDisks resourceGroupName VMName nicName diskName dataDiskNames) backend events none
      ((fanOutTargets resourceGroupName nicName diskName dataDiskNames).foldl
        (fun backend target => target.remove backend)
        (backend.removeVirtualMachine ⟨resourceGroupName, VMName⟩)) :=
  deleteVMNicDisks_runs_of_fanOut (deleteVMNicDisks_prelude_runs backend)
    (fanOut_runs_of_free free).choose_spec

/-- On a backend without the VM and its dependents every teardown returns `nil`
and changes nothing. -/
theorem deleteVMNicDisks_settled {backend after : Backend} {events : List TeardownEvent}
    {result : Option DriverError}
    (vmGone : ¬ backend.HasVirtualMachine ⟨resourceGroupName, VMName⟩)
    (gone : ∀ target ∈ fanOutTargets resourceGroupName nicName diskName dataDiskNames,
      target.Gone backend)
    (run : Teardown.Runs Backend.responds
      (deleteVMNicDisks resourceGroupName VMName nicName diskName dataDiskNames)
      backend events result after) :
    result = none ∧ after = backend := by
  rcases deleteVMNicDisks_runs run with
    ⟨_, -, prelude⟩ | ⟨_, _, _, results, -, rfl, preludeRun, parallel⟩
  · rcases deleteVMNicDisks_prelude prelude with ⟨-, present, -⟩ | ⟨failing, -⟩
    · exact absurd present vmGone
    · cases failing
  rcases deleteVMNicDisks_prelude preludeRun with ⟨⟨_, failing⟩, -⟩ | ⟨-, rfl⟩
  · cases failing
  rw [Backend.removeVirtualMachine_of_absent vmGone] at parallel
  rw [deleters_eq_map] at parallel
  exact fanOut_settled gone parallel

/-- A teardown that returns `nil` leaves no VM, NIC or disk of the names it was
given and loses nothing else; a second teardown with the same names on what is
left can return `nil`, and however it runs it returns `nil` and changes nothing. -/
theorem deleteVMNicDisks_tears_down {backend final : Backend} {events : List TeardownEvent}
    (run : Teardown.Runs Backend.responds
      (deleteVMNicDisks resourceGroupName VMName nicName diskName dataDiskNames)
      backend events none final) :
    (∀ vm, vm ∈ final.virtualMachines ↔
      vm ∈ backend.virtualMachines ∧ vm.id ≠ ⟨resourceGroupName, VMName⟩) ∧
    (∀ nic, nic ∈ final.networkInterfaces ↔
      nic ∈ backend.networkInterfaces ∧ nic ≠ ⟨resourceGroupName, nicName⟩) ∧
    (∀ disk, disk ∈ final.disks ↔ disk ∈ backend.disks ∧
      ∀ name ∈ diskName :: dataDiskNames.getD [], disk ≠ ⟨resourceGroupName, name⟩) ∧
    (∃ again, Teardown.Runs Backend.responds
      (deleteVMNicDisks resourceGroupName VMName nicName diskName dataDiskNames)
      final again none final) ∧
    ∀ again result after, Teardown.Runs Backend.responds
      (deleteVMNicDisks resourceGroupName VMName nicName diskName dataDiskNames)
      final again result after → result = none ∧ after = final := by
  obtain ⟨vms, nics, disks⟩ := deleteVMNicDisks_removes run
  have vmGone : ¬ final.HasVirtualMachine ⟨resourceGroupName, VMName⟩ :=
    fun ⟨vm, member, same⟩ => ((vms vm).mp member).2 same
  have gone : ∀ target ∈ fanOutTargets resourceGroupName nicName diskName dataDiskNames,
      target.Gone final := by
    intro target targeted
    rcases List.mem_cons.mp targeted with rfl | mapped
    · exact fun member => ((nics _).mp member).2 rfl
    · obtain ⟨name, named, rfl⟩ := List.mem_map.mp mapped
      exact fun member => ((disks _).mp member).2 name named rfl
  exact ⟨vms, nics, disks, deleteVMNicDisks_runs_of_gone vmGone gone,
    fun _ _ _ again => deleteVMNicDisks_settled vmGone gone again⟩

theorem deleteVMNicDisks_tears_down_machine :
    (∃ events, Teardown.Runs Backend.responds
      (deleteVMNicDisks "rg" "machine" "machine-nic" "machine-os-disk" none)
      ⟨[⟨⟨"rg", "machine"⟩, [⟨"rg", "machine-nic"⟩], ⟨"rg", "machine-os-disk"⟩, []⟩],
        [⟨"rg", "machine-nic"⟩], [⟨"rg", "machine-os-disk"⟩, ⟨"rg", "other-disk"⟩]⟩
      events none ⟨[], [], [⟨"rg", "other-disk"⟩]⟩) ∧
    ∀ again result after, Teardown.Runs Backend.responds
      (deleteVMNicDisks "rg" "machine" "machine-nic" "machine-os-disk" none)
      ⟨[], [], [⟨"rg", "other-disk"⟩]⟩ again result after →
      result = none ∧ after = ⟨[], [], [⟨"rg", "other-disk"⟩]⟩ := by
  obtain ⟨events, run⟩ : ∃ events, Teardown.Runs Backend.responds
      (deleteVMNicDisks "rg" "machine" "machine-nic" "machine-os-disk" none)
      ⟨[⟨⟨"rg", "machine"⟩, [⟨"rg", "machine-nic"⟩], ⟨"rg", "machine-os-disk"⟩, []⟩],
        [⟨"rg", "machine-nic"⟩], [⟨"rg", "machine-os-disk"⟩, ⟨"rg", "other-disk"⟩]⟩
      events none ⟨[], [], [⟨"rg", "other-disk"⟩]⟩ :=
    deleteVMNicDisks_runs_of_free (by decide)
  exact ⟨⟨events, run⟩, (deleteVMNicDisks_tears_down run).2.2.2.2⟩

/-! ## A NIC another VM holds -/

/-- While the NIC stays attached, its deleter never reaches its deletion: the
backend keeps the NIC and a VM holding it, the NIC deleter has not started or
has failed, and every other deleter deletes a disk. -/
private def Conflict (resourceGroupName nicName : String)
    (threads : List (TeardownProgram (Option DriverError))) (backend : Backend) : Prop :=
  ⟨resourceGroupName, nicName⟩ ∈ backend.networkInterfaces ∧
    backend.NetworkInterfaceAttached ⟨resourceGroupName, nicName⟩ ∧
    (threads[0]? = some (nicDeleter resourceGroupName nicName) ∨
      ∃ err, threads[0]? = some (.pure (some err))) ∧
    ∀ (index : Nat) thread, threads[index + 1]? = some thread →
      (∃ name, thread = diskDeleter resourceGroupName name) ∨ ∃ value, thread = .pure value

private theorem Conflict.step {threads : List (TeardownProgram (Option DriverError))}
    {backend after : Backend} {index : Nat} {call : TeardownRequest}
    {next : TeardownRequest.Response call → TeardownProgram (Option DriverError)}
    {answer : TeardownRequest.Response call}
    (conflict : Conflict resourceGroupName nicName threads backend)
    (found : threads[index]? = some (.request call next))
    (responded : Backend.responds call backend answer after) :
    Conflict resourceGroupName nicName (threads.set index (next answer)) after := by
  obtain ⟨present, attached, nicThread, diskThreads⟩ := conflict
  have within : index < threads.length := (List.getElem?_eq_some_iff.mp found).1
  cases index with
  | zero =>
      rcases nicThread with started | ⟨_, stopped⟩
      · have started : Program.request call next = nicDeleter resourceGroupName nicName :=
          Option.some.inj (found.symm.trans started)
        have failed : after = backend ∧ ∃ err, next answer = .pure (some err) := by
          cases started
          obtain ⟨rfl, reported⟩ := responded
          refine ⟨rfl, ?_⟩
          cases answer with
          | error err => exact ⟨err, by simp [mt reported.mp (not_not.mpr present)]⟩
          | ok vmHoldingNic =>
              have held : vmHoldingNic ≠ "" := fun free => reported.2.mp free attached
              exact ⟨_, by simp [held]; rfl⟩
        obtain ⟨rfl, err, returned⟩ := failed
        refine ⟨present, attached, .inr ⟨err, by simp [within, returned]⟩,
          fun index thread found => diskThreads index thread ?_⟩
        rwa [List.getElem?_set_ne (by omega)] at found
      · cases found.symm.trans stopped
  | succ index =>
      rcases diskThreads index _ found with ⟨name, started⟩ | ⟨_, stopped⟩
      · obtain ⟨-, removed⟩ := @Target.Stage.step (.disk ⟨resourceGroupName, name⟩) _ _ _ _ _
          (.inl started) responded
        have kept : after.networkInterfaces = backend.networkInterfaces ∧
            after.virtualMachines = backend.virtualMachines := by
          rcases removed with rfl | rfl <;> exact ⟨rfl, rfl⟩
        obtain ⟨value, returned⟩ : ∃ value, next answer = .pure value := by
          cases started
          exact ⟨_, rfl⟩
        refine ⟨kept.1 ▸ present,
          by simpa [Backend.NetworkInterfaceAttached, kept.2] using attached,
          by rwa [List.getElem?_set_ne (by omega)], fun other thread found => ?_⟩
        by_cases same : index = other
        · subst same
          simp only [List.getElem?_set_self within, Option.some.injEq] at found
          exact .inr ⟨value, found.symm.trans returned⟩
        · rw [List.getElem?_set_ne (by omega)] at found
          exact diskThreads other thread found
      · cases stopped

/-- A NIC that another VM holds is never deleted: under the contracts every
teardown fails, and the NIC is still there after it. -/
theorem deleteVMNicDisks_conflict {backend final : Backend} {events : List TeardownEvent}
    {result : Option DriverError}
    (run : Teardown.Runs Backend.responds
      (deleteVMNicDisks resourceGroupName VMName nicName diskName dataDiskNames)
      backend events result final)
    (present : ⟨resourceGroupName, nicName⟩ ∈ backend.networkInterfaces)
    (held : ∃ vm ∈ backend.virtualMachines, vm.id ≠ ⟨resourceGroupName, VMName⟩ ∧
      ⟨resourceGroupName, nicName⟩ ∈ vm.networkInterfaces) :
    result ≠ none ∧ ⟨resourceGroupName, nicName⟩ ∈ final.networkInterfaces := by
  rcases deleteVMNicDisks_runs run with
    ⟨err, rfl, prelude⟩ | ⟨_, _, _, results, -, rfl, preludeRun, parallel⟩
  · rcases deleteVMNicDisks_prelude prelude with ⟨-, -, kept⟩ | ⟨failing, -⟩
    · exact ⟨nofun, kept ▸ present⟩
    · cases failing
  rcases deleteVMNicDisks_prelude preludeRun with ⟨⟨_, failing⟩, -⟩ | ⟨-, rfl⟩
  · cases failing
  obtain ⟨vm, member, other, holding⟩ := held
  have initially : Conflict resourceGroupName nicName
      (deleteVMNicDisks.deleters resourceGroupName nicName diskName dataDiskNames)
      (backend.removeVirtualMachine ⟨resourceGroupName, VMName⟩) := by
    refine ⟨present, ⟨vm, List.mem_filter.mpr ⟨member, by simpa using other⟩, holding⟩, .inl rfl,
      fun index thread found => ?_⟩
    rcases deleters_getElem? found with ⟨first, -⟩ | disk
    · omega
    · exact .inl disk
  obtain ⟨kept, -, failed, -⟩ := parallel.invariant (Conflict resourceGroupName nicName)
    (fun _ _ _ _ _ _ _ holds found responded => holds.step found responded) initially
  refine ⟨fun succeeded => ?_, kept⟩
  simp only [List.getElem?_map, Option.map_eq_some'] at failed
  rcases failed with ⟨value, -, started⟩ | ⟨err, value, stored, returned⟩
  · exact Target.deleter_ne_pure (.nic ⟨resourceGroupName, nicName⟩) value started.symm
  · cases Program.pure.inj returned
    exact absurd (runInParallel_eq_none.mp succeeded _ (List.getElem?_mem stored)) nofun

theorem deleteVMNicDisks_conflict_heldByOther :
    let backend : Backend := ⟨[⟨⟨"rg", "other"⟩, [⟨"rg", "machine-nic"⟩], ⟨"rg", "other-os-disk"⟩,
      []⟩], [⟨"rg", "machine-nic"⟩], [⟨"rg", "other-os-disk"⟩]⟩
    ∃ events result final, Teardown.Runs Backend.responds
      (deleteVMNicDisks "rg" "machine" "machine-nic" "machine-os-disk" none) backend events result
      final ∧ result ≠ none ∧ ⟨"rg", "machine-nic"⟩ ∈ final.networkInterfaces := by
  intro backend
  obtain ⟨_, prelude⟩ :=
    @deleteVMNicDisks_prelude_runs "rg" "machine" "machine-nic" "machine-os-disk" none backend
  obtain ⟨_, _, _, parallel⟩ :=
    fanOut_runs (fanOutTargets "rg" "machine-nic" "machine-os-disk" none)
      (backend.removeVirtualMachine ⟨"rg", "machine"⟩)
  rw [← deleters_eq_map] at parallel
  have run := Teardown.Runs.fanOut prelude parallel
  exact ⟨_, _, _, run, deleteVMNicDisks_conflict run (by decide) (by decide)⟩

/-! ## What the teardown passes over -/

/-- Whatever the clients answer, the teardown returns `nil` exactly when none
of the answers it got is fatal: besides a NotFound from either lookup, the one
failure it passes over is that of the wait for the VM's data disks to detach. -/
theorem deleteVMNicDisks_eq_none_iff {State : Type}
    {respond : Responder TeardownRequest TeardownRequest.Response State} {state final : State}
    {events : List TeardownEvent} {result : Option DriverError}
    (run : Teardown.Runs respond
      (deleteVMNicDisks resourceGroupName VMName nicName diskName dataDiskNames)
      state events result final) :
    result = none ↔ ∀ event ∈ events, ¬ event.call.Fatal event.answer := by
  rcases deleteVMNicDisks_runs run with
    ⟨err, rfl, prelude⟩ | ⟨prelude, _, _, _, rfl, rfl, preludeRun, parallel⟩
  case inl =>
    refine iff_of_false nofun fun nonFatal => ?_
    rcases deleteVMNicDisks_path prelude.path with
      ⟨lookupErr, rfl, failed⟩ | ⟨vm, waited, deleted, rfl, failed⟩
    · by_cases missing : notFound lookupErr = true
      · simp [missing] at failed
      · exact nonFatal _ (List.mem_singleton_self _) (by simpa using missing)
    · cases deleted with
      | none => cases failed
      | some deleteErr =>
        exact nonFatal ⟨.deleteVM resourceGroupName VMName, some deleteErr⟩ (by simp) trivial
  case inr =>
    obtain ⟨-, fannedOut⟩ := deleteVMNicDisks_path_fanOut preludeRun.path
    have preludeSafe : ∀ event ∈ prelude, ¬ event.call.Fatal event.answer := by
      rcases fannedOut with ⟨err, missing, rfl⟩ | ⟨vm, waited, rfl⟩
      · exact List.forall_mem_singleton.mpr fun (fatal : notFound err = false) =>
          Bool.noConfusion (missing.symm.trans fatal)
      · simp only [List.forall_mem_cons]
        exact ⟨nofun, nofun, nofun, nofun⟩
    rw [runInParallel_eq_none, List.forall_mem_append, and_iff_right preludeSafe]
    exact parallel.forall_values_iff fun _ _ _ _ found path => deleter_path_eq_none found path

theorem deleteVMNicDisks_eq_none_iff_waitFailed :
    let vm : VirtualMachineRecord := ⟨⟨"rg", "machine"⟩, [], ⟨"rg", "machine-os-disk"⟩, []⟩
    ∃ events, Teardown.Runs Backend.responds
      (deleteVMNicDisks "rg" "machine" "machine-nic" "machine-os-disk" none) ⟨[vm], [], []⟩ events
      none ⟨[], [], []⟩ ∧
      ⟨.waitForDataDiskDetachment "rg" vm, some (.formatted "timed out")⟩ ∈ events ∧
      ∀ event ∈ events, ¬ event.call.Fatal event.answer := by
  intro vm
  have prelude : Program.Runs Backend.responds
      (deleteVMNicDisks "rg" "machine" "machine-nic" "machine-os-disk" none) ⟨[vm], [], []⟩ _
      (.runInParallel (deleteVMNicDisks.deleters "rg" "machine-nic" "machine-os-disk" none))
      ⟨[], [], []⟩ :=
    .request (show Backend.responds (.getVM "rg" "machine") ⟨[vm], [], []⟩ (.ok vm) ⟨[vm], [], []⟩
      from ⟨rfl, by decide, rfl⟩)
    (.request (show Backend.responds (.waitForDataDiskDetachment "rg" vm) ⟨[vm], [], []⟩
      (some (.formatted "timed out")) ⟨[vm], [], []⟩ from .inl rfl)
    (.request (show Backend.responds (.deleteVM "rg" "machine") ⟨[vm], [], []⟩ none
      ⟨[], [], []⟩ from .inl rfl) (.pure _ _)))
  obtain ⟨_, parallel⟩ : ∃ events, Parallel Backend.responds
      ((fanOutTargets "rg" "machine-nic" "machine-os-disk" none).map Target.deleter) ⟨[], [], []⟩
      events ((fanOutTargets "rg" "machine-nic" "machine-os-disk" none).map fun _ => none)
      ⟨[], [], []⟩ :=
    fanOut_runs_of_gone (by decide)
  rw [← deleters_eq_map] at parallel
  have run := Teardown.Runs.fanOut prelude parallel
  rw [runInParallel_eq_none.mpr (by simp)] at run
  exact ⟨_, run, List.mem_append_left _ (by simp), (deleteVMNicDisks_eq_none_iff run).mp rfl⟩

end Teardown

end AzureProvider
