import AzureProvider.Semantics.Backend

/-! # Teardown

`deleteVMNicDisks` deletes a virtual machine and then, concurrently, its NIC,
its OS disk and its data disks, finding all of them by name. It serves both the
deletion of a machine and the rollback of a failed creation, so it has to leave
nothing behind when it succeeds and to be safe to call again.
-/

namespace AzureProvider

open TeardownRequest (issue)

abbrev TeardownProgram := Program TeardownRequest TeardownRequest.Response

/-- The `nicDeleter` closure of `deleteVMNicDisks`: an absent NIC needs no
deletion, and one a VM still holds is a conflict. -/
def nicDeleter (resourceGroupName nicName : String) : TeardownProgram (Option DriverError) := do
  match ← issue (.fetchAttachedVMfromNIC resourceGroupName nicName) with
  | .error err => return if notFound err then none else some err
  | .ok vmHoldingNic =>
      if vmHoldingNic ≠ "" then
        return some (.formatted ("Cannot delete NIC " ++ nicName ++
          " because it is attached to VM " ++ vmHoldingNic))
      else issue (.deleteNIC resourceGroupName nicName)

/-- The deleter `spi.GetDeleterForDisk` returns, run once. -/
def diskDeleter (resourceGroupName diskName : String) : TeardownProgram (Option DriverError) :=
  issue (.deleteDisk resourceGroupName diskName)

/-- How `deleteVMNicDisks` goes on once its virtual machine is dealt with: it
fails, or it returns `spi.RunInParallel(deleters)`. -/
inductive Teardown where
  | failed (err : DriverError)
  | runInParallel (deleters : List (TeardownProgram (Option DriverError)))

/-- `deleteVMNicDisks`: fetch the VM and, if found, detach its data disks and
delete it; a VM that is not found is skipped, any other error is returned. Then
the NIC, OS-disk and data-disk deleters run in parallel. -/
def deleteVMNicDisks (resourceGroupName VMName nicName diskName : String)
    (dataDiskNames : Option (List String)) : TeardownProgram Teardown := do
  match ← issue (.getVM resourceGroupName VMName) with
  | .ok vm =>
      let _ ← issue (.waitForDataDiskDetachment resourceGroupName vm)
      match ← issue (.deleteVM resourceGroupName VMName) with
      | some deleteErr => return .failed deleteErr
      | none => return .runInParallel deleters
  | .error vmErr =>
      if notFound vmErr then return .runInParallel deleters
      else return .failed (onARMAPIErrorFail prometheusServiceVM vmErr "vm.Get")
where
  deleters : List (TeardownProgram (Option DriverError)) :=
    nicDeleter resourceGroupName nicName :: diskDeleter resourceGroupName diskName ::
      match dataDiskNames with
      | some dataDiskNames => dataDiskNames.map (diskDeleter resourceGroupName)
      | none => []

namespace Teardown

variable {State : Type}

/-- A run of a teardown: its requests up to the fan-out and then, if it gets
there, the deleters in any interleaving, with `spi.RunInParallel`'s result. -/
inductive Runs (respond : Responder TeardownRequest TeardownRequest.Response State) :
    TeardownProgram Teardown → State → List TeardownEvent → Option DriverError → State → Prop
  | failed {program : TeardownProgram Teardown} {state : State} {events : List TeardownEvent}
      {err : DriverError} {final : State} :
      Program.Runs respond program state events (.failed err) final →
      Runs respond program state events (some err) final
  | fanOut {program : TeardownProgram Teardown} {state : State} {events : List TeardownEvent}
      {deleters : List (TeardownProgram (Option DriverError))} {middle : State}
      {parallelEvents : List TeardownEvent} {results : List (Option DriverError)} {final : State} :
      Program.Runs respond program state events (.runInParallel deleters) middle →
      Parallel respond deleters middle parallelEvents results final →
      Runs respond program state (events ++ parallelEvents) (AzureProvider.runInParallel results)
        final

end Teardown

namespace TeardownRequest

/-- An answer the teardown does not go past: a failed lookup of the VM or of the
NIC's holder other than NotFound, a failed deletion of the VM, the NIC or a disk,
and a report that a VM holds the NIC. A failed wait for the data disks to detach
is not one. -/
def Fatal : (call : TeardownRequest) → call.Response → Prop
  | .getVM .., .error err => notFound err = false
  | .deleteVM .., some _ => True
  | .fetchAttachedVMfromNIC .., .error err => notFound err = false
  | .fetchAttachedVMfromNIC .., .ok vmHoldingNic => vmHoldingNic ≠ ""
  | .deleteNIC .., some _ => True
  | .deleteDisk .., some _ => True
  | _, _ => False

end TeardownRequest

/-! ## What each part may do -/

section Parts

variable {resourceGroupName VMName nicName diskName : String} {dataDiskNames : Option (List String)}

/-- The NIC deleter fetches the NIC and stops there, or deletes it after a
report that no VM holds it. -/
theorem nicDeleter_path {events : List TeardownEvent} {value : Option DriverError}
    (path : Program.Path (nicDeleter resourceGroupName nicName) events value) :
    (∃ err, events = [⟨.fetchAttachedVMfromNIC resourceGroupName nicName, .error err⟩] ∧
      value = if notFound err then none else some err) ∨
    (∃ vmHoldingNic, vmHoldingNic ≠ "" ∧
      events = [⟨.fetchAttachedVMfromNIC resourceGroupName nicName, .ok vmHoldingNic⟩] ∧
      value = some (.formatted ("Cannot delete NIC " ++ nicName ++
        " because it is attached to VM " ++ vmHoldingNic))) ∨
    (∃ answer, events = [⟨.fetchAttachedVMfromNIC resourceGroupName nicName, .ok ""⟩,
      ⟨.deleteNIC resourceGroupName nicName, answer⟩] ∧ value = answer) := by
  simp only [nicDeleter, TeardownRequest.issue_eq, Program.issue_bind,
    Program.path_request] at path
  obtain ⟨answer, rest, rfl, path⟩ := path
  cases answer with
  | error err =>
      obtain ⟨rfl, rfl⟩ := Program.path_pure.mp path
      exact .inl ⟨err, rfl, rfl⟩
  | ok vmHoldingNic =>
      dsimp only at path
      split at path
      · obtain ⟨rfl, rfl⟩ := Program.path_pure.mp path
        exact .inr (.inl ⟨vmHoldingNic, ‹_›, rfl, rfl⟩)
      · obtain rfl : vmHoldingNic = "" := of_not_not ‹_›
        obtain rfl := Program.path_issue.mp path
        exact .inr (.inr ⟨value, rfl, rfl⟩)

theorem diskDeleter_path {events : List TeardownEvent} {value : Option DriverError}
    (path : Program.Path (diskDeleter resourceGroupName diskName) events value) :
    events = [⟨.deleteDisk resourceGroupName diskName, value⟩] :=
  Program.path_issue.mp path

/-- The NIC deleter comes first; every other deleter deletes a disk. -/
theorem deleters_getElem? {index : Nat} {deleter : TeardownProgram (Option DriverError)}
    (found : (deleteVMNicDisks.deleters resourceGroupName nicName diskName dataDiskNames)[index]? =
      some deleter) :
    (index = 0 ∧ deleter = nicDeleter resourceGroupName nicName) ∨
      ∃ name, deleter = diskDeleter resourceGroupName name := by
  match index, dataDiskNames, found with
  | 0, _, found =>
      simp only [deleteVMNicDisks.deleters, List.getElem?_cons_zero, Option.some.injEq] at found
      exact .inl ⟨rfl, found.symm⟩
  | 1, _, found =>
      simp only [deleteVMNicDisks.deleters, List.getElem?_cons_succ, List.getElem?_cons_zero,
        Option.some.injEq] at found
      exact .inr ⟨diskName, found.symm⟩
  | index + 2, none, found => simp [deleteVMNicDisks.deleters] at found
  | index + 2, some names, found =>
      simp only [deleteVMNicDisks.deleters, List.getElem?_cons_succ, List.getElem?_map,
        Option.map_eq_some'] at found
      obtain ⟨name, -, rfl⟩ := found
      exact .inr ⟨name, rfl⟩

/-- Before its fan-out the teardown fetches the VM and, if it is found,
detaches its data disks and deletes it. -/
theorem deleteVMNicDisks_path {events : List TeardownEvent} {teardown : Teardown}
    (path : Program.Path (deleteVMNicDisks resourceGroupName VMName nicName diskName dataDiskNames)
      events teardown) :
    (∃ err, events = [⟨.getVM resourceGroupName VMName, .error err⟩] ∧
      teardown = if notFound err then
        .runInParallel (deleteVMNicDisks.deleters resourceGroupName nicName diskName dataDiskNames)
      else .failed (onARMAPIErrorFail prometheusServiceVM err "vm.Get")) ∨
    (∃ vm waited deleted, events = [⟨.getVM resourceGroupName VMName, .ok vm⟩,
      ⟨.waitForDataDiskDetachment resourceGroupName vm, waited⟩,
      ⟨.deleteVM resourceGroupName VMName, deleted⟩] ∧
      teardown = match deleted with
        | some deleteErr => .failed deleteErr
        | none => .runInParallel
            (deleteVMNicDisks.deleters resourceGroupName nicName diskName dataDiskNames)) := by
  simp only [deleteVMNicDisks, TeardownRequest.issue_eq, Program.issue_bind,
    Program.path_request] at path
  obtain ⟨answer, rest, rfl, path⟩ := path
  cases answer with
  | error err =>
      dsimp only at path
      split at path <;> obtain ⟨rfl, rfl⟩ := Program.path_pure.mp path <;>
        exact .inl ⟨err, rfl, by simp [*]⟩
  | ok vm =>
      simp only [Program.path_request] at path
      obtain ⟨waited, _, rfl, deleted, _, rfl, path⟩ := path
      refine .inr ⟨vm, waited, deleted, ?_⟩
      cases deleted <;> obtain ⟨rfl, rfl⟩ := Program.path_pure.mp path <;> exact ⟨rfl, rfl⟩

theorem deleteVMNicDisks_path_isVMRequest {events : List TeardownEvent} {teardown : Teardown}
    (path : Program.Path (deleteVMNicDisks resourceGroupName VMName nicName diskName dataDiskNames)
      events teardown) :
    ∀ event ∈ events, event.call.IsVMRequest := by
  rcases deleteVMNicDisks_path path with ⟨_, rfl, -⟩ | ⟨_, _, _, rfl, -⟩ <;>
    simp [TeardownRequest.IsVMRequest]

/-- The teardown reaches its fan-out, always over its own deleters, after
finding the VM absent or after deleting it. -/
theorem deleteVMNicDisks_path_fanOut {events : List TeardownEvent}
    {deleters : List (TeardownProgram (Option DriverError))}
    (path : Program.Path (deleteVMNicDisks resourceGroupName VMName nicName diskName dataDiskNames)
      events (.runInParallel deleters)) :
    deleters = deleteVMNicDisks.deleters resourceGroupName nicName diskName dataDiskNames ∧
      ((∃ err, notFound err = true ∧ events = [⟨.getVM resourceGroupName VMName, .error err⟩]) ∨
      ∃ vm waited, events = [⟨.getVM resourceGroupName VMName, .ok vm⟩,
        ⟨.waitForDataDiskDetachment resourceGroupName vm, waited⟩,
        ⟨.deleteVM resourceGroupName VMName, none⟩]) := by
  rcases deleteVMNicDisks_path path with
    ⟨err, rfl, fannedOut⟩ | ⟨vm, waited, deleted, rfl, fannedOut⟩
  · split at fannedOut
    · exact ⟨Teardown.runInParallel.inj fannedOut, .inl ⟨err, ‹_›, rfl⟩⟩
    · cases fannedOut
  · cases deleted
    · exact ⟨Teardown.runInParallel.inj fannedOut, .inr ⟨vm, waited, rfl⟩⟩
    · cases fannedOut

/-! ## The deleters -/

variable {index : Nat} {deleter : TeardownProgram (Option DriverError)}
  {own : List TeardownEvent} {value : Option DriverError}

theorem deleter_path_not_isVMRequest
    (found : (deleteVMNicDisks.deleters resourceGroupName nicName diskName dataDiskNames)[index]? =
      some deleter)
    (path : Program.Path deleter own value) : ∀ event ∈ own, ¬ event.call.IsVMRequest := by
  rcases deleters_getElem? found with ⟨-, rfl⟩ | ⟨name, rfl⟩
  · rcases nicDeleter_path path with ⟨_, rfl, -⟩ | ⟨_, -, rfl, -⟩ | ⟨_, rfl, -⟩ <;>
      simp [TeardownRequest.IsVMRequest]
  · rw [diskDeleter_path path]
    simp [TeardownRequest.IsVMRequest]

/-- A deleter deletes a NIC only after hearing that no VM holds it. -/
theorem deleter_path_deleteNIC {ownBefore ownAfter : List TeardownEvent} {event : TeardownEvent}
    {nicGroup deletedNic : String}
    (found : (deleteVMNicDisks.deleters resourceGroupName nicName diskName dataDiskNames)[index]? =
      some deleter)
    (path : Program.Path deleter (ownBefore ++ event :: ownAfter) value)
    (deleting : event.call = .deleteNIC nicGroup deletedNic) :
    (⟨.fetchAttachedVMfromNIC nicGroup deletedNic, .ok ""⟩ : TeardownEvent) ∈ ownBefore := by
  have inside : event ∈ ownBefore ++ event :: ownAfter :=
    List.mem_append_right _ (List.mem_cons_self _ _)
  rcases deleters_getElem? found with ⟨-, rfl⟩ | ⟨name, rfl⟩
  · rcases nicDeleter_path path with ⟨_, split, -⟩ | ⟨_, -, split, -⟩ | ⟨answer, split, -⟩
    · -- The fetch failed: the deleter's one event is that fetch.
      rw [split, List.mem_singleton] at inside
      subst inside
      cases deleting
    · -- A VM holds the NIC: again the one event is the fetch.
      rw [split, List.mem_singleton] at inside
      subst inside
      cases deleting
    · -- No VM holds it: the deletion is the second event, and the fetch the first.
      rcases List.append_eq_cons_iff.mp split with ⟨-, first⟩ | ⟨rest, rfl, second⟩
      · obtain ⟨rfl, -⟩ := List.cons.inj first
        cases deleting
      · have deleted : event ∈ rest ++ event :: ownAfter :=
          List.mem_append_right _ (List.mem_cons_self _ _)
        rw [← second, List.mem_singleton] at deleted
        subst deleted
        cases deleting
        exact List.mem_cons_self _ _
  · -- A disk deleter's one event deletes a disk.
    rw [diskDeleter_path path, List.mem_singleton] at inside
    subst inside
    cases deleting

/-- A deleter that hears the NIC is held by a VM fails. -/
theorem deleter_path_attached {vmHoldingNic : String}
    (found : (deleteVMNicDisks.deleters resourceGroupName nicName diskName dataDiskNames)[index]? =
      some deleter)
    (path : Program.Path deleter own value) (holding : vmHoldingNic ≠ "")
    (reported : (⟨.fetchAttachedVMfromNIC resourceGroupName nicName, .ok vmHoldingNic⟩ :
      TeardownEvent) ∈ own) :
    value ≠ none := by
  rcases deleters_getElem? found with ⟨-, rfl⟩ | ⟨name, rfl⟩
  · rcases nicDeleter_path path with ⟨_, rfl, -⟩ | ⟨_, -, rfl, rfl⟩ | ⟨_, rfl, -⟩
    · simp at reported
    · simp
    · simp only [List.mem_cons, Event.mk.injEq, heq_eq_eq, reduceCtorEq, false_and, or_false,
        List.not_mem_nil, true_and] at reported
      exact absurd (Except.ok.inj reported) holding
  · rw [diskDeleter_path path] at reported
    simp at reported

/-- A deleter returns `nil` exactly when none of its answers is fatal. -/
theorem deleter_path_eq_none
    (found : (deleteVMNicDisks.deleters resourceGroupName nicName diskName dataDiskNames)[index]? =
      some deleter)
    (path : Program.Path deleter own value) :
    value = none ↔ ∀ event ∈ own, ¬ event.call.Fatal event.answer := by
  rcases deleters_getElem? found with ⟨-, rfl⟩ | ⟨name, rfl⟩
  · rcases nicDeleter_path path with ⟨err, rfl, rfl⟩ | ⟨_, held, rfl, rfl⟩ | ⟨_, rfl, rfl⟩
    · rw [List.forall_mem_singleton]
      show _ ↔ ¬ notFound err = false
      cases notFound err <;> simp
    · rw [List.forall_mem_singleton]
      exact iff_of_false nofun fun nonFatal => nonFatal held
    · rw [List.forall_mem_cons, List.forall_mem_singleton]
      cases value
      · exact iff_of_true rfl ⟨fun nonEmpty => nonEmpty rfl, id⟩
      · exact iff_of_false nofun fun nonFatal => nonFatal.2 trivial
  · rw [diskDeleter_path path, List.forall_mem_singleton]
    cases value
    · exact iff_of_true rfl id
    · exact iff_of_false nofun fun nonFatal => nonFatal trivial

/-! ## Ordering over every run -/

/-- An event of a trace that is not among the trace's first part lies in its
second. -/
private theorem split_of_not_mem {α : Type} {first second before after : List α} {event : α}
    (split : first ++ second = before ++ event :: after) (absent : event ∉ first) :
    ∃ middle, before = first ++ middle ∧ second = middle ++ event :: after := by
  rcases List.append_eq_append_iff.mp split with ⟨middle, rfl, rest⟩ | ⟨_ | ⟨head, tail⟩, rfl, rest⟩
  · exact ⟨middle, rfl, rest⟩
  · exact ⟨[], by simp, by simpa using rest.symm⟩
  · obtain ⟨rfl, -⟩ := List.cons.inj rest
    simp at absent

variable {State : Type} {respond : Responder TeardownRequest TeardownRequest.Response State}

/-- Every event of the fan-out is one of a deleter's requests. -/
theorem deleters_parallel_not_isVMRequest {middle final : State} {events : List TeardownEvent}
    {results : List (Option DriverError)}
    (parallel : Parallel respond (deleteVMNicDisks.deleters resourceGroupName nicName diskName
      dataDiskNames) middle events results final) :
    ∀ event ∈ events, ¬ event.call.IsVMRequest := by
  intro event member
  obtain ⟨before, after, split⟩ := List.append_of_mem member
  obtain ⟨_, _, _, _, _, found, -, path, -⟩ := parallel.attribution split
  exact deleter_path_not_isVMRequest found path event (by simp)

/-- A run of the teardown stops after its VM requests with an error, or goes on
to run its own deleters in parallel. -/
theorem deleteVMNicDisks_runs {state final : State} {events : List TeardownEvent}
    {result : Option DriverError}
    (run : Teardown.Runs respond
      (deleteVMNicDisks resourceGroupName VMName nicName diskName dataDiskNames)
      state events result final) :
    (∃ err, result = some err ∧
      Program.Runs respond
        (deleteVMNicDisks resourceGroupName VMName nicName diskName dataDiskNames)
        state events (.failed err) final) ∨
    ∃ prelude middle parallelEvents results, events = prelude ++ parallelEvents ∧
      result = runInParallel results ∧
      Program.Runs respond
        (deleteVMNicDisks resourceGroupName VMName nicName diskName dataDiskNames) state prelude
        (.runInParallel
          (deleteVMNicDisks.deleters resourceGroupName nicName diskName dataDiskNames))
        middle ∧
      Parallel respond (deleteVMNicDisks.deleters resourceGroupName nicName diskName dataDiskNames)
        middle parallelEvents results final := by
  cases run with
  | failed prelude => exact .inl ⟨_, rfl, prelude⟩
  | fanOut prelude parallel =>
      obtain ⟨rfl, -⟩ := deleteVMNicDisks_path_fanOut prelude.path
      exact .inr ⟨_, _, _, _, rfl, rfl, prelude, parallel⟩

/-- Whatever the backend answers and however the deleters interleave: a NIC or
disk is deleted only after the VM was reported absent or was deleted; a failed
lookup or deletion of the VM fails the teardown before anything else is deleted;
a NIC is deleted only after a report that no VM holds it; and a report that a
VM holds the NIC fails the teardown. -/
theorem deleteVMNicDisks_orders_deletions {state final : State} {events : List TeardownEvent}
    {result : Option DriverError}
    (run : Teardown.Runs respond
      (deleteVMNicDisks resourceGroupName VMName nicName diskName dataDiskNames)
      state events result final) :
    (∀ before deletion after, events = before ++ deletion :: after →
      deletion.call.IsDependentDeletion →
      (∃ err, notFound err = true ∧
        (⟨.getVM resourceGroupName VMName, .error err⟩ : TeardownEvent) ∈ before) ∨
      ∃ vm, (⟨.getVM resourceGroupName VMName, .ok vm⟩ : TeardownEvent) ∈ before ∧
        (⟨.deleteVM resourceGroupName VMName, none⟩ : TeardownEvent) ∈ before) ∧
    ((∃ err, notFound err = false ∧
        (⟨.getVM resourceGroupName VMName, .error err⟩ : TeardownEvent) ∈ events) ∨
      (∃ deleteErr,
        (⟨.deleteVM resourceGroupName VMName, some deleteErr⟩ : TeardownEvent) ∈ events) →
      result ≠ none ∧ ∀ event ∈ events, ¬ event.call.IsDependentDeletion) ∧
    (∀ before deletion after, events = before ++ deletion :: after →
      ∀ nicGroup deletedNic, deletion.call = .deleteNIC nicGroup deletedNic →
      (⟨.fetchAttachedVMfromNIC nicGroup deletedNic, .ok ""⟩ : TeardownEvent) ∈ before) ∧
    (∀ vmHoldingNic, vmHoldingNic ≠ "" →
      (⟨.fetchAttachedVMfromNIC resourceGroupName nicName, .ok vmHoldingNic⟩ : TeardownEvent) ∈
        events → result ≠ none) := by
  rcases deleteVMNicDisks_runs run with
    ⟨err, rfl, prelude⟩ | ⟨prelude, middle, parallelEvents, results, rfl, rfl, preludeRun, parallel⟩
  case inl =>
    have failing : some err ≠ none := Option.some_ne_none err
    have onVM := deleteVMNicDisks_path_isVMRequest prelude.path
    have noDeletion : ∀ event ∈ events, ¬ event.call.IsDependentDeletion :=
      fun event member deleting =>
        TeardownRequest.not_isVMRequest_of_isDependentDeletion deleting (onVM event member)
    refine ⟨fun _ deletion _ split deleting =>
        absurd deleting (noDeletion deletion (by simp [split])),
      fun _ => ⟨failing, noDeletion⟩, fun _ deletion _ split _ _ deletingNic => ?_,
      fun _ _ _ => failing⟩
    exact absurd (by simp [deletingNic, TeardownRequest.IsDependentDeletion])
      (noDeletion deletion (by simp [split]))
  case inr =>
    have onVM := deleteVMNicDisks_path_isVMRequest preludeRun.path
    have offVM := deleters_parallel_not_isVMRequest parallel
    have later : ∀ {before deletion after},
        prelude ++ parallelEvents = before ++ deletion :: after →
        ¬ deletion.call.IsVMRequest →
        ∃ middle, before = prelude ++ middle ∧ parallelEvents = middle ++ deletion :: after :=
      fun split notVM => split_of_not_mem split fun member => notVM (onVM _ member)
    obtain ⟨-, fannedOut⟩ := deleteVMNicDisks_path_fanOut preludeRun.path
    refine ⟨fun before deletion after split deleting => ?_, ?_, ?_, ?_⟩
    · obtain ⟨middle, rfl, -⟩ :=
        later split (TeardownRequest.not_isVMRequest_of_isDependentDeletion deleting)
      rcases fannedOut with ⟨err, missing, rfl⟩ | ⟨vm, waited, rfl⟩
      · exact .inl ⟨err, missing, by simp⟩
      · exact .inr ⟨vm, by simp, by simp⟩
    · rintro (⟨err, found, member⟩ | ⟨deleteErr, member⟩) <;>
        rcases List.mem_append.mp member with member | member
      · rcases fannedOut with ⟨_, missing, rfl⟩ | ⟨vm, waited, rfl⟩
        · simp only [List.mem_singleton, Event.mk.injEq, heq_eq_eq, true_and] at member
          rw [Except.error.inj member, missing] at found
          cases found
        · simp at member
      · exact absurd (by simp [TeardownRequest.IsVMRequest]) (offVM _ member)
      · rcases fannedOut with ⟨_, -, rfl⟩ | ⟨vm, waited, rfl⟩ <;> simp at member
      · exact absurd (by simp [TeardownRequest.IsVMRequest]) (offVM _ member)
    · intro before deletion after split nicGroup deletedNic deletingNic
      obtain ⟨middle, rfl, parallelSplit⟩ :=
        later split (by simp [deletingNic, TeardownRequest.IsVMRequest])
      obtain ⟨_, _, _, _, _, found, -, path, earlier⟩ := parallel.attribution parallelSplit
      exact List.mem_append_right _ (earlier _ (deleter_path_deleteNIC found path deletingNic))
    · intro vmHoldingNic holding member
      rcases List.mem_append.mp member with member | member
      · exact absurd (onVM _ member) (by simp [TeardownRequest.IsVMRequest])
      obtain ⟨before, after, split⟩ := List.append_of_mem member
      obtain ⟨_, _, value, _, _, found, stored, path, -⟩ := parallel.attribution split
      intro succeeded
      exact deleter_path_attached found path holding (by simp)
        (runInParallel_eq_none.mp succeeded value (List.getElem?_mem stored))

theorem deleteVMNicDisks_orders_deletions_found :
    ∃ events, Teardown.Runs Program.anyAnswer
      (deleteVMNicDisks "rg" "machine" "machine-nic" "machine-os-disk" none) () events none () ∧
      ∀ vmHoldingNic, vmHoldingNic ≠ "" →
        (⟨.fetchAttachedVMfromNIC "rg" "machine-nic", .ok vmHoldingNic⟩ : TeardownEvent) ∉
          events := by
  have accepted : ∀ call answer,
      @Program.anyAnswer TeardownRequest TeardownRequest.Response call () answer () :=
    fun _ _ => trivial
  let machine : VirtualMachineRecord :=
    ⟨⟨"rg", "machine"⟩, [⟨"rg", "machine-nic"⟩], ⟨"rg", "machine-os-disk"⟩, []⟩
  have prelude : Program.Runs Program.anyAnswer
      (deleteVMNicDisks "rg" "machine" "machine-nic" "machine-os-disk" none) () _
      (.runInParallel (deleteVMNicDisks.deleters "rg" "machine-nic" "machine-os-disk" none)) () :=
    .request (accepted (.getVM "rg" "machine") (.ok machine))
      (.request (accepted (.waitForDataDiskDetachment "rg" machine) none)
      (.request (accepted (.deleteVM "rg" "machine") none) (.pure _ ())))
  have nicRun : Program.Runs Program.anyAnswer (nicDeleter "rg" "machine-nic") () _ none () :=
    .request (accepted (.fetchAttachedVMfromNIC "rg" "machine-nic") (.ok ""))
      (.request (accepted (.deleteNIC "rg" "machine-nic") none) (.pure _ ()))
  have diskRun : Program.Runs Program.anyAnswer (diskDeleter "rg" "machine-os-disk") () _ none () :=
    .request (accepted (.deleteDisk "rg" "machine-os-disk") none) (.pure _ ())
  have run :=
    Teardown.Runs.fanOut prelude (Parallel.cons nicRun (Parallel.cons diskRun (.done [] ())))
  rw [runInParallel_eq_none.mpr (by simp)] at run
  exact ⟨_, run, fun vmHoldingNic holding reported =>
    (deleteVMNicDisks_orders_deletions run).2.2.2 vmHoldingNic holding reported rfl⟩

end Parts

end AzureProvider
