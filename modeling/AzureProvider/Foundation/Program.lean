import Mathlib.Data.List.Basic

/-! # Programs that talk to services

The driver issues requests to the Azure clients and to the `spi` helpers and
branches on their answers. A `Program` keeps each request together with the
continuation that receives its answer, so that one definition covers every way
the services may answer. `Runs` executes a program against a relation saying
what a service may answer from a given state; `Parallel` interleaves several
programs over one shared state, the way `spi.RunInParallel` runs deleters.
-/

namespace AzureProvider

inductive Program (Request : Type) (Response : Request → Type) (α : Type) where
  | pure (value : α)
  | request (call : Request) (next : Response call → Program Request Response α)
  | panic (message : String)

/-- A request together with the answer it received. -/
structure Event (Request : Type) (Response : Request → Type) where
  call : Request
  answer : Response call

/-- What a service may answer to a request from a state, and the state it leaves. -/
abbrev Responder (Request : Type) (Response : Request → Type) (State : Type) :=
  (call : Request) → State → Response call → State → Prop

namespace Program

variable {Request : Type} {Response : Request → Type} {State α β : Type}

def bind : Program Request Response α → (α → Program Request Response β) →
    Program Request Response β
  | .pure value, next => next value
  | .request call rest, next => .request call fun answer => (rest answer).bind next
  | .panic message, _ => .panic message

instance : Monad (Program Request Response) where
  pure := .pure
  bind := bind

/-- Issue one request and return its answer. -/
def issue (call : Request) : Program Request Response (Response call) :=
  .request call .pure

@[simp] theorem pure_eq (value : α) :
    (Pure.pure value : Program Request Response α) = .pure value := rfl

@[simp] theorem pure_bind (value : α) (next : α → Program Request Response β) :
    (Program.pure value).bind next = next value := rfl

@[simp] theorem issue_bind_eq (call : Request) (next : Response call → Program Request Response β) :
    (issue call).bind next = .request call next := rfl

theorem bind_eq (program : Program Request Response α) (next : α → Program Request Response β) :
    (program >>= next) = program.bind next := rfl

@[simp] theorem issue_bind (call : Request)
    (next : Response call → Program Request Response β) :
    (issue call >>= next) = .request call next := rfl

/-- An answer that may fail is a failure or a value. -/
theorem forall_except {ε β : Type} {holds : Except ε β → Prop} :
    (∀ answer, holds answer) ↔ (∀ err, holds (.error err)) ∧ ∀ value, holds (.ok value) :=
  ⟨fun all => ⟨fun _ => all _, fun _ => all _⟩, fun ⟨failed, succeeded⟩ answer => by
    cases answer
    exacts [failed _, succeeded _]⟩

/-! ## Runs -/

/-- `Runs respond program state events value final`: answered as `respond`
allows, the program issues `events` and returns `value`, taking the state from
`state` to `final`. A program that panics has no run. -/
inductive Runs (respond : Responder Request Response State) :
    Program Request Response α → State → List (Event Request Response) → α → State → Prop
  | pure (value : α) (state : State) : Runs respond (.pure value) state [] value state
  | request {call : Request} {next : Response call → Program Request Response α}
      {state : State} {answer : Response call} {middle : State}
      {events : List (Event Request Response)} {value : α} {final : State} :
      respond call state answer middle →
      Runs respond (next answer) middle events value final →
      Runs respond (.request call next) state (⟨call, answer⟩ :: events) value final

/-- The responder that allows every answer and keeps no state. -/
def anyAnswer : Responder Request Response Unit := fun _ _ _ _ => True

/-- The runs in which every answer is possible: the program's own control flow,
whatever the services do. -/
def Path (program : Program Request Response α) (events : List (Event Request Response))
    (value : α) : Prop :=
  Runs anyAnswer program () events value ()

variable {respond : Responder Request Response State}

theorem Runs.path {program : Program Request Response α} {state final : State}
    {events : List (Event Request Response)} {value : α}
    (run : Runs respond program state events value final) : Path program events value := by
  induction run with
  | pure value _ => exact .pure value ()
  | request _ _ induction => exact .request trivial induction

@[simp] theorem path_pure {value result : α} {events : List (Event Request Response)} :
    Path (.pure value) events result ↔ events = [] ∧ result = value := by
  constructor
  · rintro ⟨⟩
    exact ⟨rfl, rfl⟩
  · rintro ⟨rfl, rfl⟩
    exact .pure _ ()

@[simp] theorem path_request {call : Request} {next : Response call → Program Request Response α}
    {events : List (Event Request Response)} {value : α} :
    Path (.request call next) events value ↔
      ∃ answer rest, events = ⟨call, answer⟩ :: rest ∧ Path (next answer) rest value := by
  constructor
  · rintro (_ | ⟨_, rest⟩)
    exact ⟨_, _, rfl, rest⟩
  · rintro ⟨answer, rest, rfl, path⟩
    exact .request trivial path

@[simp] theorem path_issue {call : Request} {events : List (Event Request Response)}
    {answer : Response call} : Path (issue call) events answer ↔ events = [⟨call, answer⟩] := by
  simp only [issue, path_request, path_pure]
  constructor
  · rintro ⟨_, _, rfl, rfl, rfl⟩
    rfl
  · rintro rfl
    exact ⟨_, _, rfl, rfl, rfl⟩

@[simp] theorem path_panic {message : String} {events : List (Event Request Response)}
    {value : α} : ¬ Path (.panic message) events value := by
  rintro ⟨⟩

@[simp] theorem runs_pure {value result : α} {state final : State}
    {events : List (Event Request Response)} :
    Runs respond (.pure value) state events result final ↔
      events = [] ∧ result = value ∧ final = state := by
  constructor
  · rintro ⟨⟩
    exact ⟨rfl, rfl, rfl⟩
  · rintro ⟨rfl, rfl, rfl⟩
    exact .pure _ _

@[simp] theorem runs_request {call : Request} {next : Response call → Program Request Response α}
    {state final : State} {events : List (Event Request Response)} {value : α} :
    Runs respond (.request call next) state events value final ↔
      ∃ answer middle rest, events = ⟨call, answer⟩ :: rest ∧ respond call state answer middle ∧
        Runs respond (next answer) middle rest value final := by
  constructor
  · rintro (_ | ⟨responded, rest⟩)
    exact ⟨_, _, _, rfl, responded, rest⟩
  · rintro ⟨answer, middle, rest, rfl, responded, run⟩
    exact .request responded run

/-- A run that issues nothing returns at once and leaves the state alone. -/
theorem Runs.state_eq_of_nil {program : Program Request Response α} {state final : State}
    {value : α} (run : Runs respond program state [] value final) : final = state := by
  cases run
  rfl

/-- The state a run ends in is one its last request may leave. -/
theorem Runs.last {program : Program Request Response α} {state final : State}
    {before : List (Event Request Response)} {last : Event Request Response} {value : α}
    (run : Runs respond program state (before ++ [last]) value final) :
    ∃ middle, respond last.call middle last.answer final := by
  induction before generalizing program state with
  | nil =>
      cases run with
      | request responded rest => exact ⟨state, rest.state_eq_of_nil ▸ responded⟩
  | cons event before induction =>
      cases run with
      | request _ rest => exact induction rest

/-! ## Contracts over every answer -/

/-- `program.Meets allowed post panics`: whatever the answers, every request the
program issues satisfies `allowed`, every value it returns satisfies `post`, and
it reaches a panic only if `panics` holds. -/
def Meets (allowed : Request → Prop) (post : α → Prop) (panics : Prop) :
    Program Request Response α → Prop
  | .pure value => post value
  | .request call next => allowed call ∧ ∀ answer, (next answer).Meets allowed post panics
  | .panic _ => panics

end Program

/-! ## Programs that run an automaton -/

section Automaton

variable {σ : Type} {step : σ → Event Request Response → σ → Prop}

/-- `Accepts step first events last`: the automaton `step` goes from `first` to
`last` through `events`. -/
inductive Accepts (step : σ → Event Request Response → σ → Prop) :
    σ → List (Event Request Response) → σ → Prop
  | nil (stage : σ) : Accepts step stage [] stage
  | cons {stage middle last : σ} {event : Event Request Response}
      {events : List (Event Request Response)} :
      step stage event middle → Accepts step middle events last →
      Accepts step stage (event :: events) last

/-- A run through `first ++ second` passes a stage between the two parts. -/
theorem Accepts.split {first second : List (Event Request Response)} {stage last : σ}
    (run : Accepts step stage (first ++ second) last) :
    ∃ middle, Accepts step stage first middle ∧ Accepts step middle second last := by
  induction first generalizing stage with
  | nil => exact ⟨stage, .nil stage, run⟩
  | cons event first induction =>
      cases run with
      | cons stepped rest =>
          obtain ⟨middle, before, after⟩ := induction rest
          exact ⟨middle, .cons stepped before, after⟩

/-- What holds of a stage and the events before it, and every step keeps, holds
at the end of every run. -/
theorem Accepts.invariant (holds : σ → List (Event Request Response) → Prop)
    (preserved : ∀ stage event next history,
      holds stage history → step stage event next → holds next (history ++ [event]))
    {stage last : σ} {history events : List (Event Request Response)}
    (run : Accepts step stage events last) (initially : holds stage history) :
    holds last (history ++ events) := by
  induction run generalizing history with
  | nil => simpa using initially
  | cons stepped _ induction => simpa using induction (preserved _ _ _ _ initially stepped)

/-- A property of the stage that every step through an allowed event keeps holds
at the end of every run through allowed events. -/
theorem Accepts.preserves (holds : σ → Prop) (allowed : Event Request Response → Prop)
    (preserved : ∀ stage event next,
      allowed event → holds stage → step stage event next → holds next)
    {stage last : σ} {events : List (Event Request Response)}
    (run : Accepts step stage events last) (allowedAll : ∀ event ∈ events, allowed event)
    (initially : holds stage) : holds last := by
  induction run with
  | nil => exact initially
  | cons stepped _ induction =>
      exact induction (fun event member => allowedAll event (List.mem_cons_of_mem _ member))
        (preserved _ _ _ (allowedAll _ (List.mem_cons_self _ _)) initially stepped)

/-- What one event of a run establishes, and every step through an allowed event
keeps, holds at the end of the run. -/
theorem Accepts.established (holds : σ → Prop) (allowed : Event Request Response → Prop)
    (preserved : ∀ stage event next,
      allowed event → holds stage → step stage event next → holds next)
    {event : Event Request Response}
    (establishes : ∀ stage next, step stage event next → holds next)
    {stage last : σ} {events : List (Event Request Response)}
    (run : Accepts step stage events last) (allowedAll : ∀ event ∈ events, allowed event)
    (member : event ∈ events) : holds last := by
  induction run with
  | nil => cases member
  | cons stepped rest induction =>
      have allowedRest := fun event member => allowedAll event (List.mem_cons_of_mem _ member)
      rcases List.mem_cons.mp member with rfl | later
      · exact rest.preserves holds allowed preserved allowedRest (establishes _ _ stepped)
      · exact induction allowedRest later

/-- Every event of a run through allowed events is good, when every allowed step
from a stage where `holds` holds is good and keeps `holds`. -/
theorem Accepts.forall_mem (holds : σ → Prop) (good allowed : Event Request Response → Prop)
    (preserved : ∀ stage event next,
      allowed event → holds stage → step stage event next → good event ∧ holds next)
    {stage last : σ} {events : List (Event Request Response)}
    (run : Accepts step stage events last) (allowedAll : ∀ event ∈ events, allowed event)
    (initially : holds stage) : ∀ event ∈ events, good event := by
  induction run with
  | nil => exact fun _ => nofun
  | cons stepped _ induction =>
      obtain ⟨isGood, next⟩ :=
        preserved _ _ _ (allowedAll _ (List.mem_cons_self _ _)) initially stepped
      exact List.forall_mem_cons.mpr ⟨isGood,
        induction (fun event member => allowedAll event (List.mem_cons_of_mem _ member)) next⟩

namespace Program

/-- A run of a program is a run of the automaton whose steps are the responder's
answers. -/
theorem Runs.accepts {respond : Responder Request Response State}
    {program : Program Request Response α} {state final : State}
    {events : List (Event Request Response)} {value : α}
    (run : Runs respond program state events value final) :
    Accepts (fun state event after => respond event.call state event.answer after) state events
      final := by
  induction run with
  | pure => exact .nil _
  | request responded _ induction => exact .cons responded induction

/-- `program.Follows step post panics stage`: whatever the answers, the program
runs the automaton `step` from `stage`: each event it produces is a step, each
value it returns satisfies `post` at the stage reached, and it reaches a panic
only at a stage where `panics` holds. -/
def Follows (step : σ → Event Request Response → σ → Prop) (post : σ → α → Prop)
    (panics : σ → Prop) : σ → Program Request Response α → Prop
  | stage, .pure value => post stage value
  | stage, .request call next => ∀ answer, ∃ following, step stage ⟨call, answer⟩ following ∧
      (next answer).Follows step post panics following
  | stage, .panic _ => panics stage

variable {panics : σ → Prop}

/-- A block that runs the automaton, followed by a continuation that runs it on
from wherever the block left it, runs the automaton. -/
theorem Follows.bind {post : σ → α → Prop} {post' : σ → β → Prop}
    {program : Program Request Response α} {next : α → Program Request Response β} {stage : σ}
    (first : program.Follows step post panics stage)
    (rest : ∀ stage value, post stage value → (next value).Follows step post' panics stage) :
    (program.bind next).Follows step post' panics stage := by
  induction program generalizing stage with
  | pure value => exact rest _ _ first
  | request call following induction =>
      intro answer
      obtain ⟨middle, stepped, continues⟩ := first answer
      exact ⟨middle, stepped, induction answer continues⟩
  | panic _ => exact first

/-- Every path of a program that runs the automaton is a run of the automaton,
ending at a stage where `post` holds of the value returned. -/
theorem Follows.path {post : σ → α → Prop} {program : Program Request Response α} {stage : σ}
    {events : List (Event Request Response)} {value : α}
    (follows : program.Follows step post panics stage) (path : Path program events value) :
    ∃ last, Accepts step stage events last ∧ post last value := by
  induction program generalizing stage events with
  | pure value =>
      obtain ⟨rfl, rfl⟩ := path_pure.mp path
      exact ⟨stage, .nil stage, follows⟩
  | request call next induction =>
      obtain ⟨answer, rest, rfl, restPath⟩ := path_request.mp path
      obtain ⟨following, stepped, continues⟩ := follows answer
      obtain ⟨last, run, holds⟩ := induction answer continues restPath
      exact ⟨last, .cons stepped run, holds⟩
  | panic _ => exact absurd path path_panic

end Program

end Automaton

/-! ## Interleaving -/

/-- `Parallel respond threads state events values final`: the threads run
concurrently over one state. Each event is one request of one thread that has
not returned yet, in any order; `values` are what the threads returned. -/
inductive Parallel (respond : Responder Request Response State) :
    List (Program Request Response α) → State → List (Event Request Response) → List α →
      State → Prop
  | done (values : List α) (state : State) :
      Parallel respond (values.map .pure) state [] values state
  | step {threads : List (Program Request Response α)} {index : Nat} {call : Request}
      {next : Response call → Program Request Response α} {state : State}
      {answer : Response call} {middle : State} {events : List (Event Request Response)}
      {values : List α} {final : State} :
      threads[index]? = some (.request call next) →
      respond call state answer middle →
      Parallel respond (threads.set index (next answer)) middle events values final →
      Parallel respond threads state (⟨call, answer⟩ :: events) values final

/-- The events of one thread, out of a trace whose events are tagged with the
position of the thread that issued them. -/
def project (index : Nat) (tagged : List (Nat × Event Request Response)) :
    List (Event Request Response) :=
  tagged.filterMap fun event => if event.1 = index then some event.2 else none

@[simp] theorem project_nil (index : Nat) :
    project index ([] : List (Nat × Event Request Response)) = [] := rfl

theorem project_cons (index : Nat) (event : Nat × Event Request Response)
    (tagged : List (Nat × Event Request Response)) :
    project index (event :: tagged) =
      if event.1 = index then event.2 :: project index tagged else project index tagged := by
  by_cases same : event.1 = index <;> simp [project, same]

theorem project_append (index : Nat) (first second : List (Nat × Event Request Response)) :
    project index (first ++ second) = project index first ++ project index second :=
  List.filterMap_append _ _ _

theorem mem_project {index : Nat} {event : Event Request Response}
    {tagged : List (Nat × Event Request Response)} :
    event ∈ project index tagged ↔ (index, event) ∈ tagged := by
  simp [project]

namespace Parallel

variable {respond : Responder Request Response State}

/-- A property of the whole configuration that every step of every thread keeps
holds when all threads have returned. -/
theorem invariant (holds : List (Program Request Response α) → State → Prop)
    (preserved : ∀ threads state index call next answer middle,
      holds threads state → threads[index]? = some (.request call next) →
      respond call state answer middle → holds (threads.set index (next answer)) middle)
    {threads : List (Program Request Response α)} {state final : State}
    {events : List (Event Request Response)} {values : List α}
    (run : Parallel respond threads state events values final) (initially : holds threads state) :
    holds (values.map .pure) final := by
  induction run with
  | done => exact initially
  | step found responded _ induction =>
      exact induction (preserved _ _ _ _ _ _ _ initially found responded)

theorem length_eq {threads : List (Program Request Response α)} {state final : State}
    {events : List (Event Request Response)} {values : List α}
    (run : Parallel respond threads state events values final) :
    values.length = threads.length := by
  induction run with
  | done => simp
  | step _ _ _ induction => simpa using induction

/-- A thread that has returned can stand in front of the others. -/
theorem cons_pure {threads : List (Program Request Response α)} {state final : State}
    {events : List (Event Request Response)} {values : List α} (value : α)
    (run : Parallel respond threads state events values final) :
    Parallel respond (.pure value :: threads) state events (value :: values) final := by
  induction run with
  | done values state => exact .done (value :: values) state
  | step found responded _ induction =>
      exact .step (List.getElem?_cons_succ.trans found) responded induction

/-- One interleaving runs the first thread to completion and then the others. -/
theorem cons {thread : Program Request Response α} {threads : List (Program Request Response α)}
    {state middle final : State} {own events : List (Event Request Response)} {value : α}
    {values : List α} (first : Program.Runs respond thread state own value middle)
    (rest : Parallel respond threads middle events values final) :
    Parallel respond (thread :: threads) state (own ++ events) (value :: values) final := by
  induction first with
  | pure value _ => exact rest.cons_pure value
  | request responded _ induction =>
      exact .step List.getElem?_cons_zero responded (induction rest)

/-- Every interleaving is a shuffle of runs of the threads: tagging each event
with its thread, the events of one thread form one of that thread's paths, ending
in the value it returned. -/
theorem interleaving {threads : List (Program Request Response α)} {state final : State}
    {events : List (Event Request Response)} {values : List α}
    (run : Parallel respond threads state events values final) :
    ∃ tagged : List (Nat × Event Request Response), tagged.map Prod.snd = events ∧
      (∀ event ∈ tagged, event.1 < threads.length) ∧
      ∀ index program, threads[index]? = some program →
        ∃ value, values[index]? = some value ∧
          Program.Path program (project index tagged) value := by
  induction run with
  | done values _ =>
      refine ⟨[], rfl, by simp, fun index program found => ?_⟩
      simp only [List.getElem?_map, Option.map_eq_some'] at found
      obtain ⟨value, stored, rfl⟩ := found
      exact ⟨value, stored, Program.path_pure.mpr ⟨rfl, rfl⟩⟩
  | @step threads stepped call next _ answer _ _ _ _ found _ _ induction =>
      obtain ⟨tagged, mapped, bounded, paths⟩ := induction
      have within : stepped < threads.length := (List.getElem?_eq_some_iff.mp found).1
      refine ⟨(stepped, ⟨call, answer⟩) :: tagged, by simp [mapped], ?_,
        fun index program held => ?_⟩
      · simpa [within] using bounded
      rw [project_cons]
      by_cases same : stepped = index
      · subst index
        obtain ⟨value, stored, path⟩ := paths stepped (next answer) (List.getElem?_set_self within)
        rw [found] at held
        cases held
        exact ⟨value, stored, by simpa using Program.path_request.mpr ⟨answer, _, rfl, path⟩⟩
      · simpa [same] using paths index program (by rwa [List.getElem?_set_ne same])

/-- Each event of an interleaving belongs to one thread: it lies on a path of
that thread, whose earlier events all come earlier in the interleaving. -/
theorem attribution {threads : List (Program Request Response α)} {state final : State}
    {events before after : List (Event Request Response)} {event : Event Request Response}
    {values : List α} (run : Parallel respond threads state events values final)
    (split : events = before ++ event :: after) :
    ∃ (index : Nat) (program : Program Request Response α) (value : α)
      (ownBefore ownAfter : List (Event Request Response)), threads[index]? = some program ∧
      values[index]? = some value ∧
      Program.Path program (ownBefore ++ event :: ownAfter) value ∧
      ∀ earlier ∈ ownBefore, earlier ∈ before := by
  obtain ⟨tagged, mapped, bounded, paths⟩ := run.interleaving
  rw [split, List.map_eq_append_iff] at mapped
  obtain ⟨taggedBefore, taggedRest, rfl, mappedBefore, mappedRest⟩ := mapped
  obtain ⟨⟨index, owned⟩, taggedAfter, rfl, rfl, -⟩ := List.map_eq_cons_iff.mp mappedRest
  have within : index < threads.length := bounded (index, owned) (by simp)
  obtain ⟨program, found⟩ : ∃ program, threads[index]? = some program :=
    ⟨_, List.getElem?_eq_getElem within⟩
  obtain ⟨value, stored, path⟩ := paths index program found
  rw [project_append, project_cons, if_pos rfl] at path
  refine ⟨index, program, value, _, _, found, stored, path, fun earlier member => ?_⟩
  rw [← mappedBefore]
  exact List.mem_map.mpr ⟨(index, earlier), mem_project.mp member, rfl⟩

/-- When each thread's value is characterised by its own events, the values of a
whole run are characterised by all of its events, whatever the interleaving. -/
theorem forall_values_iff {good : α → Prop} {fine : Event Request Response → Prop}
    {threads : List (Program Request Response α)} {state final : State}
    {events : List (Event Request Response)} {values : List α}
    (each : ∀ (index : Nat) program own value, threads[index]? = some program →
      Program.Path program own value → (good value ↔ ∀ event ∈ own, fine event))
    (run : Parallel respond threads state events values final) :
    (∀ value ∈ values, good value) ↔ ∀ event ∈ events, fine event := by
  obtain ⟨tagged, rfl, bounded, paths⟩ := run.interleaving
  constructor
  · intro allGood _ member
    obtain ⟨⟨index, event⟩, tagMember, rfl⟩ := List.mem_map.mp member
    have found := List.getElem?_eq_getElem (bounded _ tagMember)
    obtain ⟨value, stored, path⟩ := paths index _ found
    exact (each _ _ _ _ found path).mp (allGood value (List.getElem?_mem stored)) _
      (mem_project.mpr tagMember)
  · intro allFine value member
    obtain ⟨index, within, rfl⟩ := List.getElem_of_mem member
    have found := List.getElem?_eq_getElem (run.length_eq ▸ within)
    obtain ⟨value, stored, path⟩ := paths index _ found
    rw [List.getElem?_eq_getElem within, Option.some.injEq] at stored
    exact stored ▸ (each _ _ _ _ found path).mpr fun event own =>
      allFine event (List.mem_map_of_mem _ (mem_project.mp own))

end Parallel

end AzureProvider
