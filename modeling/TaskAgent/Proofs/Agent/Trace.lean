import TaskAgent.Agent.Session
import TaskAgent.Proofs.Agent.Settling

/-!
# The trace of a session

What an agent does in a session is told as the events of its worker, in order: those that an action
asks for and the steps in the moves that the agent makes (`Session.trace`). The trace is a run of
the worker, so every law of runs holds of sessions.

A law that depends on the order in which an agent lets its runners move is proved for what can
happen to an agent in one moment (`Agent.Happens`) and carried along the trace by
`Agent.Course.keeps`.
-/

namespace TaskAgent

namespace Agent

/-- The step of the worker in the next step of the agent. -/
def stepEvents (patient : Bool) (agent : Agent) : List Event :=
  ((agent.ready patient).mover?.bind (agent.ready patient).event?).toList

/-- The steps of the worker in at most so many moves. -/
def eventsUpTo (patient : Bool) : Nat → Agent → List Event
  | 0, _ => []
  | moves + 1, agent =>
    match agent.step? patient with
    | some moved => agent.stepEvents patient ++ eventsUpTo patient moves moved
    | none => []

/-- The steps of the worker until the agent has settled. -/
def settleEvents (agent : Agent) : List Event := eventsUpTo false agent.cost agent

/-- What can happen to an agent in a moment, and the events of its worker in it. -/
inductive Happens (agent : Agent) : List Event → Agent → Prop where
  /-- Something is asked of the worker. -/
  | asked {event : Event} {worker : Worker} (outside : event.mover? = none)
      (stepped : agent.worker.step? event = some worker) :
      Happens agent [event] { agent with worker }
  /-- The world changes. -/
  | elsewhere (world : World) : Happens agent [] { agent with world }
  /-- The first runner that can move does so. -/
  | moved {number : Nat} {moved : Agent} (first : agent.mover? = some number)
      (moves : agent.move? number = some moved) :
      Happens agent (agent.event? number).toList moved

/-- What happens to an agent in the course of time. -/
inductive Course : Agent → List Event → Agent → Prop where
  | rest (agent : Agent) : Course agent [] agent
  | next {agent changed final : Agent} {events later : List Event}
      (happens : agent.Happens events changed) (course : Course changed later final) :
      Course agent (events ++ later) final

variable {agent changed final : Agent} {events later : List Event}

theorem Happens.run? (happens : agent.Happens events changed) :
    agent.worker.run? events = some changed.worker := by
  cases happens with
  | asked outside stepped =>
      rw [Worker.run?_cons_of_step? stepped]
      rfl
  | elsewhere world => rfl
  | moved first moves => exact run?_of_move? moves

namespace Course

theorem single (happens : agent.Happens events changed) : Course agent events changed := by
  simpa using Course.next happens (.rest changed)

theorem trans (earlier : Course agent events changed) (course : Course changed later final) :
    Course agent (events ++ later) final := by
  induction earlier with
  | rest agent => exact course
  | next happens rest ih =>
      rw [List.append_assoc]
      exact .next happens (ih course)

theorem run? (course : Course agent events final) :
    agent.worker.run? events = some final.worker := by
  induction course with
  | rest agent => rfl
  | next happens rest ih => rw [Worker.run?_append, happens.run?, Option.bind_some, ih]

/-- What holds at first and is kept whatever happens holds at the end. -/
theorem keeps {motive : List Event → Agent → Prop} (course : Course agent events final)
    (past : List Event) (initially : motive past agent)
    (kept : ∀ past before events after, Happens before events after → motive past before →
      motive (past ++ events) after) :
    motive (past ++ events) final := by
  induction course generalizing past with
  | rest agent => simpa using initially
  | next happens rest ih =>
      rw [← List.append_assoc]
      exact ih _ (kept _ _ _ _ happens initially)

end Course

theorem course_ready (patient : Bool) (agent : Agent) : Course agent [] (agent.ready patient) := by
  rcases agent.ready_cases patient with same | ⟨time, same⟩
  · rw [same]
    exact .rest agent
  · rw [same]
    exact .single (.elsewhere _)

theorem course_step? {patient : Bool} (stepped : agent.step? patient = some changed) :
    Course agent (agent.stepEvents patient) changed := by
  rcases exists_of_step? stepped with ⟨number, first, moves⟩
  have course := (agent.course_ready patient).trans (.single (.moved first moves))
  simpa [stepEvents, first] using course

theorem course_moveUpTo (patient : Bool) (moves : Nat) (agent : Agent) :
    Course agent (eventsUpTo patient moves agent) (moveUpTo patient moves agent) := by
  induction moves generalizing agent with
  | zero => exact .rest agent
  | succ moves ih =>
      rw [eventsUpTo, moveUpTo]
      cases stepped : agent.step? patient with
      | none => exact .rest agent
      | some moved => exact (course_step? stepped).trans (ih moved)

theorem course_settle (agent : Agent) : Course agent agent.settleEvents agent.settle :=
  course_moveUpTo ..

theorem exists_mover?_of_stepEvents {patient : Bool} {event : Event}
    (member : event ∈ agent.stepEvents patient) : ∃ number, event.mover? = some number := by
  rw [stepEvents, Option.mem_toList, Option.bind_eq_some_iff] at member
  rcases member with ⟨number, first, tells⟩
  have moves : ((agent.ready patient).move? number).isSome = true := by
    simpa using List.find?_some first
  rcases Option.isSome_iff_exists.mp moves with ⟨moved, moves⟩
  rcases exists_of_move? moves with ⟨runner, -, moves⟩
  rw [tells] at moves
  exact ⟨number, moves.mover?_eq⟩

/-- An agent that settles is asked for nothing. -/
theorem exists_mover?_of_settleEvents {event : Event} (member : event ∈ agent.settleEvents) :
    ∃ number, event.mover? = some number := by
  unfold settleEvents at member
  generalize agent.cost = moves at member
  induction moves generalizing agent with
  | zero => cases member
  | succ moves ih =>
      rw [eventsUpTo] at member
      split at member
      · rcases List.mem_append.mp member with here | later
        · exact exists_mover?_of_stepEvents here
        · exact ih later
      · cases member

end Agent

/-- Whether an action has nothing to do with a master. -/
def Action.isLocal : Action → Bool
  | register _ | beat _ | registerUntilOk _ _ | beatUntilShutDown _ => false
  | _ => true

/-- Whether an action tells how a task ended in place of its runner. -/
def Action.isDeclaration : Action → Bool
  | complete _ _ | fail _ _ => true
  | _ => false

/-- Whether the agent has settled at the end of an action. -/
def Action.settles : Action → Bool
  | settle | release _ => true
  | _ => false

namespace Session

/-- The events of the worker in an action without a master. -/
def events (session : Session) : Action → List Event
  | .submit submission => [.submit submission]
  | .settle => session.agent.settleEvents
  | .release gate =>
    session.agent.settleEvents ++ (session.agent.settle.openGate gate).settleEvents
  | .cancel key => [.cancel key]
  | .complete key result => [.complete key result]
  | .fail key message => [.fail key message]
  | .drain _ => [.drain]
  | .restore records => [.restore records]
  | .restoreKept name => [.restore ((session.kept.find? name).getD [])]
  | .close => [.close]
  | .registerJob name definition => [.register name definition]
  | .unfinished | .address | .jobNames => []
  | .register _ | .beat _ | .registerUntilOk _ _ | .beatUntilShutDown _ => []

/-- The session after actions in turn. -/
def performed (session : Session) : List Action → Session
  | [] => session
  | action :: rest => (session.perform action).2.performed rest

/-- The events of the worker in actions in turn. -/
def trace (session : Session) : List Action → List Event
  | [] => []
  | action :: rest => session.events action ++ (session.perform action).2.trace rest

variable {session : Session} {action : Action} {actions : List Action}

theorem performed_append (session : Session) (earlier later : List Action) :
    session.performed (earlier ++ later) = (session.performed earlier).performed later := by
  induction earlier generalizing session with
  | nil => rfl
  | cons action rest ih => exact ih _

/-- In an action without a master the agent takes the course that is told. -/
theorem course_perform (alone : action.isLocal = true) :
    session.agent.Course (session.events action) (session.perform action).2.agent := by
  cases action with
  | submit submission => exact .single (.asked rfl rfl)
  | settle => exact session.agent.course_settle
  | release gate =>
      refine session.agent.course_settle.trans ?_
      exact .next (.elsewhere _) (Agent.course_settle _)
  | cancel key => exact .single (.asked rfl rfl)
  | complete key result =>
      simp only [perform, reported]
      cases after : session.agent.worker.complete key result with
      | ok worker => exact .single (.asked rfl (by simp [Worker.step?, after]))
      | error fault => exact .single (.asked rfl (by simp [Worker.step?, after]))
  | fail key message =>
      simp only [perform, reported]
      cases after : session.agent.worker.fail key message with
      | ok worker => exact .single (.asked rfl (by simp [Worker.step?, after]))
      | error fault => exact .single (.asked rfl (by simp [Worker.step?, after]))
  | drain name => cases name <;> exact .single (.asked rfl rfl)
  | restore records => exact .single (.asked rfl rfl)
  | restoreKept name => exact .single (.asked rfl rfl)
  | unfinished => exact .rest _
  | address => exact .rest _
  | close => exact .single (.asked rfl rfl)
  | registerJob name definition => exact .single (.asked rfl rfl)
  | jobNames => exact .rest _
  | _ => cases alone

theorem course_performed (alone : ∀ action ∈ actions, action.isLocal = true) :
    session.agent.Course (session.trace actions) (session.performed actions).agent := by
  induction actions generalizing session with
  | nil => exact .rest _
  | cons action rest ih =>
      have first : session.agent.Course (session.events action)
          (session.perform action).2.agent := course_perform (alone action List.mem_cons_self)
      exact first.trans (ih fun other inRest => alone other (List.mem_cons_of_mem _ inRest))

/-- An agent that was let go until it settled has settled. -/
theorem isSettled_perform (settles : action.settles = true) :
    (session.perform action).2.agent.IsSettled := by
  cases action with
  | settle => exact Agent.isSettled_settle _
  | release gate => exact Agent.isSettled_settle _
  | _ => cases settles

theorem isSettled_performed (last : actions.getLast? = some action)
    (settles : action.settles = true) : (session.performed actions).agent.IsSettled := by
  rcases List.getLast?_eq_some_iff.mp last with ⟨earlier, rfl⟩
  rw [performed_append]
  exact isSettled_perform settles

theorem isDeclaration_of_mem_settleEvents {agent : Agent} {event : Event}
    (member : event ∈ agent.settleEvents) : event.isDeclaration = false := by
  rcases Agent.exists_mover?_of_settleEvents member with ⟨number, mover⟩
  exact Event.isDeclaration_of_mover? mover

/-- The trace declares the end of a task only where an action does. -/
theorem isDeclaration_of_mem_trace (own : ∀ action ∈ actions, action.isDeclaration = false) :
    ∀ event ∈ session.trace actions, event.isDeclaration = false := by
  induction actions generalizing session with
  | nil => exact fun event member => nomatch member
  | cons action rest ih =>
      intro event member
      rcases List.mem_append.mp member with here | later
      · have own := own action List.mem_cons_self
        cases action with
        | settle => exact isDeclaration_of_mem_settleEvents here
        | release gate =>
            rcases List.mem_append.mp here with before | after
            · exact isDeclaration_of_mem_settleEvents before
            · exact isDeclaration_of_mem_settleEvents after
        | complete key result => cases own
        | fail key message => cases own
        | unfinished => cases here
        | address => cases here
        | jobNames => cases here
        | register replies => cases here
        | beat replies => cases here
        | registerUntilOk replies asked => cases here
        | beatUntilShutDown replies => cases here
        | _ =>
            rw [List.mem_singleton.mp here]
            rfl
      · exact ih (fun other inRest => own other (List.mem_cons_of_mem _ inRest)) event later

end Session

end TaskAgent
