import TaskAgent.Proofs.Agent.Trace

/-!
# Whatever can happen to an agent

Runners move independently of each other, and time passes as it likes. A law that does not depend
on the order in which an agent lets its runners move is proved for every passage of an agent
(`Agent.Passage`): in each moment something is asked of the worker, the world changes, or some
runner makes its next move. What an agent does of itself in the course of a session is such a
passage (`Agent.Course.passage`).
-/

namespace TaskAgent.Agent

variable {start agent final changed : Agent} {past events : List Event}

/-- What can happen in a moment, in no particular order, and the events of the worker in it. -/
inductive Occurs (agent : Agent) : List Event → Agent → Prop where
  /-- Something is asked of the worker. -/
  | asked {event : Event} {worker : Worker} (outside : event.mover? = none)
      (stepped : agent.worker.step? event = some worker) :
      Occurs agent [event] { agent with worker }
  /-- The world changes. -/
  | elsewhere (world : World) : Occurs agent [] { agent with world }
  /-- A runner moves. -/
  | moved {number : Nat} {changed : Agent} (moves : agent.move? number = some changed) :
      Occurs agent (agent.event? number).toList changed

/-- What becomes of an agent in the course of time, and the events of its worker until then. -/
inductive Passage (start : Agent) : List Event → Agent → Prop where
  | rest : Passage start [] start
  | next {past events : List Event} {before after : Agent} (passage : Passage start past before)
      (occurs : before.Occurs events after) : Passage start (past ++ events) after

theorem Happens.occurs (happens : agent.Happens events changed) : agent.Occurs events changed := by
  cases happens with
  | asked outside stepped => exact .asked outside stepped
  | elsewhere world => exact .elsewhere world
  | moved first moves => exact .moved moves

theorem Occurs.run? (occurs : agent.Occurs events changed) :
    agent.worker.run? events = some changed.worker := by
  cases occurs with
  | asked outside stepped =>
      rw [Worker.run?_cons_of_step? stepped]
      rfl
  | elsewhere world => rfl
  | moved moves => exact run?_of_move? moves

namespace Passage

theorem single (occurs : agent.Occurs events changed) : agent.Passage events changed := by
  simpa using Passage.next .rest occurs

theorem trans (earlier : start.Passage past agent) (passage : agent.Passage events final) :
    start.Passage (past ++ events) final := by
  induction passage with
  | rest => simpa using earlier
  | next passage occurs ih =>
      rw [← List.append_assoc]
      exact .next ih occurs

theorem run? (passage : start.Passage past agent) :
    start.worker.run? past = some agent.worker := by
  induction passage with
  | rest => rfl
  | next passage occurs ih => rw [Worker.run?_append, ih, Option.bind_some, occurs.run?]

end Passage

theorem Course.passage (course : Course agent events final) : agent.Passage events final := by
  induction course with
  | rest agent => exact .rest
  | next happens course ih => exact (Passage.single happens.occurs).trans ih

end TaskAgent.Agent
