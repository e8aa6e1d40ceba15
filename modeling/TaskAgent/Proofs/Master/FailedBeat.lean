import TaskAgent.Proofs.Master.Reporter
import TaskAgent.Proofs.Worker.Restore

/-!
# Failed heartbeats

A heartbeat that is not answered with orders leaves the worker as it would be if the heartbeat had
never been sent, whatever happened to the worker in the meantime
(`Reporter.failed_beat_is_invisible`). The same is true when the master does not know the agent,
no matter what comes of the registration that follows.
-/

namespace TaskAgent

namespace Reporter

variable {reporter : Reporter} {worker : Worker} {figures : MachineFigures} {sent : Progress}
  {message : Heartbeat}

/-- A heartbeat without success does to the worker and to the number of the agent what no
heartbeat does, and carries out no command. If the master does not know the agent, only the
number is lost. One command that is ill-formed makes the whole answer a failure. -/
theorem failed_beat_is_invisible {pool : Pool} {registry : Registry} {address : Address}
    {past events : List Event}
    (reached : (Worker.make pool registry address).run? past = some worker)
    (asked : sent = reporter.beat figures worker ∨
      ∃ scratch reply, sent = reporter.hear scratch figures worker reply)
    (beats : sent.turn = .ask (.heartbeat message))
    (single : ∀ event ∈ events, event.isTransfer = false) :
    sent.reporter.agent = some message.agent ∧
    (∀ reply : Reply, reply.IsFailure → ∃ error, ∀ scratch figures,
      (sent.worker.run? events).map (sent.reporter.hear scratch figures · reply) =
        (worker.run? events).map fun unbeaten =>
          ⟨⟨sent.reporter.agent, .idle⟩, unbeaten, .done (.error error)⟩) ∧
    (∀ scratch figures body,
      (sent.worker.run? events).map (sent.reporter.hear scratch figures · (.answered 404 body)) =
        (worker.run? events).map fun unbeaten =>
          ⟨⟨none, .registering false⟩, unbeaten, .ask (.registration unbeaten.registration)⟩) ∧
    (∀ scratch figures body more reply, ((sent.worker.run? events).bind fun during =>
      let unknown := sent.reporter.hear scratch figures during (.answered 404 body)
      (unknown.worker.run? more).map fun later =>
        (unknown.reporter.hear scratch figures later reply).worker) =
          worker.run? (events ++ more)) ∧
    ∀ status body written elements element, Reply.isSuccess status = true →
      Json.read? body.toList = some written → ListsCommands elements written →
        element ∈ elements → Command.read? (Json.greatestNesting - 2) element = none →
          (Reply.answered status body).IsFailure := by
  have keyed := Worker.keyed_of_run? reached (Tracker.keyed_ofAddress address)
  have unbeaten := Worker.run?_drain keyed single
  rcases eq_send_of_beats asked beats with ⟨known, number, rfl⟩
  have phase : (known.send figures message.agent worker).reporter.phase =
      .beating message.agent worker.drain.1 := rfl
  have unknown : ∀ body, (Reply.answered 404 body).orders = .ok none := fun _ => rfl
  refine ⟨number, ?_, ?_, ?_, ?_⟩
  · intro reply failure
    rcases Reply.orders_of_isFailure failure with ⟨error, refused⟩
    refine ⟨error, ?_⟩
    intro scratch figures
    simp only [hear_of_error phase refused]
    rw [← unbeaten, Option.map_map]
    rfl
  · intro scratch figures body
    simp only [hear_of_unknown phase (unknown body)]
    rw [← unbeaten, Option.map_map]
    rfl
  · intro scratch figures body more reply
    simp only [hear_of_unknown phase (unknown body), worker_hear_of_registering, Option.map_id']
    rw [Worker.run?_append, ← unbeaten, Option.bind_map]
    rfl
  · intro status body written elements element success read lists member illFormed
    exact Reply.isFailure_of_ill_formed success read lists member illFormed

/-- A task is called off while the heartbeat that tells of its acceptance is lost. -/
theorem failed_beat_is_invisible_lost :
    let figures : MachineFigures :=
      ⟨.ofInt .single 0, 0, .ofInt .double 0, .ofInt .double 0, .ofInt .double 0⟩
    let worker := (Worker.make (.ofSize 1) .empty ⟨"host", 1, 2⟩).submit
      ⟨⟨1, 2⟩, ⟨"job"⟩, .null, "scratch"⟩
    let sent := beat ⟨some 7, .idle⟩ figures worker
    ∃ error, (sent.worker.run? [.cancel ⟨1, 2⟩]).map
        (sent.reporter.hear "scratch" figures · .lost) =
      (worker.run? [.cancel ⟨1, 2⟩]).map fun unbeaten =>
        ⟨⟨some 7, .idle⟩, unbeaten, .done (.error error)⟩ := by
  intro figures worker sent
  have reached : (Worker.make (.ofSize 1) .empty ⟨"host", 1, 2⟩).run?
      [.submit ⟨⟨1, 2⟩, ⟨"job"⟩, .null, "scratch"⟩] = some worker := rfl
  have asked : sent = beat ⟨some 7, .idle⟩ figures worker ∨
      ∃ scratch reply, sent = hear ⟨some 7, .idle⟩ scratch figures worker reply := Or.inl rfl
  have single : ∀ event ∈ [Event.cancel ⟨1, 2⟩], event.isTransfer = false := by decide
  rcases (failed_beat_is_invisible reached asked rfl single).2.1 .lost trivial with ⟨error, heard⟩
  exact ⟨error, heard "scratch" figures⟩

end Reporter

end TaskAgent
