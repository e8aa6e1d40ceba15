import TaskAgent.Master.Reporter
import TaskAgent.Proofs.Master.Reply

/-!
# Moves of a reporter

What a reporter does with a reply, one law for each kind of reply. A heartbeat is sent in one way
only, whether it follows a registration or not (`Reporter.eq_send_of_beats`).
-/

namespace TaskAgent.Reporter

variable {reporter : Reporter} {worker : Worker} {figures : MachineFigures} {sent : Progress}
  {message : Heartbeat} {agent : AgentId} {records : List TaskRecord} {reply : Reply}

theorem enroll_of_ok (given : reply.registered = .ok agent) :
    reporter.enroll reply = (.ok agent, ⟨some agent, .idle⟩) := by
  rw [enroll, given]

theorem enroll_of_error {error : MasterError} (refused : reply.registered = .error error) :
    reporter.enroll reply = (.error error, ⟨reporter.agent, .idle⟩) := by
  rw [enroll, refused]

theorem agent_of_enroll {known : Reporter} (enrolled : reporter.enroll reply = (.ok agent, known)) :
    known.agent = some agent := by
  cases given : reply.registered with
  | ok number =>
      cases (enroll_of_ok given).symm.trans enrolled
      rfl
  | error error => cases (enroll_of_error given).symm.trans enrolled

theorem eq_send_of_beats
    (asked : sent = reporter.beat figures worker ∨
      ∃ scratch reply, sent = reporter.hear scratch figures worker reply)
    (beats : sent.turn = .ask (.heartbeat message)) :
    ∃ known : Reporter, known.agent = some message.agent ∧
      sent = known.send figures message.agent worker := by
  rcases asked with rfl | ⟨scratch, reply, rfl⟩
  · unfold beat at beats ⊢
    split at beats
    · next agent known =>
        cases beats
        exact ⟨reporter, known, rfl⟩
    · cases beats
  · unfold hear at beats ⊢
    split at beats
    · cases beats
    · next repeated phase =>
        split at beats
        · next agent known enrolled =>
            split at beats
            · next repeats =>
                cases beats
                refine ⟨known, agent_of_enroll enrolled, ?_⟩
                simp only [repeats, if_true]
            · cases beats
        · cases beats
    · split at beats
      · unfold obey at beats
        dsimp only at beats
        split at beats
        · cases beats
        · cases beats
      · cases beats
      · cases beats

/-- What comes of a registration does not concern the worker. -/
theorem worker_hear_of_registering (phase : reporter.phase = .registering false)
    (scratch : String) (figures : MachineFigures) (worker : Worker) (reply : Reply) :
    (reporter.hear scratch figures worker reply).worker = worker := by
  rw [hear, phase]
  dsimp only
  split
  · rfl
  · rfl

theorem hear_of_error {error : MasterError} (phase : reporter.phase = .beating agent records)
    (refused : reply.orders = .error error) (scratch : String) (figures : MachineFigures)
    (worker : Worker) :
    reporter.hear scratch figures worker reply =
      ⟨⟨reporter.agent, .idle⟩, worker.restore records, .done (.error error)⟩ := by
  rw [hear, phase]
  simp only [refused]
  rfl

theorem hear_of_unknown (phase : reporter.phase = .beating agent records)
    (unknown : reply.orders = .ok none) (scratch : String) (figures : MachineFigures)
    (worker : Worker) :
    reporter.hear scratch figures worker reply =
      ⟨⟨none, .registering false⟩, worker.restore records,
        .ask (.registration (worker.restore records).registration)⟩ := by
  rw [hear, phase]
  simp only [unknown]
  rfl

theorem hear_of_accepted {orders : Orders} (phase : reporter.phase = .beating agent records)
    (accepted : reply.orders = .ok (some orders)) (scratch : String) (figures : MachineFigures)
    (worker : Worker) :
    reporter.hear scratch figures worker reply = reporter.obey scratch worker orders := by
  rw [hear, phase]
  simp only [accepted]

end TaskAgent.Reporter
