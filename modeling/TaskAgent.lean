import TaskAgent.Main
import TaskAgent.Proofs.Agent.Assignment
import TaskAgent.Proofs.Agent.Enrolment
import TaskAgent.Proofs.Agent.Queue
import TaskAgent.Proofs.Agent.Resolution
import TaskAgent.Proofs.Agent.Schedule
import TaskAgent.Proofs.Agent.Sections
import TaskAgent.Proofs.Config.Validation
import TaskAgent.Proofs.Job.Hindrance
import TaskAgent.Proofs.Job.ReadBack
import TaskAgent.Proofs.Json.Locality
import TaskAgent.Proofs.Master.FailedBeat
import TaskAgent.Proofs.Worker.Relapse
import TaskAgent.Proofs.Worker.Retention
import TaskAgent.Proofs.Worker.TakingBack
import TaskAgent.Proofs.Json.Members
import TaskAgent.Proofs.Json.ObjectText
import TaskAgent.Proofs.Json.ByName
import TaskAgent.Proofs.Message.ByName
