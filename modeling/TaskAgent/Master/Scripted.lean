import TaskAgent.Master.Reporter
import TaskAgent.Master.Url

/-!
# Scripted masters

A master whose replies are given beforehand, one for each request that reaches it. It keeps a log
of the requests. When the replies are used up, it either goes on to answer with a status of its
own, or counts as about to be shut down: then later requests are refused and not logged.

Nothing reaches a master that is out of reach or whose address is not usable.
-/

namespace TaskAgent

/-- What a scripted master does when its replies are used up. -/
inductive Ending where
  /-- It answers every request with a status of its own. -/
  | goesOn
  /-- It is about to be shut down. -/
  | shutsDown
deriving DecidableEq

/-- A master with given replies. -/
structure ScriptedMaster where
  /-- Its address. -/
  base : String
  reachable : Bool
  replies : List Reply
  /-- What it does when there are none left. -/
  ending : Ending
  /-- The requests that reached it, and what was asked for, oldest first. -/
  log : List (String × Request)

namespace ScriptedMaster

/-- The status of answers when the replies of a master that goes on are used up. -/
def exhaustedStatus : Nat := 599

/-- The status of answers of a master that is about to be shut down. -/
def closingStatus : Nat := 500

/-- The reply to a request, and the master after it. -/
def serve (master : ScriptedMaster) (request : Request) : Reply × ScriptedMaster :=
  let url := master.base ++ request.path
  let logged := { master with log := master.log ++ [(Url.target url, request)] }
  if !Url.isUsable url then (.unsendable, master)
  else if !master.reachable then (.lost, master)
  else
    match master.replies, master.ending with
    | reply :: rest, _ => (reply, { logged with replies := rest })
    | [], .goesOn => (.answered exhaustedStatus "", logged)
    | [], .shutsDown => (.answered closingStatus "", master)

/-- Whether a shutdown is asked for. -/
def isShutDown (master : ScriptedMaster) : Bool :=
  master.ending == .shutsDown && master.replies.isEmpty

end ScriptedMaster

end TaskAgent
