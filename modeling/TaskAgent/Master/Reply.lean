import TaskAgent.Message.Heartbeat

/-!
# Replies of the master

What becomes of a request, and how the agent takes it. A registration has succeeded when the
reply has a status of success and its body gives the number of the agent. A heartbeat has arrived
when the reply has a status of success and its body gives the orders; the status 404 tells that
the master does not know the agent.
-/

namespace TaskAgent

/-- What becomes of a request. -/
inductive Reply where
  /-- It was answered with a status and a body. -/
  | answered (status : Nat) (body : String)
  /-- The connection was lost before an answer came. -/
  | lost
  /-- It was not sent, because the address of the master is not usable. -/
  | unsendable
deriving DecidableEq, Inhabited

/-- Why a request did not succeed. -/
inductive MasterError where
  | status (code : Nat)
  /-- The body was not what the answer should hold. -/
  | undecodable
  /-- No answer came. -/
  | lost
  /-- The request was not sent. -/
  | unsendable
deriving DecidableEq, Inhabited

/-- The texts that go with the statuses of answers. -/
def statusReasons : List (Nat × String) :=
  [(100, "Continue"), (101, "Switching Protocols"), (102, "Processing"), (200, "OK"),
   (201, "Created"), (202, "Accepted"), (203, "Non Authoritative Information"),
   (204, "No Content"), (205, "Reset Content"), (206, "Partial Content"),
   (207, "Multi-Status"), (208, "Already Reported"), (226, "IM Used"),
   (300, "Multiple Choices"), (301, "Moved Permanently"), (302, "Found"), (303, "See Other"),
   (304, "Not Modified"), (305, "Use Proxy"), (307, "Temporary Redirect"),
   (308, "Permanent Redirect"), (400, "Bad Request"), (401, "Unauthorized"),
   (402, "Payment Required"), (403, "Forbidden"), (404, "Not Found"),
   (405, "Method Not Allowed"), (406, "Not Acceptable"),
   (407, "Proxy Authentication Required"), (408, "Request Timeout"), (409, "Conflict"),
   (410, "Gone"), (411, "Length Required"), (412, "Precondition Failed"),
   (413, "Payload Too Large"), (414, "URI Too Long"), (415, "Unsupported Media Type"),
   (416, "Range Not Satisfiable"), (417, "Expectation Failed"), (418, "I'm a teapot"),
   (421, "Misdirected Request"), (422, "Unprocessable Entity"), (423, "Locked"),
   (424, "Failed Dependency"), (425, "Too Early"), (426, "Upgrade Required"),
   (428, "Precondition Required"), (429, "Too Many Requests"),
   (431, "Request Header Fields Too Large"), (451, "Unavailable For Legal Reasons"),
   (500, "Internal Server Error"), (501, "Not Implemented"), (502, "Bad Gateway"),
   (503, "Service Unavailable"), (504, "Gateway Timeout"),
   (505, "HTTP Version Not Supported"), (506, "Variant Also Negotiates"),
   (507, "Insufficient Storage"), (508, "Loop Detected"), (510, "Not Extended"),
   (511, "Network Authentication Required")]

/-- The message for an answer with a status that is no success. -/
def statusMessage (code : Nat) : String :=
  "el master devolvió status " ++ toString code ++ " " ++
    (statusReasons.lookup code).getD "<unknown status code>"

namespace Reply

/-- An answer; two statuses never come with a body. -/
def answer (status : Nat) (body : String) : Reply :=
  answered status (if status = 204 ∨ status = 304 then "" else body)

def isSuccess (status : Nat) : Bool := 200 ≤ status && status < 300

/-- What a body says, if it is one text of the given kind. -/
def decode? {α : Type} (read : Nat → Json.Written → Option α) (body : String) : Option α :=
  (Json.read? body.toList).bind (read Json.greatestNesting)

/-- The number that the agent is given. -/
def registered : Reply → Except MasterError AgentId
  | answered status body =>
    if isSuccess status then
      match decode? Registered.read? body with
      | some registered => .ok registered.agent
      | none => .error .undecodable
    else .error (.status status)
  | lost => .error .lost
  | unsendable => .error .unsendable

/-- The orders that the agent is given; none when the master does not know it. -/
def orders : Reply → Except MasterError (Option Orders)
  | answered status body =>
    if status = 404 then .ok none
    else if isSuccess status then
      match decode? Orders.read? body with
      | some orders => .ok (some orders)
      | none => .error .undecodable
    else .error (.status status)
  | lost => .error .lost
  | unsendable => .error .unsendable

end Reply

end TaskAgent
