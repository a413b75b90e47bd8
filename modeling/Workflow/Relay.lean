import Workflow.Handler.Mailing
import Workflow.Relay.Address
import Workflow.Relay.Subject

/-!
# Mail relays

A relay transport turns a mail into a message with headers and hands it over the network.  What goes
wrong on the network becomes a mail error; any other fault is passed on.
-/

namespace Workflow

/-- How a relay is reached. -/
structure Relay where
  host : String
  portNumber : Int := 587
  username : Option String := none
  password : Option String := none
  sender : String := "no-reply@localhost"
  /-- Seconds to wait, as they were given. -/
  timeout : Value := .int 30

namespace Relay

/-- A message as it is handed to the network. -/
structure Message where
  sender : String
  recipient : String
  subject : String
  /-- The body, in lines that all end in a newline. -/
  content : String
deriving DecidableEq

/-- End every line in a newline; carriage returns end lines too, a newline after one belonging to
it. -/
def normaliseLines : List Char → List Char
  | [] => []
  | '\r' :: '\n' :: rest => '\n' :: normaliseLines rest
  | c :: rest => (if c = '\r' then '\n' else c) :: normaliseLines rest

/-- The body of a message; it ends in a newline even when it is empty. -/
def content (body : String) : String :=
  let lines := normaliseLines body.toList
  String.ofList (if lines.getLast? = some '\n' then lines else lines ++ ['\n'])

/-- A header made of a text, which has to be one line. -/
def header (make : String → Except Fault String) (text : String) : Except Fault String :=
  if isHeaderText text then make text
  else
    .error (.reported .value
      "Header values may not contain linefeed or carriage return characters")

/-- The message for a mail.  The first header that cannot be made is at fault. -/
def message (relay : Relay) (mail : Mail) : Except Fault Message := do
  return {
    sender := ← header Address.rewriteAll relay.sender
    recipient := ← header Address.rewriteAll mail.recipient
    subject := ← header (fun text => .ok (Subject.read text)) mail.subject
    content := content mail.body }

/-- Whether the connection is encrypted from the start. -/
def usesTls (relay : Relay) : Bool := relay.portNumber = 465

/-- Whether the connection becomes encrypted after its start. -/
def startsTls (relay : Relay) : Bool := relay.portNumber = 587

/-- The names of more classes of faults that come from the network or the system. -/
def networkFaultNames : List String :=
  ["BlockingIOError", "BrokenPipeError", "ChildProcessError", "ConnectionAbortedError",
    "ConnectionError", "ConnectionResetError", "FileExistsError", "FileNotFoundError",
    "InterruptedError", "IsADirectoryError", "NotADirectoryError", "PermissionError",
    "ProcessLookupError", "SMTPServerDisconnected", "SMTPNotSupported", "SMTPTimeoutError",
    "SMTPConnectTimeoutError", "SMTPReadTimeoutError"]

/-- Whether a fault comes from the network. -/
def isNetworkFault (fault : Fault) : Bool :=
  [.relay, .relayConnection, .os, .connectionRefused, .timeout].contains fault.kind ||
    networkFaultNames.contains fault.kind.name

/-- What becomes of a failure on the network. -/
def failure : Failure → Failure
  | .fault cause =>
    if isNetworkFault cause then .step (.undelivered cause.text) else .fault cause
  | other => other

/-- Send a mail over a network, which takes a message or fails; the answer names the message by an
identifier drawn for it. -/
def send (relay : Relay) (network : Message → Except Failure Unit) (messageId : String)
    (mail : Mail) : Except Failure Value :=
  match relay.message mail with
  | .error cause => .error (.fault cause)
  | .ok message =>
    match network message with
    | .error failed => .error (failure failed)
    | .ok () => .ok (.obj [("success", .bool true), ("messageId", .str messageId)])

/-- The transport over a relay. -/
def transport (relay : Relay) (network : Nat → Message → Except Failure Unit)
    (messageId : Nat → String) : Transport where
  send := fun call _ mail => relay.send (network call) (messageId call) mail

end Relay

end Workflow
