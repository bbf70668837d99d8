import TemplateServer.Protocol.Message
import TemplateServer.Protocol.Params

/-!
The server as the editor sees it: a session behind a life cycle. Most requests are only answered
between the start and the shutdown, and none after the exit.
-/

namespace TemplateServer.Protocol

inductive Lifecycle where
  | fresh
  | running
  | stopping
  | exited
deriving DecidableEq

structure Service where
  session : Session
  lifecycle : Lifecycle

def Service.initial (settings : Settings) : Service :=
  ⟨.initial settings, .fresh⟩

def readParams {α : Type} (params : Option Json) (read : Json → Decoded α) : Except Refusal α :=
  match params with
  | none => .error .missingParams
  | some value =>
    match read value with
    | .ok result => .ok result
    | .error reason => .error (.invalidParams reason)

def noParams : Option Json → Except Refusal Unit
  | none => .ok ()
  | some value => .error (.unexpectedParams value)

/-- The event that a notification tells of, if it is one that matters and can be read. -/
def eventOf? (method : String) (params : Json) : Option Event :=
  match method with
  | "initialized" => some .acknowledged
  | "textDocument/didOpen" => (readOpening params).toOption.map .opened
  | "textDocument/didChange" =>
    (readChanging params).toOption.map fun (uri, version, texts) =>
      .changed uri version texts
  | "textDocument/didClose" => (readClosing params).toOption.map .closed
  | "workspace/didChangeConfiguration" => (readConfiguring params).toOption.map .configured
  | _ => none

namespace Service

def isRunning (service : Service) : Bool :=
  service.lifecycle == .running

def notRunning (service : Service) : Refusal :=
  match service.lifecycle with
  | .fresh => .notStarted
  | _ => .invalidRequest

def notify (method : String) (params : Option Json) (service : Service) : Service :=
  if method == "exit" then
    { service with lifecycle := .exited }
  else if method == "shutdown" && service.isRunning then
    { service with lifecycle := .stopping }
  else if service.isRunning then
    match params.bind (eventOf? method) with
    | some event => { service with session := service.session.handle event }
    | none => service
  else
    service

def start (params : Option Json) (service : Service) : Except Refusal Json × Service :=
  match service.lifecycle with
  | .fresh =>
    match readParams params readInitialization with
    | .ok options =>
      (.ok introduction, ⟨service.session.handle (.started options), .running⟩)
    | .error refusal => (.error refusal, service)
  | _ => (.error .invalidRequest, service)

def stop (params : Option Json) (service : Service) : Except Refusal Json × Service :=
  if service.isRunning then
    match noParams params with
    | .ok _ => (.ok .null, ⟨service.session.handle .shutdown, .stopping⟩)
    | .error refusal => (.error refusal, { service with lifecycle := .stopping })
  else
    (.error service.notRunning, service)

/-- Answers a question about the session. A question that is not offered is refused even if its
parameters, which have a shape, can be read. -/
def query? (method : String) (params : Option Json) (service : Service) :
    Option (Except Refusal Json) :=
  match method with
  | "textDocument/hover" =>
    some ((readParams params readHovering).map fun (uri, position) =>
      match service.session.hover? uri position with
      | some hover => hover.toJson
      | none => .null)
  | "textDocument/completion" =>
    some ((readParams params readCompleting).map fun (uri, _) =>
      .array ((service.session.completions uri).map Completion.toJson))
  | "completionItem/resolve" => some (readParams params readCompletion)
  | _ =>
    (Structure.unoffered.lookup method).map fun shape =>
      (readParams params (shape .alone)).bind fun _ => .error (.unknownMethod none)

/-- The notifications that an editor may send while the session runs. They cannot be sent as
requests. -/
def notifications : List String :=
  ["initialized", "textDocument/didOpen", "textDocument/didChange", "textDocument/willSave",
    "textDocument/didSave", "textDocument/didClose", "workspace/didChangeConfiguration",
    "workspace/didChangeWorkspaceFolders", "workspace/didCreateFiles",
    "workspace/didRenameFiles", "workspace/didDeleteFiles", "workspace/didChangeWatchedFiles"]

/-- Answers a request that changes nothing. One whose method starts with `$/` may be passed
over. -/
def reply (method : String) (params : Option Json) (service : Service) :
    Option (Except Refusal Json) :=
  match service.query? method params with
  | some result => some (if service.isRunning then result else .error service.notRunning)
  | none =>
    if notifications.contains method then
      some (.error (if service.isRunning then .invalidRequest else service.notRunning))
    else if method == "$/cancelRequest" then
      some (.error .invalidRequest)
    else if ['$', '/'].isPrefixOf method.toList then
      none
    else
      some (.error (.unknownMethod (some method)))

def request (method : String) (params : Option Json) (id : RequestId) (service : Service) :
    Option Json × Service :=
  match method with
  | "initialize" =>
    let (result, next) := service.start params
    (some (response id result), next)
  | "shutdown" =>
    let (result, next) := service.stop params
    (some (response id result), next)
  | "exit" => (none, { service with lifecycle := .exited })
  | _ => ((service.reply method params).map (response id), service)

def receive (message : Message) (service : Service) : Option Json × Service :=
  match message.id with
  | some id => service.request message.method message.params id
  | none => (none, service.notify message.method message.params)

/-- Lets the session take in an event and then, if it is to settle, everything go on that is due.
After the exit nothing goes on. -/
def proceed (settles : Bool) (event : Event) (service : Service) : Service :=
  match service.lifecycle with
  | .exited => service
  | _ => { service with session := service.session.apply settles event }

def settle (service : Service) : Service :=
  service.proceed true .idle

def elapse (duration : Nat) (service : Service) : Service :=
  service.proceed true (.elapsed duration)

/-- What was sent to the editor unasked since an earlier moment, with the time it was sent. -/
def sentSince (service earlier : Service) : List (Nat × Json) :=
  let log := service.session.log.drop earlier.session.log.length
  let published :=
    service.session.validation.published.drop earlier.session.validation.published.length
  (log.map fun message => (message.time, logNotification message))
    ++ published.map fun publication => (publication.time, publicationNotification publication)

end Service

end TemplateServer.Protocol
