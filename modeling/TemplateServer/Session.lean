import TemplateServer.Completion
import TemplateServer.Hover
import TemplateServer.Settings
import TemplateServer.Validation.Command

/-!
A session with an editor: the open documents with their validation, and the settings. Hovering
and completion look at the text as it stands and wait for nothing.
-/

namespace TemplateServer

open Text Validation

/-- A message for the editor's log and when it was sent, in milliseconds. -/
structure LogMessage where
  time : Nat
  text : String
deriving DecidableEq

structure Session where
  validation : State
  settings : Settings
  log : List LogMessage
deriving DecidableEq

inductive Event where
  /-- The session starts; the editor may send settings. -/
  | started (options : Option Json)
  /-- The editor has taken note of what the server can do. -/
  | acknowledged
  | opened (document : Document)
  /-- The texts after each of some changes. -/
  | changed (uri : Uri) (version : Int) (texts : List String)
  | closed (uri : Uri)
  | configured (settings : Json)
  /-- Time passes. -/
  | elapsed (duration : Nat)
  | shutdown
  /-- Nothing happens. -/
  | idle

namespace Session

def initial (settings : Settings) : Session where
  validation := .initial (Duration.ofMilliseconds settings.validation.debounceMs).milliseconds none
  settings := settings
  log := []

/-! ### Settings -/

def setSettings (settings : Settings) (session : Session) : Session :=
  { session with
    validation :=
      session.validation.setDelay (.ofMilliseconds settings.validation.debounceMs)
    settings := settings }

/-- Takes over what an editor sent as settings. Invalid ones are ignored with a message. -/
def applySettings (sent : Json) (session : Session) : Session :=
  match Settings.ofClient? sent with
  | none => session
  | some (.ok settings) => session.setSettings settings
  | some (.error error) =>
    let message : LogMessage :=
      ⟨session.validation.now, "Ignoring invalid LG configuration: " ++ error.message⟩
    { session with log := session.log ++ [message] }

/-! ### Documents -/

/-- Opens a document and starts its timer, also if it was open already. -/
def openDocument (document : Document) (session : Session) : Session :=
  let store := (session.validation.store.insertNew document).2
  { session with
    validation := State.schedule document.uri { session.validation with store := store } }

/-- Changes a document to the last of the given texts and starts its timer. A stale change has no
effect. -/
def changeDocument (uri : Uri) (version : Int) (texts : List String) (session : Session) :
    Session :=
  match texts.getLast? with
  | none => session
  | some text =>
    match session.validation.store.change ⟨uri, version, text⟩ with
    | (.stale, _) => session
    | (_, store) =>
      { session with
        validation := State.schedule uri { session.validation with store := store } }

def closeDocument (uri : Uri) (session : Session) : Session :=
  let store := (session.validation.store.erase uri).2
  { session with
    validation := State.retireNow uri { session.validation with store := store } }

/-! ### Events -/

def handle (event : Event) (session : Session) : Session :=
  match event with
  | .started none => session
  | .started (some options) => session.applySettings options
  | .acknowledged => session
  | .opened document => session.openDocument document
  | .changed uri version texts => session.changeDocument uri version texts
  | .closed uri => session.closeDocument uri
  | .configured settings => session.applySettings settings
  | .elapsed duration => { session with validation := session.validation.advance duration }
  | .shutdown => { session with validation := session.validation.shutdown }
  | .idle => session

def settle (session : Session) : Session :=
  { session with validation := session.validation.settle }

/-- Takes in an event and then, if it is to settle, lets everything go on that is due. -/
def apply (settles : Bool) (event : Event) (session : Session) : Session :=
  if settles then (session.handle event).settle else session.handle event

/-! ### Questions -/

def find? (session : Session) (uri : Uri) : Option Document :=
  session.validation.store.find? uri

def hover? (session : Session) (uri : Uri) (position : Position) : Option Hover :=
  match session.find? uri with
  | none => none
  | some document =>
    Hover.at? document.text (Analysis.ofText uri.text document.text).templates position

def completions (session : Session) (uri : Uri) : List Completion :=
  match session.find? uri with
  | none => []
  | some document => Completion.all (Analysis.ofText uri.text document.text).templates

end Session

end TemplateServer
