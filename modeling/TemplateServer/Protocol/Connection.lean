import TemplateServer.Protocol.Service

/-!
A server at its end of a connection to an editor. It stops listening when it gets something that
is no message, and when it gets a message after the exit.
-/

namespace TemplateServer.Protocol

structure Connection where
  service : Service
  isOpen : Bool

namespace Connection

def initial (settings : Settings) : Connection :=
  ⟨.initial settings, true⟩

def close (connection : Connection) : Connection :=
  { connection with isOpen := false }

def complaint (refusal : Refusal) : Json :=
  response .null (.error refusal)

/-- Takes in what the editor sent, which is none if it is not even JSON. Returns what is sent to the
editor at once. -/
def receive (sent : Option Json) (connection : Connection) : List Json × Connection :=
  if connection.isOpen then
    match sent.map Incoming.ofJson with
    | none => ([complaint .malformed], connection.close)
    | some .unreadable => ([complaint .invalidRequest], connection.close)
    | some .answer => ([], connection)
    | some (.message message) =>
      if connection.service.lifecycle = .exited then
        ([], connection.close)
      else
        let (answer, next) := connection.service.receive message
        ((next.sentSince connection.service).map Prod.snd ++ answer.toList,
          { connection with service := next })
  else
    ([], connection)

def elapse (duration : Nat) (connection : Connection) : List Json × Connection :=
  if connection.isOpen then
    let next := connection.service.elapse duration
    ((next.sentSince connection.service).map Prod.snd, { connection with service := next })
  else
    ([], connection)

end Connection

end TemplateServer.Protocol
