import TemplateServer.Protocol.Service

/-!
A server whose messages to the editor are collected now and then. Those that nobody has collected
wait in an outbox, which has room for a single one: when another comes, both are taken out.
-/

namespace TemplateServer.Protocol

/-- A server and the messages that were sent but not collected, with the times they were sent. -/
structure Outbox where
  service : Service
  waiting : List (Nat × Json)

namespace Outbox

def initial (settings : Settings) : Outbox :=
  ⟨.initial settings, []⟩

/-- Takes over what the server has sent on the way to `next`. What is collected is returned: all,
if it is to be collected or does not fit. -/
def pass (collects : Bool) (next : Service) (outbox : Outbox) : List (Nat × Json) × Outbox :=
  let sent := outbox.waiting ++ next.sentSince outbox.service
  if collects || 1 < sent.length then (sent, ⟨next, []⟩) else ([], ⟨next, sent⟩)

/-- Lets the server take in a message, and then settle if it is to. Returns the answer and what is
collected. -/
def receive (settles : Bool) (message : Message) (outbox : Outbox) :
    Option Json × List (Nat × Json) × Outbox :=
  let (answer, handled) := outbox.service.receive message
  (answer, outbox.pass settles (handled.proceed settles .idle))

/-- Lets time pass, and then the server settle if it is to. Returns what is collected. -/
def elapse (settles : Bool) (duration : Nat) (outbox : Outbox) : List (Nat × Json) × Outbox :=
  outbox.pass (settles || 0 < duration) (outbox.service.proceed settles (.elapsed duration))

end Outbox

end TemplateServer.Protocol
