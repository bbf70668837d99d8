import TemplateServer.CommandLine
import TemplateServer.Protocol.Connection
import TemplateServer.Protocol.Frame

/-!
The program: it serves one editor over standard input and output. The clock of the session
follows the clock of the machine.
-/

open TemplateServer TemplateServer.Protocol

partial def serve (input output : IO.FS.Stream) (start : Nat) (connection : Connection)
    (incoming : Task (Except IO.Error (Option (Option Json)))) : IO Unit := do
  let now ← IO.monoMsNow
  let passed := now - start - connection.service.session.validation.now
  let (sent, connection) := connection.elapse passed
  send output sent
  if ← IO.hasFinished incoming then
    match incoming.get with
    | .ok (some message) =>
      let (sent, connection) := connection.receive message
      send output sent
      if connection.isOpen then
        serve input output start connection (← IO.asTask (readMessage input))
    | _ => pure ()
  else
    IO.sleep 1
    serve input output start connection incoming

def main (arguments : List String) : IO UInt32 := do
  match CommandLine.read arguments with
  | .error error =>
    IO.eprintln (CommandLine.errorLine error ++ "\n\nFor more information, try '--help'.")
    pure 2
  | .ok .help =>
    IO.print CommandLine.helpText
    pure 0
  | .ok .version =>
    IO.print CommandLine.versionText
    pure 0
  | .ok (.serve settings) =>
    let input ← IO.getStdin
    let output ← IO.getStdout
    serve input output (← IO.monoMsNow) (.initial settings) (← IO.asTask (readMessage input))
    pure 0
