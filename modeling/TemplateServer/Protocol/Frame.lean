import TemplateServer.Json.Reader
import TemplateServer.Json.Writer

/-!
Frames: each message is preceded by a header that gives its length in bytes. Messages are read
from a stream and written to one frame by frame.
-/

namespace TemplateServer.Protocol

def frame (message : Json) : String :=
  let body := message.render
  "Content-Length: " ++ Json.digitsText body.utf8ByteSize ++ "\r\n\r\n" ++ body

def lengthIn? (line : String) : Option Nat :=
  let chars := line.toList.map Char.toLower
  let key := "content-length:".toList
  if key.isPrefixOf chars then
    let digits := (chars.drop key.length).filter fun c => !c.isWhitespace
    if digits.isEmpty || !digits.all Char.isDigit then none
    else some (digits.foldl (fun value c => value * 10 + (c.toNat - '0'.toNat)) 0)
  else
    none

def contentLength? (header : List String) : Option Nat :=
  header.findSome? lengthIn?

/-! ### Streams -/

partial def readHeader (input : IO.FS.Stream) (lines : List String) :
    IO (Option (List String)) := do
  let line ← input.getLine
  if line.isEmpty then
    pure none
  else if line.trimAscii.isEmpty then
    pure (some lines.reverse)
  else
    readHeader input (line :: lines)

partial def readBytes (input : IO.FS.Stream) (count : Nat) (bytes : ByteArray) : IO ByteArray := do
  if bytes.size < count then
    let more ← input.read (USize.ofNat (count - bytes.size))
    if more.isEmpty then pure bytes else readBytes input count (bytes ++ more)
  else
    pure bytes

partial def readMessage (input : IO.FS.Stream) : IO (Option (Option Json)) := do
  match ← readHeader input [] with
  | none => pure none
  | some header =>
    match contentLength? header with
    | none => readMessage input
    | some count =>
      let bytes ← readBytes input count .empty
      pure (some ((String.fromUTF8? bytes).bind Json.ofText?))

def send (output : IO.FS.Stream) (messages : List Json) : IO Unit := do
  for message in messages do
    output.putStr (frame message)
  output.flush

end TemplateServer.Protocol
