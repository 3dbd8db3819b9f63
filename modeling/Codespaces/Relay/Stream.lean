import Codespaces.Json.Bytes
import Codespaces.Json.Writer
import Codespaces.Relay.Client

/-!
# Forwarded streams

A stream to a forwarded port begins with one line that names the session, a token and the port.
After it come the bytes of the client as they are.
-/

namespace Codespaces.Relay

structure Preamble where
  sessionId : String
  streamToken : String
  port : UInt16
  deriving DecidableEq, Repr

namespace Preamble

def toJson (p : Preamble) : Json :=
  .record [("session_id", .text p.sessionId), ("stream_token", .text p.streamToken),
    ("port", .ofNat p.port.toNat)]

open Json in
def decode : Decoder Preamble := fun value => do
  let [id, token, port] ← select ["session_id", "stream_token", "port"] value | none
  return ⟨← required decodeText id, ← required decodeText token, ← required decodeWord16 port⟩

def line (p : Preamble) : String := p.toJson.write ++ "\n"

def bytes (p : Preamble) : List UInt8 := Text.utf8 p.line

end Preamble

/-- What begins the streams of a relay to a forwarded port. -/
def preamble (relay : Relay) (port : UInt16) : Preamble :=
  ⟨relay.sessionId, relay.streamToken, port⟩

/-- What is sent on a stream for a client that sends `payload`. -/
def streamBytes (p : Preamble) (payload : List UInt8) : List UInt8 := p.bytes ++ payload

def newline : UInt8 := 0x0A

/-- Divides a stream after its first line. -/
def readStream? (stream : List UInt8) : Option (Preamble × List UInt8) := do
  let line := stream.takeWhile (· ≠ newline)
  match stream.dropWhile (· ≠ newline) with
  | _ :: payload => return (← Json.decodeBytes? Preamble.decode line, payload)
  | [] => none

end Codespaces.Relay
