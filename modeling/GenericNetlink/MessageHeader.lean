import GenericNetlink.Credentials

/-!
# Message headers

What the socket layer hands over with a message: the peer address, the payload,
the sender's credentials if any came along, and the flags of the message.
-/

namespace GenericNetlink

open Text

structure MessageHeader where
  name : Option Bytes
  payload : Bytes
  control : Option Ucred
  flags : Int32
  deriving DecidableEq

namespace MessageHeader

def ofPayload (payload : Bytes) : MessageHeader := ⟨none, payload, none, 0⟩

def withCredentials (h : MessageHeader) (c : Ucred) : MessageHeader := { h with control := some c }

def credentials? (h : MessageHeader) : Option Ucred := h.control

instance : Inspect MessageHeader where
  shown h := .record "MsgHdr"
    [("name", .option (h.name.map .bytes)), ("iov", .bytes h.payload),
      ("control", .option (h.control.map Inspect.shown)), ("flags", .int h.flags.toInt)] true

example : inspect { ofPayload [7] with name := some [1] } =
    "MsgHdr \x7b name: Some([1]), iov: [7], control: None, flags: 0 \x7d" := by decide

end MessageHeader

end GenericNetlink
