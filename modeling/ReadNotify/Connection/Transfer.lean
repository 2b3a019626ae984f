import ReadNotify.Kernel.Stream
/-!
# Writing Everything

A single call to send may take only part of what it is given, and a signal may
cut it short before anything was taken. Writing a payload therefore repeats
the call with what is left, until nothing is left or an error comes that is
not a signal's. What the socket took is always a prefix of the payload, each
byte once and in order.

## Main definitions

* `WriteEnd`: How a write ended.
* `sendAll`: The repetition, over the answers the socket gives.
-/

namespace ReadNotify

/-- How a write ended. -/
inductive WriteEnd where
  | finished
  | failed (e : IoError)
  /-- The socket has not answered yet. -/
  | waiting
  deriving DecidableEq, Repr

/-- Sends a payload to a socket that gives these answers, one to each call, and
    returns what the socket took. Nothing is called for an empty payload. A
    call that takes nothing at all is an error of its own. -/
def sendAll : List SendReply → Bytes → Bytes × WriteEnd
  | _, [] => ([], .finished)
  | [], _ :: _ => ([], .waiting)
  | .taken 0 :: _, _ :: _ => ([], .failed (.plain .writeZero))
  | .taken (n + 1) :: replies, b :: rest =>
      let data := b :: rest
      let (sent, ending) := sendAll replies (data.drop (n + 1))
      (data.take (n + 1) ++ sent, ending)
  | .failed code :: replies, b :: rest =>
      if code = IoError.callInterrupted then sendAll replies (b :: rest)
      else ([], .failed (.os code))

end ReadNotify
