import ReadNotify.IoError.Number
/-!
# Errors of the System

What a system call can fail with. Most failures carry the error number the
system gave, and from the number follow both the kind of failure and its
text. Others are raised by the program itself: with a kind alone, whose text
is a fixed description, or with a kind and a text of their own.

## Main definitions

* `IoError`: A failure, by number, by kind, or by kind and text.
* `IoError.kind`, `IoError.message`, `IoError.code?`: What can be asked of it.
* `IoError.isForgotten`: The descriptor, or its entry, was already gone.
-/

namespace ReadNotify

/-- A failed system call, or a failure the program reports like one. -/
inductive IoError where
  | os (code : Int)
  | plain (kind : IoError.Kind)
  | custom (kind : IoError.Kind) (text : String)
  deriving DecidableEq, Repr

namespace IoError

/-- The class of a failure. -/
def kind : IoError → Kind
  | os code => (lookup code).1
  | plain k => k
  | custom k _ => k

/-- The text of a failure. A number stands behind the text the system has for
    it. -/
def message : IoError → String
  | os code => (lookup code).2 ++ " (os error " ++ toString code ++ ")"
  | plain k => k.description
  | custom _ text => text

/-- The error number, if the system gave one. -/
def code? : IoError → Option Int
  | os code => some code
  | _ => none

/-- Whether a deregistration failed only because the entry, or the whole
    descriptor, was already gone. A failure without a number never means
    that, whatever its kind or text. -/
def isForgotten (e : IoError) : Bool :=
  match e.code? with
  | some code => code == noEntry || code == badDescriptor
  | none => false

/-- The number kept as a connection's last error. -/
def recorded (e : IoError) : Int :=
  e.code?.getD inputOutput

end IoError

end ReadNotify
