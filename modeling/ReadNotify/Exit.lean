/-!
# How Code Ends

A section of code either returns or panics. A panic unwinds through whatever
called the section until somebody catches it, and on the way every lock that
the code held is released.

## Main definitions

* `Exit`: Returned or panicked.
-/

namespace ReadNotify

/-- How a section of code ended. -/
inductive Exit where
  | returned
  | panicked
  deriving DecidableEq, Repr

end ReadNotify
