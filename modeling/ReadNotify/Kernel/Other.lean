import ReadNotify.Kernel.Wake
/-!
# Other Files

What a program does with files that are no concern of this library: it opens
them, they become ready or stop being so, and it closes them. A file that is
opened gets the lowest number that nobody uses, which may be the number that a
connection had, and a file that is closed leaves every interest set.

## Main definitions

* `Kernel.openOther`, `Kernel.closeOther`: The life of such a file.
* `Kernel.setReadable`: There is something to read from it, or nothing any more.
-/

namespace ReadNotify

namespace Kernel

open IoError (descriptorLimit)

/-- Opens a file that interest sets can watch, or a plain one. -/
def openOther (pollable : Bool) (k : Kernel) : Kernel × Except Int OtherKey :=
  if k.starved then (k, .error descriptorLimit)
  else ({ k with others := k.others.add { fd := k.freshFd, pollable } }, .ok k.others.size)

/-- Closes a file, which leaves the interest sets that watch it. -/
def closeOther (o : OtherKey) (k : Kernel) : Kernel :=
  (k.updateOther o fun x => { x with isOpen := false }).forget (.other o)

/-- Something has arrived at a file, or everything there was read. Whoever watches
    it takes notice of what has arrived. -/
def setReadable (o : OtherKey) (readable : Bool) (k : Kernel) : Kernel :=
  let k := k.updateOther o fun x => { x with readable }
  if readable then k.wake (.other o) else k

end Kernel

end ReadNotify
