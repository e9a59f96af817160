/-!
# Bounded buffers

What a process writes is kept up to a bound.  There are two ways to keep to it: a buffer of lines
leaves out every line that does not fit, and goes on with the next; a buffer of bytes ends at the
bound.

## Main definitions

* `maxOutputBytes` — the bound
* `appendLine` — adds a line, if it fits
* `appendBytes` — adds bytes, as far as they fit
-/

namespace Overseer.Capture

/-- Ten mebibytes are kept of each stream. -/
def maxOutputBytes : Nat := 10 * 1024 * 1024

/-- Adds a line and its newline to a buffer, unless they do not fit. -/
def appendLine (buffer line : String) : String :=
  if buffer.utf8ByteSize + line.utf8ByteSize < maxOutputBytes then (buffer ++ line).push '\n'
  else buffer

/-- Adds bytes to a buffer, as many of them as fit. -/
def appendBytes (buffer bytes : ByteArray) : ByteArray :=
  buffer ++ bytes.extract 0 (maxOutputBytes - buffer.size)

/-- Whether a buffer of bytes takes no more. -/
def isFull (buffer : ByteArray) : Bool := maxOutputBytes ≤ buffer.size

theorem utf8ByteSize_appendLine_le {buffer : String} (line : String)
    (h : buffer.utf8ByteSize ≤ maxOutputBytes) :
    (appendLine buffer line).utf8ByteSize ≤ maxOutputBytes := by
  unfold appendLine
  split
  · simp only [String.utf8ByteSize_push, String.utf8ByteSize_append]
    have : '\n'.utf8Size = 1 := rfl
    omega
  · exact h

theorem size_appendBytes_le {buffer : ByteArray} (bytes : ByteArray)
    (h : buffer.size ≤ maxOutputBytes) : (appendBytes buffer bytes).size ≤ maxOutputBytes := by
  simp only [appendBytes, ByteArray.size_append, ByteArray.size_extract]
  omega

end Overseer.Capture
