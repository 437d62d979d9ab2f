import Backtrack.Fault

/-!
# Text and byte offsets

A text is a list of code points; an offset into it counts the bytes of its UTF-8 form. The
boundaries of a text are the offsets between two of its code points and at its two ends.
`Text.floor` takes any offset down to a boundary, and `Text.slice` cuts between boundaries only.
-/

namespace Backtrack

/-- A text, as the list of its code points. -/
abbrev Text : Type := List Char

namespace Text

/-- The number of bytes of the UTF-8 form. -/
def byteSize : Text → Nat
  | [] => 0
  | c :: t => c.utf8Size + byteSize t

/-- What is left after the first `n` bytes, if they are whole code points. -/
def dropBytes? : Text → Nat → Option Text
  | t, 0 => some t
  | [], _ + 1 => none
  | c :: t, n + 1 => if c.utf8Size ≤ n + 1 then dropBytes? t (n + 1 - c.utf8Size) else none

/-- The first `n` bytes, if they are whole code points. -/
def takeBytes? : Text → Nat → Option Text
  | _, 0 => some []
  | [], _ + 1 => none
  | c :: t, n + 1 =>
    if c.utf8Size ≤ n + 1 then (takeBytes? t (n + 1 - c.utf8Size)).map (c :: ·) else none

/-- The first `n` code points, if there are as many. -/
def takeChars? : Nat → Text → Option Text
  | 0, _ => some []
  | _ + 1, [] => none
  | n + 1, c :: t => (takeChars? n t).map (c :: ·)

/-- Whether offset `n` lies between two code points of `t` or at one of its ends. -/
def isBoundary (t : Text) (n : Nat) : Bool := (t.dropBytes? n).isSome

/-- The search for a boundary, from `n` downwards; offset 0 always is one. -/
def floorFrom (t : Text) : Nat → Nat
  | 0 => 0
  | n + 1 => if t.isBoundary (n + 1) then n + 1 else floorFrom t n

/-- The last boundary that is neither past `n` nor past the end. -/
def floor (t : Text) (n : Nat) : Nat := floorFrom t (min n t.byteSize)

/-- The text from `start` to its end. -/
def suffix (t : Text) (start : Nat) : Run Text :=
  match t.dropBytes? start with
  | some rest => .ok rest
  | none => .error (.unaligned start t.byteSize)

/-- The text between two boundaries in order. -/
def slice (t : Text) (start stop : Nat) : Run Text :=
  if start ≤ stop then
    match (t.dropBytes? start).bind fun rest => rest.takeBytes? (stop - start) with
    | some cut => .ok cut
    | none => .error (.unaligned start stop)
  else .error (.unaligned start stop)

end Text

end Backtrack
