import BatchTree.Path.Parse

/-!
# Sequential paths

A sequential node is asked for by a stem, to which a counter is appended.  The
counter is padded with zeros, so the paths of one stem are ordered as their
counters are.  A stem may end with a separator; the counter is then the whole
name.
-/

namespace BatchTree.Path

/-- Least number of characters of a counter, its sign included. -/
def sequenceWidth : Nat := 10

/-- A number in decimal, filled up with zeros on the left. -/
def padded (width value : Nat) : List Char :=
  (Nat.toDigits 10 value).leftpad width '0'

/-- The text of a counter.  A sign counts in the width. -/
def sequenceText (sequence : Int) : String :=
  if sequence < 0 then
    String.ofList ('-' :: padded (sequenceWidth - 1) sequence.natAbs)
  else
    String.ofList (padded sequenceWidth sequence.natAbs)

/-- The path of a stem and a counter. -/
def withSequence (stem : String) (sequence : Int) : Except Fault Path :=
  parse (stem ++ sequenceText sequence)

/-- Is the text acceptable as a stem?  A single digit stands in for the counter,
and the fault of a bad stem shows it. -/
def checkStem (stem : String) : Except Fault Unit :=
  (parse (stem ++ "1")).map fun _ => ()

end BatchTree.Path
