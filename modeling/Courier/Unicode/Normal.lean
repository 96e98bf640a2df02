import Courier.Unicode.CombiningClass
import Courier.Unicode.Composite

/-! The normal form of a text.

A text is taken apart into characters that are no composites, marks behind one letter are put into
the order of their classes, and what makes a composite is put together again, unless something with
the same class or none stands between. -/
namespace Courier.Unicode

/-! ### Taking apart -/

/-- No character is made of more than this many others. -/
def maxParts : Nat := 4

/-- The parts of a character. The second part of a composite is never a composite. -/
def decompose : Nat → Char → List Char
  | 0, c => [c]
  | parts + 1, c =>
    match parts? c with
    | some (first, second) => decompose parts first ++ [second]
    | none => [c]

/-! ### Order -/

/-- Marks in the order of their classes. Those of one class stay in the order in which they came. -/
def inOrder (marks : List (Nat × Char)) : List Char :=
  (marks.reverse.mergeSort fun a b => a.1 ≤ b.1).map (·.2)

/-- Puts marks in order, behind those that are read already, the last one first. -/
def arrange (marks : List (Nat × Char)) : List Char → List Char
  | [] => inOrder marks
  | c :: rest =>
    let k := combiningClass c
    if k = 0 then inOrder marks ++ c :: arrange [] rest else arrange ((k, c) :: marks) rest

/-! ### Putting together -/

/-- A text on its way: what is done, the last character that may become a composite, and the marks
behind that, with the class of the last of them. Texts are in reverse order. -/
structure Joint where
  done : List Char := []
  starter : Option Char := none
  marks : List Char := []
  markClass : Nat := 0

namespace Joint

/-- What was put together so far, the last character first. -/
def text (j : Joint) : List Char := j.marks ++ j.starter.toList ++ j.done

/-- What a character makes with the starter, if nothing keeps them apart. -/
def whole? (j : Joint) (k : Nat) (c : Char) : Option Char :=
  if j.marks ≠ [] ∧ k ≤ j.markClass then none
  else j.starter.bind fun starter => Unicode.whole? starter c

/-- Takes one more character: into the starter if both make a composite, or else behind it. -/
def add (j : Joint) (c : Char) : Joint :=
  let k := combiningClass c
  match j.whole? k c with
  | some whole => { j with starter := some whole }
  | none =>
    if k = 0 then { done := j.text, starter := some c }
    else { j with marks := c :: j.marks, markClass := k }

end Joint

/-! ### Normal form -/

/-- The first mark. Characters in front of it are neither taken apart nor put together. -/
def firstMark : Nat := 0x300

/-- The normal form. Where all characters stand in front of the first mark nothing has to be done.
-/
def normalize (cs : List Char) : List Char :=
  if cs.all (·.toNat < firstMark) then cs
  else ((arrange [] (cs.flatMap (decompose maxParts))).foldl Joint.add {}).text.reverse

end Courier.Unicode
