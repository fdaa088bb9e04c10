/-
**Blank characters of all scripts.**

`Blank.ranges` lists the code points of white space: the controls that move the writing position,
the spaces of every width, and the separators of lines and paragraphs. `Blank.trim` takes them off
both ends of a text.
-/

namespace PeerMesh.Blank

/-- The first and last code points of the runs of blank characters. -/
def ranges : List (Nat × Nat) := [
  (9, 13), (32, 32), (133, 133), (160, 160), (5760, 5760), (8192, 8202), (8232, 8233), (8239, 8239),
  (8287, 8287), (12288, 12288)]

/-- Whether a character is blank. -/
def isBlank (char : Char) : Bool :=
  ranges.any fun range => range.1 ≤ char.toNat && char.toNat ≤ range.2

/-- A text without the blanks at its ends. -/
def trim (text : List Char) : List Char :=
  ((text.dropWhile isBlank).reverse.dropWhile isBlank).reverse

end PeerMesh.Blank
