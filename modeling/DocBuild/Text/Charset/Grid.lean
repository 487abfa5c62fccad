import DocBuild.Text.Piece

/-!
# Grids of characters

The large character sets arrange their characters in rows of cells, and a pair of octets names a row and a
cell. In most of them an octet below 0x80 is a character of ASCII.
-/

namespace DocBuild

/-- Consecutive rows of characters. The replacement character stands in an empty cell, and the cells behind
the end of a row are empty. -/
structure Grid where
  firstRow : Nat
  firstCell : Nat
  rows : Array String

namespace Grid

/-- The character in a cell. -/
def at? (g : Grid) (row cell : Nat) : Option Text :=
  if row < g.firstRow || cell < g.firstCell then none
  else
    match (g.rows[row - g.firstRow]?).bind fun cells => cells.toList[cell - g.firstCell]? with
    | some '�' | none => none
    | some c => some [CodePoint.ofChar c]

/-- The character that one of several grids has in a cell. -/
def find? (grids : List Grid) (row cell : Nat) : Option Text := grids.findSome? (·.at? row cell)

/-- The character in a cell of single cells. -/
def single? (cells : List (Nat × Nat × Char)) (row cell : Nat) : Option Text :=
  cells.findSome? fun (r, c, x) => if r = row ∧ c = cell then some [CodePoint.ofChar x] else none

/-- The characters in a cell of single cells with several characters. -/
def compound? (cells : List (Nat × Nat × String)) (row cell : Nat) : Option Text :=
  cells.findSome? fun (r, c, x) => if r = row ∧ c = cell then some (Text.ofString x) else none

end Grid

namespace Piece

/-- The text of so many octets; octets without a text are ill-formed, and only the first one is passed. -/
def ofText? (length : Nat) : Option Text → Piece
  | some t => .text t length
  | none => .flaw .unassigned 1

/-- The first octet of a character whose other octets are missing, together with the octets behind it. -/
def cut (rest : Bytes) : Piece := .flaw .truncated (1 + rest.length)

end Piece

/-- Reads octets below 0x80 as ASCII and others in pairs. -/
def PieceReader.pairs (read : Nat → Nat → Option Text) : PieceReader := fun first rest =>
  if first.toNat < 0x80 then .point (CodePoint.ofByte first) 1
  else
    match rest with
    | second :: _ => .ofText? 2 (read first.toNat second.toNat)
    | [] => .cut rest

end DocBuild
