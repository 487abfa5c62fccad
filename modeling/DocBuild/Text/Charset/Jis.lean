import DocBuild.Text.Charset.Jis.Basic
import DocBuild.Text.Charset.Jis.Extension
import DocBuild.Text.Charset.Jis.Supplement
import DocBuild.Text.Charset.Jis.Windows

/-!
# Japanese encodings

The Japanese character sets have two families of encodings. One gives row and cell an octet each, both with
the highest bit set; the other packs pairs of rows, so that octets remain for the narrow syllables.
-/

namespace DocBuild.Jis

/-- The editions of JIS X 0213. -/
inductive Edition where
  | original
  | revised
deriving DecidableEq

/-- The cells of the first plane that the revised edition has filled. -/
def filledLater : List (Nat × Nat) :=
  [(14, 1), (15, 94), (47, 52), (47, 94), (84, 7), (94, 90), (94, 91), (94, 92), (94, 93), (94, 94)]

/-- Whether a cell of the first plane is empty in an edition because it was filled later. -/
def Edition.lacks (edition : Edition) (row cell : Nat) : Bool :=
  edition = .original && filledLater.contains (row, cell)

/-- The text in a cell of the first plane of JIS X 0213. -/
def firstPlane? (row cell : Nat) : Option Text :=
  basic.at? row cell <|> first.at? row cell <|> Grid.compound? compounds row cell

/-- The text of two octets that name a cell of the first plane; the octets of a cell that was filled later
are passed together. -/
def Edition.firstPlane (edition : Edition) (row cell : Nat) : Piece :=
  if edition.lacks row cell then .flaw .unassigned 2 else .ofText? 2 (firstPlane? row cell)

/-- The text in a cell of the second plane of JIS X 0213. The editions differ in one ideograph. -/
def Edition.secondPlane? (edition : Edition) (row cell : Nat) : Option Text :=
  if edition = .original ∧ row = 93 ∧ cell = 27 then some [CodePoint.ofChar '鬝'] else second.at? row cell

/-- The narrow syllable that an octet stands for. -/
def kana? (octet : Nat) : Option Text :=
  if 0xA1 ≤ octet && octet ≤ 0xDF then some [CodePoint.ofNat (0xFEC0 + octet)] else none

/-- The encodings with an octet for the row and an octet for the cell. Two octets are a narrow syllable
after 0x8E; row and cell in another table come after 0x8F. -/
def octetEach (two : Nat → Nat → Piece) (three : Nat → Nat → Option Text) : PieceReader :=
  fun first rest =>
    if first.toNat < 0x80 then .point (CodePoint.ofByte first) 1
    else
      match first, rest with
      | 0x8E, second :: _ => .ofText? 2 (kana? second.toNat)
      | 0x8F, second :: third :: _ => .ofText? 3 (three (second.toNat - 0xA0) (third.toNat - 0xA0))
      | 0x8F, _ => .cut rest
      | _, second :: _ => two (first.toNat - 0xA0) (second.toNat - 0xA0)
      | _, [] => .cut rest

/-- JIS X 0208, with JIS X 0212 as the other table. -/
def basicOctetEach : PieceReader :=
  octetEach (fun row cell => .ofText? 2 (basic.at? row cell)) supplement.at?

/-- JIS X 0213, with its second plane and JIS X 0212 as the other table. -/
def extendedOctetEach (edition : Edition) : PieceReader :=
  octetEach
    (fun row cell =>
      if row = 2 ∧ cell = 18 then .text [CodePoint.ofChar '～'] 2 else edition.firstPlane row cell)
    (fun row cell => edition.secondPlane? row cell <|> supplement.at? row cell)

/-- The row and the cell that a packed pair of octets names. The rows behind the last row of a plane are
those of the leading octets that remain. -/
def packed? (lead trail : Nat) : Option (Nat × Nat) :=
  if trail < 0x40 || trail = 0x7F || 0xFC < trail then none
  else
    let pair := if lead < 0xE0 then lead - 0x81 else lead - 0xC1
    let rank := if trail < 0x7F then trail - 0x40 else trail - 0x41
    some (2 * pair + rank / 94 + 1, rank % 94 + 1)

/-- The encodings of packed pairs of rows, by the characters of single octets and by row and cell. -/
def packedRows (single? : Nat → Option Text) (cell : Nat → Nat → Piece) : PieceReader := fun lead rest =>
  match single? lead.toNat <|> kana? lead.toNat with
  | some t => .text t 1
  | none =>
    if lead.toNat < 0x81 || lead.toNat = 0xA0 || 0xFC < lead.toNat then .flaw .unassigned 1
    else
      match rest with
      | [] => .cut rest
      | trail :: _ =>
        match packed? lead.toNat trail.toNat with
        | some (row, column) => cell row column
        | none => .flaw .unassigned 1

/-- JIS X 0208 in packed rows. -/
def basicPacked : PieceReader :=
  packedRows (fun b => if b < 0x80 then some [CodePoint.ofNat b] else none)
    (fun row cell => .ofText? 2 (basic.at? row cell))

/-- The characters of the single octets of code page 932. -/
def windowsSingle? (b : Nat) : Option Text :=
  if b ≤ 0x80 then some [CodePoint.ofNat b]
  else if b = 0xA0 then some [CodePoint.ofNat 0xF8F0]
  else if 0xFD ≤ b then some [CodePoint.ofNat (0xF8F1 + (b - 0xFD))]
  else none

/-- The characters of code page 932. Rows 95 to 114 are for private use. -/
def windowsCell? (row cell : Nat) : Option Text :=
  Grid.single? replaced row cell <|> Grid.find? added row cell <|> basic.at? row cell <|>
    if 95 ≤ row ∧ row ≤ 114 then some [CodePoint.ofNat (0xE000 + 94 * (row - 95) + (cell - 1))] else none

/-- Code page 932. -/
def windowsPacked : PieceReader :=
  packedRows windowsSingle? fun row cell => .ofText? 2 (windowsCell? row cell)

/-- The row of the second plane that has its place at a row behind the first plane. -/
def rowOfSecondPlane (row : Nat) : Nat :=
  if 104 ≤ row then row - 26 else if 100 ≤ row ∨ row = 96 then row - 88 else row - 94

/-- JIS X 0213 in packed rows. Two octets of ASCII have the characters of JIS X 0201. -/
def extendedPacked (edition : Edition) : PieceReader :=
  packedRows
    (fun b =>
      if b = 0x5C then some [CodePoint.ofChar '¥']
      else if b = 0x7E then some [CodePoint.ofChar '‾']
      else if b < 0x80 then some [CodePoint.ofNat b]
      else none)
    (fun row cell =>
      if 94 < row then .ofText? 2 (edition.secondPlane? (rowOfSecondPlane row) cell)
      else if row = 1 ∧ cell = 32 then .text [CodePoint.ofChar '\\'] 2
      else edition.firstPlane row cell)

end DocBuild.Jis
