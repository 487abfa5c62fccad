import DocBuild.Text.Charset.Ks.Basic

/-!
# Korean encodings

A Korean syllable is made of an initial, a vowel and possibly a final, and the syllables stand in Unicode in
the order of these. KS X 1001 lists the common syllables; the encodings name the other ones by their parts or
list them behind.
-/

namespace DocBuild.Ks

/-- The initials of syllables. -/
def initials : String := "ㄱㄲㄴㄷㄸㄹㅁㅂㅃㅅㅆㅇㅈㅉㅊㅋㅌㅍㅎ"

/-- The finals of syllables. -/
def finals : String := "ㄱㄲㄳㄴㄵㄶㄷㄹㄺㄻㄼㄽㄾㄿㅀㅁㅂㅄㅅㅆㅇㅈㅊㅋㅌㅍㅎ"

/-- The syllable with the given ranks of its parts; the rank 0 of the final is for none. -/
def syllable (initial vowel final : Nat) : CodePoint :=
  CodePoint.ofNat (0xAC00 + 588 * initial + 28 * vowel + final)

/-- The vowel of a rank. -/
def vowel (rank : Nat) : CodePoint := CodePoint.ofNat (0x314F + rank)

/-- The syllables that KS X 1001 lacks. -/
def furtherSyllables : Array CodePoint :=
  let listed := basic.rows.foldl (fun listed row => row.toList.foldl (fun listed c =>
    if 0xAC00 ≤ c.toNat then listed.setIfInBounds (c.toNat - 0xAC00) true else listed) listed)
    (Array.replicate 11172 false)
  ((Array.range 11172).filter fun n => !listed.getD n true).map fun n => CodePoint.ofNat (0xAC00 + n)

/-- The rank of a pair of octets among those for the syllables that KS X 1001 lacks. -/
def furtherRank? (lead trail : Nat) : Option Nat :=
  let rank? :=
    if 0x41 ≤ trail && trail ≤ 0x5A then some (trail - 0x41)
    else if 0x61 ≤ trail && trail ≤ 0x7A then some (trail - 0x61 + 26)
    else if 0x81 ≤ trail && trail ≤ 0xFE then some (trail - 0x81 + 52)
    else none
  rank?.bind fun rank =>
    if 0x81 ≤ lead && lead ≤ 0xA0 then some (178 * (lead - 0x81) + rank)
    else if 0xA1 ≤ lead && rank < 84 then some (5696 + 84 * (lead - 0xA1) + rank)
    else none

/-- Code page 949: KS X 1001 and the other syllables. -/
def windows : PieceReader := .pairs fun lead trail =>
  basic.at? (lead - 0xA0) (trail - 0xA0) <|>
    (furtherRank? lead trail).bind fun rank => furtherSyllables[rank]?.map ([·])

/-- The rank of a letter given by the octet of its cell in row 4. -/
def rankIn? (letters : String) (octet : UInt8) : Option Nat :=
  if 0xA1 ≤ octet.toNat && octet.toNat ≤ 0xBE then
    letters.toList.findIdx? (·.toNat = 0x3131 + (octet.toNat - 0xA1))
  else none

/-- A syllable spelled by the octets of the cells of its parts in row 4; the filler is no final. -/
def spelled? (initial middle final : UInt8) : Option Text := do
  let i ← rankIn? initials initial
  let v ← if 0xBF ≤ middle.toNat && middle.toNat ≤ 0xD3 then some (middle.toNat - 0xBF) else none
  let f ← if final = 0xD4 then some 0 else (rankIn? finals final).map (· + 1)
  return [syllable i v f]

/-- KS X 1001 with an octet for the row and an octet for the cell. Eight octets that begin with the filler
spell a syllable. -/
def octetEach : PieceReader := fun first rest =>
  if first.toNat < 0x80 then .point (CodePoint.ofByte first) 1
  else
    match first, rest with
    | 0xA4, 0xD4 :: 0xA4 :: i :: 0xA4 :: v :: 0xA4 :: f :: _ => .ofText? 8 (spelled? i v f)
    | 0xA4, 0xD4 :: more => if more.length < 6 then .cut rest else .flaw .unassigned 1
    | _, second :: _ => .ofText? 2 (basic.at? (first.toNat - 0xA0) (second.toNat - 0xA0))
    | _, [] => .cut rest

/-- A part of a syllable in five bits: the filler, or the rank of a letter. -/
inductive Part where
  | filler
  | letter (rank : Nat)

/-- The initial that five bits name. -/
def initialPart? (bits : Nat) : Option Part :=
  if bits = 1 then some .filler
  else if 2 ≤ bits && bits ≤ 20 then some (.letter (bits - 2))
  else none

/-- The vowel that five bits name. The first two values of every eight are free. -/
def vowelPart? (bits : Nat) : Option Part :=
  if bits = 2 then some .filler
  else if bits < 3 || bits % 8 < 2 || 29 < bits then none
  else some (.letter (bits - 3 - 2 * (bits / 8)))

/-- The final that five bits name. -/
def finalPart? (bits : Nat) : Option Part :=
  if bits = 1 then some .filler
  else if 2 ≤ bits && bits ≤ 17 then some (.letter (bits - 2))
  else if 19 ≤ bits && bits ≤ 29 then some (.letter (bits - 3))
  else none

/-- The character made of three parts: a syllable, a letter alone, or a blank. -/
def combined? : Part → Part → Part → Option Text
  | .letter i, .letter v, .letter f => some [syllable i v (f + 1)]
  | .letter i, .letter v, .filler => some [syllable i v 0]
  | .letter i, .filler, .filler => (initials.toList[i]?).map fun c => [CodePoint.ofChar c]
  | .filler, .letter v, .filler => some [vowel v]
  | .filler, .filler, .letter f => (finals.toList[f]?).map fun c => [CodePoint.ofChar c]
  | .filler, .filler, .filler => some [CodePoint.ofChar '\u3000']
  | _, _, _ => none

/-- Row and cell of a character that is no syllable, from two octets that pack pairs of rows. -/
def packed? (lead trail : Nat) : Option (Nat × Nat) :=
  if lead < 0xD9 || lead = 0xDF || 0xF9 < lead || trail < 0x31 || (0x80 ≤ trail && trail < 0x91) ||
      trail % 128 = 0x7F || (lead = 0xDA && 0xA1 ≤ trail && trail ≤ 0xD3) then none
  else
    let row := if lead < 0xE0 then 2 * (lead - 0xD9) else 2 * lead - 0x197
    let rank := if trail < 0x91 then trail - 0x31 else trail - 0x43
    some (row + rank / 94 + 1, rank % 94 + 1)

/-- Johab: the parts of a syllable in five bits each, and the other characters of KS X 1001 in packed rows. -/
def johab : PieceReader := .pairs fun lead trail =>
  if lead < 0xD8 then do
    let i ← initialPart? (lead / 4 % 32)
    let v ← vowelPart? ((8 * lead + trail / 32) % 32)
    let f ← finalPart? (trail % 32)
    combined? i v f
  else do
    let (row, cell) ← packed? lead trail
    basic.at? row cell

end DocBuild.Ks
