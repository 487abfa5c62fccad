import DocBuild.Text.Charset.Big5.Basic
import DocBuild.Text.Charset.Big5.HongKong
import DocBuild.Text.Charset.Big5.Windows

/-!
# Big5

Big5 encodes the traditional Chinese characters in pairs of octets. Its two successors change and add
characters.
-/

namespace DocBuild.Big5

/-- The rank of a trailing octet. -/
def rank? (trail : Nat) : Option Nat :=
  if 0x40 ≤ trail && trail ≤ 0x7E then some (trail - 0x40)
  else if 0xA1 ≤ trail && trail ≤ 0xFE then some (trail - 0x62)
  else none

/-- Big5. -/
def plain : PieceReader := .pairs fun lead trail => do basic.at? lead (← rank? trail)

/-- Code page 950. -/
def windows : PieceReader := .pairs fun lead trail => do
  let rank ← rank? trail
  Grid.single? replaced lead rank <|> Grid.find? added lead rank <|> basic.at? lead rank

/-- Whether a pair of octets is in the part of Big5 that Hong Kong uses in its own way. -/
def isReplacedPart (lead trail : Nat) : Bool :=
  (lead = 0xC6 && 0xA1 ≤ trail) || lead = 0xC7 || lead = 0xC8

/-- Big5 with the supplementary characters of Hong Kong. -/
def hongKong : PieceReader := .pairs fun lead trail => do
  let rank ← rank? trail
  (if isReplacedPart lead trail then none else basic.at? lead rank) <|>
    Grid.find? supplement lead rank <|> Grid.compound? compounds lead rank

end DocBuild.Big5
