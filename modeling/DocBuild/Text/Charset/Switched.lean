import DocBuild.Text.Charset.Gb
import DocBuild.Text.Charset.Jis
import DocBuild.Text.Charset.Ks

/-!
# Encodings that switch between character sets

In seven bits, an escape sequence designates a character set for one of three registers. The octets of the
text are in the set of the first register, or in that of the second one after a shift; an escape in front of
a single octet takes it from the third one. An encoding allows some of the sets and some of these means.
-/

namespace DocBuild

/-- The character sets that can be designated. -/
inductive Designated where
  | ascii
  | roman
  | kana
  | latin
  | greek
  | japanese
  | japaneseSupplement
  | japaneseFirst (edition : Jis.Edition)
  | japaneseSecond
  | chinese
  | korean
deriving DecidableEq

namespace Designated

/-- The set that an escape sequence designates by its last octet, among those of single octets and among
those of pairs. -/
def ofFinal? (paired : Bool) (final : UInt8) : Option Designated :=
  match paired, Char.ofNat final.toNat with
  | false, 'A' => some latin
  | false, 'B' => some ascii
  | false, 'F' => some greek
  | false, 'I' => some kana
  | false, 'J' => some roman
  | true, '@' => some japanese
  | true, 'A' => some chinese
  | true, 'B' => some japanese
  | true, 'C' => some korean
  | true, 'D' => some japaneseSupplement
  | true, 'O' => some (japaneseFirst .original)
  | true, 'P' => some japaneseSecond
  | true, 'Q' => some (japaneseFirst .revised)
  | _, _ => none

/-- The piece that one octet of a set is. -/
def single (read : Nat → Option Text) (first : UInt8) : Piece := .ofText? 1 (read first.toNat)

/-- The piece that two octets of a set are. Octets without a character are passed together. -/
def pair (read : Nat → Nat → Option Text) (first : UInt8) : Bytes → Piece
  | [] => .cut []
  | second :: _ =>
    match read (first.toNat - 0x20) (second.toNat - 0x20) with
    | some t => .text t 2
    | none => .flaw .unassigned 2

/-- The first piece of octets in a set. The sets of accented letters have no characters here: theirs are
taken one by one. -/
def read (set : Designated) (first : UInt8) (rest : Bytes) : Piece :=
  match set with
  | ascii => .point (CodePoint.ofByte first) 1
  | roman =>
    single (fun n =>
      if n = 0x5C then some [CodePoint.ofChar '¥']
      else if n = 0x7E then some [CodePoint.ofChar '‾']
      else some [CodePoint.ofNat n]) first
  | kana => single (fun n => Jis.kana? (n + 0x80)) first
  | latin | greek => .flaw .unassigned 1
  | japanese => pair Jis.basic.at? first rest
  | japaneseSupplement => pair Jis.supplement.at? first rest
  | japaneseFirst edition =>
    pair (fun row cell => if edition.lacks row cell then none else Jis.firstPlane? row cell) first rest
  | japaneseSecond => pair Jis.second.at? first rest
  | chinese => pair Gb.basic.at? first rest
  | korean => pair Ks.basic.at? first rest

end Designated

/-- An encoding that switches between character sets. -/
structure SwitchedEncoding where
  /-- The sets besides ASCII that can be designated, with the last octets of their escape sequences. -/
  sets : List (Bool × Char)
  /-- Whether the octets 0x0E and 0x0F switch to the second register and back. -/
  hasShifts : Bool := false
  /-- Whether there is a third register. -/
  hasSingleShift : Bool := false
  /-- Whether a revision can be announced in front of a designation. -/
  hasRevisions : Bool := true

namespace SwitchedEncoding

/-- What the octets so far have switched to. After an escape that starts no known sequence, octets pass as
they are up to the end of the sequence. -/
structure State where
  first : Designated := .ascii
  second : Designated := .ascii
  third : Designated := .ascii
  shifted : Bool := false
  passing : Bool := false

/-- The octet that escape sequences start with. -/
def escape : UInt8 := 0x1B

/-- Whether an octet ends an escape sequence. -/
def isFinal (b : UInt8) : Bool := b = 0x40 || (0x41 ≤ b.toNat && b.toNat ≤ 0x5A)

/-- How far the search for the end of an escape sequence gets. -/
inductive Extent where
  | unfinished
  | endless
  | octets (count : Nat)

/-- The extent of an escape sequence of which `seen` octets have been looked at. At most sixteen are; the two
octets that announce a revision do not end it. -/
def extent (hasRevisions : Bool) : Nat → Nat → Bytes → Extent
  | 0, _, _ => .endless
  | fuel + 1, seen, rest =>
    if 16 ≤ seen then .endless
    else
      match rest with
      | [] => .unfinished
      | b :: more =>
        if isFinal b then .octets (seen + 1)
        else
          match hasRevisions && b = 0x26, more with
          | true, 0x40 :: more => extent hasRevisions fuel (seen + 3) (more.drop 1)
          | _, _ => extent hasRevisions fuel (seen + 1) more

/-- The registers. -/
inductive Register where
  | first
  | second
  | third

/-- The register and the set that a whole escape sequence names, without the escape in front. -/
def designation? (e : SwitchedEncoding) : Bytes → Option (Register × Bool × UInt8)
  | [0x24, final] => some (.first, true, final)
  | [0x28, final] => some (.first, false, final)
  | [0x29, final] => some (.second, false, final)
  | [0x2E, final] => if e.hasSingleShift then some (.third, false, final) else none
  | [0x24, 0x28, final] => some (.first, true, final)
  | [0x24, 0x29, final] => some (.second, true, final)
  | [_, _, 0x1B, 0x24, 0x42] => if e.hasRevisions then some (.first, true, 0x42) else none
  | _ => none

/-- The set that an encoding has under the last octet of an escape sequence. -/
def set? (e : SwitchedEncoding) (paired : Bool) (final : UInt8) : Option Designated :=
  if !paired && final = 0x42 then some .ascii
  else if e.sets.contains (paired, Char.ofNat final.toNat) then Designated.ofFinal? paired final
  else none

/-- The state after a set has been designated for a register. -/
def State.designate (s : State) (register : Register) (set : Designated) : State :=
  match register with
  | .first => { s with first := set }
  | .second => { s with second := set }
  | .third => { s with third := set }

/-- The piece that an escape sequence is, with the state after it. -/
def readSequence (e : SwitchedEncoding) (s : State) (rest : Bytes) : Piece × State :=
  match extent e.hasRevisions 16 1 rest with
  | .unfinished => (.cut rest, s)
  | .endless => (.flaw .unassigned 1, s)
  | .octets n =>
    match e.designation? (rest.take (n - 1)) with
    | none => (.flaw .unassigned n, s)
    | some (register, paired, final) =>
      match e.set? paired final with
      | none => (.flaw .unassigned n, s)
      | some set => (.text [] n, s.designate register set)

/-- The characters of the Greek set from 0xA0 on. -/
def greekCharacters : String :=
  "\xa0‘’£��¦§¨©�«¬\xad�―°±²³΄΅Ά·ΈΉΊ»Ό½ΎΏΐΑΒΓΔΕΖΗΘΙΚΛΜΝΞΟΠΡ�ΣΤΥΦΧΨΩΪΫάέήίΰαβγδεζηθικλμνξοπρςστυφχψω" ++
    "ϊϋόύώ�"

/-- The character of an octet in the Greek set. -/
def greek? (octet : Nat) : Option Text :=
  if octet < 0xA0 then some [CodePoint.ofNat octet]
  else
    match greekCharacters.toList[octet - 0xA0]? with
    | some '�' | none => none
    | some c => some [CodePoint.ofChar c]

/-- The piece that an octet from the third register is, with the two octets that announce it. Its highest bit
is flipped in the sets of accented letters; no other set but ASCII can be used so. -/
def readThird (third : Designated) (octet : UInt8) : Piece :=
  let text? (t? : Option Text) : Piece :=
    match t? with
    | some t => .text t 3
    | none => .flaw .unassigned 3
  match third with
  | .ascii => text? (if octet.toNat < 0x80 then some [CodePoint.ofByte octet] else none)
  | .latin => text? (if octet.toNat < 0x80 then some [CodePoint.ofNat (octet.toNat + 0x80)] else none)
  | .greek => text? (greek? (if octet.toNat < 0x80 then octet.toNat + 0x80 else octet.toNat - 0x80))
  | _ => .flaw .noSingleShift 3

/-- The piece that starts with an escape, with the state after it. -/
def readEscape (e : SwitchedEncoding) (s : State) (rest : Bytes) : Piece × State :=
  match rest with
  | [] => (.cut rest, s)
  | next :: more =>
    if [0x28, 0x29, 0x24, 0x2E, 0x26].contains next then e.readSequence s rest
    else if e.hasSingleShift && next = 0x4E then
      match more with
      | [] => (.cut rest, s)
      | octet :: _ => (readThird s.third octet, s)
    else (.point (CodePoint.ofByte escape) 1, { s with passing := true })

/-- The first piece of a byte string, with the state after it. A line end takes back a shift. -/
def read (e : SwitchedEncoding) (s : State) (first : UInt8) (rest : Bytes) : Piece × State :=
  if s.passing then (.point (CodePoint.ofByte first) 1, { s with passing := !isFinal first })
  else if first = escape then e.readEscape s rest
  else if e.hasShifts && first = 0x0F then (.text [] 1, { s with shifted := false })
  else if e.hasShifts && first = 0x0E then (.text [] 1, { s with shifted := true })
  else if first = 0x0A then (.point (CodePoint.ofByte first) 1, { s with shifted := false })
  else if first.toNat < 0x20 then (.point (CodePoint.ofByte first) 1, s)
  else if 0x80 ≤ first.toNat then (.flaw .unassigned 1, s)
  else ((if s.shifted then s.second else s.first).read first rest, s)

/-- The pieces of a byte string. -/
def pieces (e : SwitchedEncoding) : Bytes → List Piece := StatefulReader.pieces ⟨{}, e.read, fun _ => none⟩

/-- The Japanese encodings of electronic mail have the sets of JIS X 0208 and the national ASCII. -/
def japanese : SwitchedEncoding := ⟨[(true, '@'), (true, 'B'), (false, 'J')], false, false, true⟩

/-- With the supplementary characters. -/
def japaneseSupplemented : SwitchedEncoding := { japanese with sets := (true, 'D') :: japanese.sets }

/-- With narrow syllables. -/
def japaneseNarrow : SwitchedEncoding :=
  { japanese with sets := (false, 'I') :: japaneseSupplemented.sets }

/-- With Chinese and Korean characters and accented letters. -/
def multilingual : SwitchedEncoding :=
  { japanese with
    sets := [(true, 'A'), (true, 'C'), (false, 'A'), (false, 'F')] ++ japaneseSupplemented.sets
    hasSingleShift := true }

/-- With JIS X 0213 in an edition. -/
def japaneseExtended (edition : Jis.Edition) : SwitchedEncoding :=
  { japanese with
    sets := [(true, 'B'), (true, 'P'), (true, if edition = .original then 'O' else 'Q')] }

/-- The Korean encoding of electronic mail shifts to pairs. -/
def korean : SwitchedEncoding := ⟨[(true, 'C')], true, false, false⟩

end SwitchedEncoding

end DocBuild
