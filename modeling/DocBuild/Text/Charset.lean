import DocBuild.Fault.Foreign
import DocBuild.Text.Charset.Big5
import DocBuild.Text.Charset.Octet
import DocBuild.Text.Charset.Switched
import DocBuild.Text.Escaped
import DocBuild.Text.Punycode
import DocBuild.Text.Strict
import DocBuild.Text.Utf7

/-!
# Character sets

The known character sets and the names by which they go. Reading octets in a character set is lenient: what
is ill-formed becomes the replacement character. It fails only for octets in larger units that do not begin
with a mark for the order of the octets in a unit, and for sets that offer no lenient reading at all.

A name is looked up without regard to case, and with any run of other signs between its letters and digits
read as one joint.
-/

namespace DocBuild

/-- A way to read octets as text. -/
structure Charset where
  lenient : Bytes → Except ForeignError Text
  strict? : Bytes → Option Text

namespace Charset

/-- The character set that reads octets in pieces. -/
def ofPieces (pieces : Bytes → List Piece) : Charset where
  lenient bytes := .ok ((pieces bytes).flatMap Piece.lenient)
  strict? bytes := ((pieces bytes).mapM Piece.strict?).map List.flatten

/-- The character set of a reader without a state. -/
def ofReader (read : PieceReader) : Charset := ofPieces read.pieces

/-- The character set of a reader with a state. -/
def ofStateful {State : Type} (reader : StatefulReader State) : Charset := ofPieces reader.pieces

/-- A character set without a lenient reading. -/
def unreadable (error : ForeignError) : Charset := ⟨fun _ => .error error, fun _ => none⟩

/-- UTF-8 after an optional mark. A text that ends within the mark is empty. -/
def utf8Marked : Charset :=
  let strict := ofReader Utf8.read
  let mark : Bytes := [0xEF, 0xBB, 0xBF]
  let unmarked (bytes : Bytes) := if mark.isPrefixOf bytes then bytes.drop 3 else bytes
  { lenient bytes :=
      if bytes.length < 3 && bytes.isPrefixOf mark then .ok [] else strict.lenient (unmarked bytes)
    strict? bytes := strict.strict? (unmarked bytes) }

/-- Units of `width` octets whose order a mark gives. Without a mark there is no lenient reading; the strict
one takes the octets of a unit in reverse. -/
def marked (width : Nat) (big little : Bytes) (read : ByteOrder → PieceReader) (name : Text) : Charset :=
  let unmarked (bytes : Bytes) :=
    if big.isPrefixOf bytes then some ((read .big).pieces (bytes.drop width))
    else if little.isPrefixOf bytes then some ((read .little).pieces (bytes.drop width))
    else if bytes.length < width then some ((read .little).pieces bytes)
    else none
  { lenient bytes :=
      match unmarked bytes with
      | some pieces => .ok (pieces.flatMap Piece.lenient)
      | none => .error ⟨.badText, name ++ " stream does not start with BOM"⟩
    strict? bytes :=
      (((unmarked bytes).getD ((read .little).pieces bytes)).mapM Piece.strict?).map List.flatten }

/-- An encoding that switches between character sets. A text that ends in a long unfinished escape sequence
is refused, as is a character taken from a register that offers none. -/
def switched (encoding : SwitchedEncoding) : Charset :=
  let free := ofPieces encoding.pieces
  { free with
    lenient bytes :=
      let pieces := encoding.pieces bytes
      let isRefused : Piece → Option ForeignError
        | .flaw .noSingleShift _ => some ⟨.runtime, DecodeFlaw.noSingleShift.message⟩
        | .flaw .truncated n => if 8 < n then some ⟨.badText, "pending buffer overflow"⟩ else none
        | _ => none
      match pieces.findSome? isRefused with
      | some error => .error error
      | none => free.lenient bytes }

/-- Punycode. Octets behind the last hyphen have to be ASCII. -/
def punycode : Charset where
  lenient bytes :=
    let behind := (Punycode.split bytes).2
    match Piece.firstFlaw? 0 (Punycode.readAscii.pieces behind) with
    | some place =>
      .error ⟨.undecodable, "'ascii' codec can't decode byte 0x" ++
        Text.hex 2 (behind.getD place.position 0).toNat ++ " in position " ++ Text.ofNat place.position ++
        ": ordinal not in range(128)"⟩
    | none => .ok (Punycode.decode bytes).1
  strict? bytes :=
    let (text, isValid) := Punycode.decode bytes
    if isValid then some text else none

/-- The sets that are more than a table of octets, with their names; the first name of each is its own. -/
def others : List (String × List String × Charset) :=
  [("ascii", ["646", "ansi_x3.4_1968", "ansi_x3.4_1986", "ansi_x3_4_1968", "cp367", "csascii", "ibm367",
      "iso646_us", "iso_646.irv_1991", "iso_ir_6", "us", "us_ascii"], ofReader Punycode.readAscii),
   ("latin_1", ["8859", "cp819", "csisolatin1", "ibm819", "iso8859", "iso8859_1", "iso_8859_1",
      "iso_8859_1_1987", "iso_ir_100", "l1", "latin", "latin1"],
    ofReader fun b _ => .point (CodePoint.ofByte b) 1),
   ("charmap", [], ofReader fun b _ => .point (CodePoint.ofByte b) 1),
   ("utf_7", ["u7", "unicode_1_1_utf_7", "utf7"], ofPieces Utf7.pieces),
   ("utf_8", ["cp65001", "u8", "utf", "utf8", "utf8_ucs2", "utf8_ucs4"], ofReader Utf8.read),
   ("utf_8_sig", [], utf8Marked),
   ("utf_16", ["u16", "utf16"],
    marked 2 [0xFE, 0xFF] [0xFF, 0xFE] (fun order => Utf16.read order false) "UTF-16"),
   ("utf_16_be", ["unicodebigunmarked", "utf_16be"], ofReader (Utf16.read .big false)),
   ("utf_16_le", ["unicodelittleunmarked", "utf_16le"], ofReader (Utf16.read .little false)),
   ("utf_32", ["u32", "utf32"],
    marked 4 [0, 0, 0xFE, 0xFF] [0xFF, 0xFE, 0, 0] (fun order => Utf32.read order false) "UTF-32"),
   ("utf_32_be", ["utf_32be"], ofReader (Utf32.read .big false)),
   ("utf_32_le", ["utf_32le"], ofReader (Utf32.read .little false)),
   ("unicode_escape", [], ofReader Escaped.read),
   ("raw_unicode_escape", [], ofReader Escaped.readNumbers),
   ("punycode", [], punycode),
   ("idna", [], unreadable ⟨.badText, "Unsupported error handling replace"⟩),
   ("undefined", [], unreadable ⟨.badText, "undefined encoding"⟩),
   ("euc_jp", ["eucjp", "u_jis", "ujis"], ofReader Jis.basicOctetEach),
   ("euc_jis_2004", ["euc_jis2004", "eucjis2004", "jisx0213"], ofReader (Jis.extendedOctetEach .revised)),
   ("euc_jisx0213", ["eucjisx0213"], ofReader (Jis.extendedOctetEach .original)),
   ("shift_jis", ["csshiftjis", "s_jis", "shiftjis", "sjis", "x_mac_japanese"], ofReader Jis.basicPacked),
   ("shift_jis_2004", ["s_jis_2004", "shiftjis2004", "sjis_2004"], ofReader (Jis.extendedPacked .revised)),
   ("shift_jisx0213", ["s_jisx0213", "shiftjisx0213", "sjisx0213"],
    ofReader (Jis.extendedPacked .original)),
   ("cp932", ["932", "ms932", "ms_kanji", "mskanji"], ofReader Jis.windowsPacked),
   ("iso2022_jp", ["csiso2022jp", "iso2022jp", "iso_2022_jp"], switched .japanese),
   ("iso2022_jp_1", ["iso2022jp_1", "iso_2022_jp_1"], switched .japaneseSupplemented),
   ("iso2022_jp_2", ["iso2022jp_2", "iso_2022_jp_2"], switched .multilingual),
   ("iso2022_jp_2004", ["iso2022jp_2004", "iso_2022_jp_2004"], switched (.japaneseExtended .revised)),
   ("iso2022_jp_3", ["iso2022jp_3", "iso_2022_jp_3"], switched (.japaneseExtended .original)),
   ("iso2022_jp_ext", ["iso2022jp_ext", "iso_2022_jp_ext"], switched .japaneseNarrow),
   ("gb2312", ["chinese", "csiso58gb231280", "euc_cn", "euccn", "eucgb2312_cn", "gb2312_1980", "gb2312_80",
      "iso_ir_58", "x_mac_simp_chinese"], ofReader Gb.octetEach),
   ("gbk", ["936", "cp936", "ms936"], ofReader Gb.extended),
   ("gb18030", ["gb18030_2000"], ofReader Gb.full),
   ("hz", ["hz_gb", "hz_gb_2312", "hzgb"], ofStateful Gb.sevenBits),
   ("big5", ["big5_tw", "csbig5", "x_mac_trad_chinese"], ofReader Big5.plain),
   ("cp950", ["950", "ms950"], ofReader Big5.windows),
   ("big5hkscs", ["big5_hkscs", "hkscs"], ofReader Big5.hongKong),
   ("euc_kr", ["euckr", "korean", "ks_c_5601", "ks_c_5601_1987", "ks_x_1001", "ksc5601", "ksx1001",
      "x_mac_korean"], ofReader Ks.octetEach),
   ("cp949", ["949", "ms949", "uhc"], ofReader Ks.windows),
   ("johab", ["cp1361", "ms1361"], ofReader Ks.johab),
   ("iso2022_kr", ["csiso2022kr", "iso2022kr", "iso_2022_kr"], switched .korean),
   ("rot_13", ["rot13"],
    unreadable ⟨.type, "descriptor 'translate' for 'str' objects doesn't apply to a 'bytes' object"⟩)]

/-- The names of encodings of octets in octets, which are no character sets. -/
def binary : List (String × List String) :=
  [("base64_codec", ["base64", "base_64"]), ("bz2_codec", ["bz2"]), ("hex_codec", ["hex"]),
   ("quopri_codec", ["quopri", "quoted_printable", "quotedprintable"]), ("uu_codec", ["uu"]),
   ("zlib_codec", ["zip", "zlib"])]

/-- All names with their character sets. -/
def all : List (String × List String × Charset) :=
  others ++ OctetSet.all.map (fun set => (set.name, set.aliases, ofReader set.read)) ++
    binary.map fun (name, aliases) => (name, aliases, unreadable ⟨.assertion, []⟩)

/-- The letters, digits and points of a name in small letters, with one joint for any other signs between
them. `isJoined` says whether a joint is due. -/
def joined (isJoined : Bool) : Text → List Char
  | [] => []
  | c :: rest =>
    if c.isLetter || c.isDigit || c.val = 0x2E then
      (if isJoined then ['_'] else []) ++ Char.ofNat c.val :: joined false rest
    else joined true rest

/-- The form of a name that the list of character sets uses. -/
def canonical (name : Text) : String :=
  let isSign (c : CodePoint) := !(c.isLetter || c.isDigit || c.val = 0x2E)
  String.ofList (joined false ((Text.lowerAscii name).dropWhile isSign))

/-- The character set with a name in that form. Its own name has no points in it; in its other names a point
is as good as a joint. -/
def find? (key : String) : Option Charset :=
  let withoutPoints := String.ofList (key.toList.map fun c => if c = '.' then '_' else c)
  ((all.find? (·.2.1.contains key)).or (all.find? (·.2.1.contains withoutPoints))).or
    (all.find? (·.1 == key)) |>.map (·.2.2)

/-- The character set that goes by a name. No name has a NUL character. -/
def ofName? (name : Text) : Except ForeignError (Option Charset) :=
  if name.any (·.val = 0) then .error ⟨.value, "embedded null character"⟩ else .ok (find? (canonical name))

/-- UTF-8, the character set of texts without a known one. -/
def utf8 : Charset := ofReader Utf8.read

end Charset

end DocBuild
