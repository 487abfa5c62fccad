import DocBuild.Text.Utf8

/-!
# Percent escapes

Each run of ASCII characters is read as octets, in which a percent sign with two hexadecimal digits stands
for one octet, and the octets as UTF-8. A percent sign without two digits stands for itself. All other
characters are kept.
-/

namespace DocBuild.Url

/-- The octets of a run of ASCII characters. -/
def unescape : Text → Bytes
  | [] => []
  | c :: rest =>
    if c.val = 0x25 then
      match rest with
      | a :: b :: tail =>
        match a.hexValue?, b.hexValue? with
        | some high, some low => UInt8.ofNat (high * 16 + low) :: unescape tail
        | _, _ => 0x25 :: unescape (a :: b :: tail)
      | tail => 0x25 :: unescape tail
    else UInt8.ofNat c.val :: unescape rest

/-- A character of ASCII. -/
def isAscii (c : CodePoint) : Bool := c.val < 0x80

/-- The text of a run of characters that are either all ASCII or none of them. -/
def decodeRun (run : Text) : Text :=
  if run.all isAscii then Utf8.read.lenient (unescape run) else run

/-- The text that an escaped text stands for. -/
def percentDecode (t : Text) : Text :=
  (t.splitBy fun a b => isAscii a == isAscii b).flatMap decodeRun

example : percentDecode "q3%20é%C3%A9%zz" = "q3 éé%zz" := by decide +kernel

end DocBuild.Url
