import DocBuild.Text.Charset.Grid

/-!
# Characters of Windows in Big5

The characters that code page 950 changes in Big5 and adds to it, by leading octet and by the rank of the
trailing octet.
-/

namespace DocBuild.Big5

/-- Places of Big5 with another character. -/
def replaced : List (Nat × Nat × Char) :=
  [(0xA1, 5, '‧'), (0xA1, 14, '﹑'), (0xA1, 96, '¯'), (0xA1, 129, '～'), (0xA1, 144, '⊕'), (0xA1, 145, '⊙'), (0xA2, 1, '∕'), (0xA2, 2, '﹨'), (0xA2, 4, '￥'), (0xA2, 6, '￠'), (0xA2, 7, '￡')]

/-- The added characters. -/
def added : List Grid :=
  [⟨163, 127, #[
    "€"]⟩,
   ⟨249, 116, #[
    "碁銹裏墻恒粧嫺╔╦╗╠╬╣╚╩╝╒╤╕╞╪╡╘╧╛╓╥╖╟╫╢╙╨╜║═╭╮╰╯▓"]⟩]

end DocBuild.Big5
