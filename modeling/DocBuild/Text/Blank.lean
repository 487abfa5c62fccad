import DocBuild.Text.Basic

/-!
# Blanks

White space in text: the separators of Unicode, the ASCII layout characters and the four information
separators.
-/

namespace DocBuild.CodePoint

/-- Whether a code point separates words. -/
def isBlank (c : CodePoint) : Bool :=
  (0x09 ≤ c.val && c.val ≤ 0x0D) || (0x1C ≤ c.val && c.val ≤ 0x20) || c.val == 0x85 ||
  c.val == 0xA0 || c.val == 0x1680 || (0x2000 ≤ c.val && c.val ≤ 0x200A) || c.val == 0x2028 ||
  c.val == 0x2029 || c.val == 0x202F || c.val == 0x205F || c.val == 0x3000

end DocBuild.CodePoint

namespace DocBuild.Text

/-- The text without the blanks around it. -/
def trim (t : Text) : Text :=
  ((t.dropWhile (·.isBlank)).reverse.dropWhile (·.isBlank)).reverse

end DocBuild.Text
