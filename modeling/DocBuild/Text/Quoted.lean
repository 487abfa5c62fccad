import DocBuild.Text.Printable

/-!
# Quoted text

The form in which a text appears inside a message: between quotes, with a backslash before the
backslash and the quote, letters for tab and line ends, and hexadecimal escapes for all else that is
not printable. Single quotes are used unless the text has a single quote and no double one.
-/

namespace DocBuild.Text

/-- The single quote. -/
def singleQuote : CodePoint := ⟨0x27, by decide⟩

/-- The double quote. -/
def doubleQuote : CodePoint := ⟨0x22, by decide⟩

/-- The backslash. -/
def backslash : CodePoint := ⟨0x5C, by decide⟩

/-- The mark that quotes a text. -/
def quoteMark (t : Text) : CodePoint :=
  if singleQuote ∈ t ∧ doubleQuote ∉ t then doubleQuote else singleQuote

/-- The escape that stands for one code point between the quotes `mark`. -/
def escapeQuoted (mark c : CodePoint) : Text :=
  if c = mark ∨ c = backslash then [backslash, c]
  else if c.val = 0x09 then "\\t"
  else if c.val = 0x0A then "\\n"
  else if c.val = 0x0D then "\\r"
  else if c.isPrintable then [c]
  else if c.val < 0x100 then "\\x" ++ hex 2 c.val
  else if c.val < 0x10000 then "\\u" ++ hex 4 c.val
  else "\\U" ++ hex 8 c.val

/-- The text in quotes. -/
def quoted (t : Text) : Text :=
  quoteMark t :: t.flatMap (escapeQuoted (quoteMark t)) ++ [quoteMark t]

end DocBuild.Text
