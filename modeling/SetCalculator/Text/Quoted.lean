import SetCalculator.Text.Unprintable

/-!
# Quoted text

Text is quoted by putting it between double quotes and writing some characters by an escape: a
short one for the tab, the line feed, the carriage return, NUL, the double quote and the backslash,
and the number between braces for any other unprintable character. A single quote stands for
itself. Log records quote what was read from outside, so that one record always stays on one line.
-/

namespace SetCalculator.Text

/-- The escape that writes a character by its code point, as in `\u{a0}`. -/
def numericEscape (c : Char) : List Char :=
  ['\\', 'u', '\x7b'] ++ Nat.toDigits 16 c.toNat ++ ['\x7d']

/-- The written form of one character of a quoted text. -/
def quoteChar (c : Char) : List Char :=
  match c with
  | '\x00' => ['\\', '0']
  | '\t' => ['\\', 't']
  | '\n' => ['\\', 'n']
  | '\r' => ['\\', 'r']
  | '"' => ['\\', '"']
  | '\\' => ['\\', '\\']
  | c => if isUnprintable c then numericEscape c else [c]

/-- The text between double quotes. -/
def quote (text : List Char) : String :=
  String.ofList ('"' :: (text.flatMap quoteChar ++ ['"']))

example : quote "a\tb\"'".toList = "\"a\\tb\\\"'\"" := by decide +kernel

end SetCalculator.Text
