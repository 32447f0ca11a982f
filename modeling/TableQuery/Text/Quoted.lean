/-!
Texts between quotes, with escapes.

What is quoted can be told from everything else: quotes, backslashes and the
characters that cannot be seen are written as escapes, and so the first quote that
is not part of an escape is the end of the text.
-/

namespace TableQuery.Text

/-- The letters that stand for some characters behind a backslash. -/
def escapeLetters : List (Char × Char) :=
  [('\x00', '0'), ('\t', 't'), ('\r', 'r'), ('\n', 'n'), ('\x22', '\x22'), ('\\', '\\')]

/-- A character as it is written between quotes: by its letter, by its code point in
hexadecimal digits when it is hidden, or as itself. -/
def escape (hidden : Char → Bool) (c : Char) : List Char :=
  match escapeLetters.lookup c with
  | some letter => ['\\', letter]
  | none =>
    if hidden c then ['\\', 'u', '\x7b'] ++ Nat.toDigits 16 c.toNat ++ ['\x7d'] else [c]

/-- A text between double quotes. -/
def quoted (hidden : Char → Bool) (cs : List Char) : List Char :=
  ['\x22'] ++ cs.flatMap (escape hidden) ++ ['\x22']

end TableQuery.Text
