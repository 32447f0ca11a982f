/-!
Capital forms of letters, as far as they are made of the letters `A` to `Z`.

Keywords, function names and operators are ASCII words that may be written in
any case. A letter outside ASCII can take part in such a word when its capital
form is ASCII: the dotless `ı`, the long `ſ`, the sharp `ß` and the ligatures.
All other characters stand for themselves, since no ASCII word contains them.
-/

namespace TableQuery.Text

/-- The capital form of one character. -/
def capital (c : Char) : List Char :=
  match c with
  | 'ı' => ['I']
  | 'ſ' => ['S']
  | 'ß' => ['S', 'S']
  | 'ﬀ' => ['F', 'F']
  | 'ﬁ' => ['F', 'I']
  | 'ﬂ' => ['F', 'L']
  | 'ﬃ' => ['F', 'F', 'I']
  | 'ﬄ' => ['F', 'F', 'L']
  | 'ﬅ' => ['S', 'T']
  | 'ﬆ' => ['S', 'T']
  | c => [c.toUpper]

/-- The capital form of a text. -/
def capitals (text : String) : String :=
  String.ofList (text.toList.flatMap capital)

end TableQuery.Text
