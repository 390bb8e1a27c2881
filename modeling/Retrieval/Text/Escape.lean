/-
  Retrieval/Text/Escape.lean
  ==========================
  **Protecting caller text inside query strings.**

  The query-string syntax gives a meaning to nineteen *reserved* characters.  A
  backslash in front of a character takes that meaning away.  Three readers of
  caller text need three degrees of protection:

  * a *token* must stay one term, so blanks are protected as well (`escapeToken`);
  * a *phrase* stands between double quotes, which already hold it together, so
    only the reserved characters are protected (`escapePhrase`);
  * *free text* is protected word by word (`escapeWords`).

  All three are the same map over characters, `protect`, at different predicates.
-/
import Retrieval.Text.Blank

namespace Retrieval.Text

/-! ### Reserved characters -/

/-- The characters with a meaning in query strings. -/
def reserved : List Char :=
  ['+', '-', '&', '|', '!', '(', ')', '\x7b', '\x7d', '[', ']', '^', '"', '~', '*', '?', ':',
   '\\', '/']

/-- Whether a character has a meaning in query strings. -/
def isReserved (c : Char) : Bool := reserved.contains c

/-- Whether a character would end a bare token or change its meaning. -/
def breaksToken (c : Char) : Bool := isReserved c || isBlank c

/-! ### Protection -/

/-- Put a backslash before every character that satisfies `special`. -/
def protect (special : Char → Bool) : List Char → List Char
  | [] => []
  | c :: rest => if special c then '\\' :: c :: protect special rest else c :: protect special rest

/-- Join texts with a separator between them. -/
def joined (separator : List Char) : List (List Char) → List Char
  | [] => []
  | [text] => text
  | text :: rest => text ++ separator ++ joined separator rest

/-- One token: reserved characters and blanks are protected. -/
def escapeToken (token : List Char) : List Char := protect breaksToken token

/-- The inside of a quoted phrase: reserved characters are protected, blanks are not. -/
def escapePhrase (phrase : List Char) : List Char := protect isReserved phrase

/-- Free text: each word is protected as a token, and single spaces stand between them. -/
def escapeWords (text : List Char) : List Char := joined [' '] ((words text).map escapeToken)

/-- Free text without protection: its words with single spaces between them. -/
def plainWords (text : List Char) : List Char := joined [' '] (words text)

def quote (text : List Char) : List Char := '"' :: (text ++ ['"'])

end Retrieval.Text
