import Diglot.Glossary

/-!
# Keywords

The closed vocabulary of the language: the reserved words of the primary vocabulary, and the
localized keyword for those that have one. A word of either vocabulary is a keyword, so the same
scanner serves every mode. A primary keyword without a localized one is still a keyword and is left
as it is.

The words are written character by character, points and vowel signs by their code, so that facts
about the table are settled by computation on lists.
-/

set_option autoImplicit false

namespace Diglot.Keyword

/-! ## Primary words -/

/-- Words that begin or qualify a declaration. -/
def declarationWords : List Text :=
  [['a', 's', 's', 'o', 'c', 'i', 'a', 't', 'e', 'd', 't', 'y', 'p', 'e'],
   ['c', 'l', 'a', 's', 's'],
   ['d', 'e', 'i', 'n', 'i', 't'],
   ['e', 'n', 'u', 'm'],
   ['e', 'x', 't', 'e', 'n', 's', 'i', 'o', 'n'],
   ['f', 'i', 'l', 'e', 'p', 'r', 'i', 'v', 'a', 't', 'e'],
   ['f', 'u', 'n', 'c'],
   ['i', 'm', 'p', 'o', 'r', 't'],
   ['i', 'n', 'i', 't'],
   ['i', 'n', 'o', 'u', 't'],
   ['i', 'n', 't', 'e', 'r', 'n', 'a', 'l'],
   ['l', 'e', 't'],
   ['o', 'p', 'e', 'n'],
   ['o', 'p', 'e', 'r', 'a', 't', 'o', 'r'],
   ['p', 'r', 'e', 'c', 'e', 'd', 'e', 'n', 'c', 'e', 'g', 'r', 'o', 'u', 'p'],
   ['p', 'r', 'i', 'v', 'a', 't', 'e'],
   ['p', 'r', 'o', 't', 'o', 'c', 'o', 'l'],
   ['p', 'u', 'b', 'l', 'i', 'c'],
   ['r', 'e', 't', 'h', 'r', 'o', 'w', 's'],
   ['s', 't', 'a', 't', 'i', 'c'],
   ['s', 't', 'r', 'u', 'c', 't'],
   ['s', 'u', 'b', 's', 'c', 'r', 'i', 'p', 't'],
   ['t', 'y', 'p', 'e', 'a', 'l', 'i', 'a', 's'],
   ['v', 'a', 'r']]

def statementWords : List Text :=
  [['b', 'r', 'e', 'a', 'k'],
   ['c', 'a', 's', 'e'],
   ['c', 'a', 't', 'c', 'h'],
   ['c', 'o', 'n', 't', 'i', 'n', 'u', 'e'],
   ['d', 'e', 'f', 'a', 'u', 'l', 't'],
   ['d', 'e', 'f', 'e', 'r'],
   ['d', 'o'],
   ['e', 'l', 's', 'e'],
   ['f', 'a', 'l', 'l', 't', 'h', 'r', 'o', 'u', 'g', 'h'],
   ['f', 'o', 'r'],
   ['g', 'u', 'a', 'r', 'd'],
   ['i', 'f'],
   ['i', 'n'],
   ['r', 'e', 'p', 'e', 'a', 't'],
   ['r', 'e', 't', 'u', 'r', 'n'],
   ['t', 'h', 'r', 'o', 'w'],
   ['s', 'w', 'i', 't', 'c', 'h'],
   ['w', 'h', 'e', 'r', 'e'],
   ['w', 'h', 'i', 'l', 'e']]

def expressionWords : List Text :=
  [['A', 'n', 'y'],
   ['a', 's'],
   ['a', 'w', 'a', 'i', 't'],
   ['f', 'a', 'l', 's', 'e'],
   ['i', 's'],
   ['n', 'i', 'l'],
   ['s', 'e', 'l', 'f'],
   ['S', 'e', 'l', 'f'],
   ['s', 'u', 'p', 'e', 'r'],
   ['t', 'h', 'r', 'o', 'w', 's'],
   ['t', 'r', 'u', 'e'],
   ['t', 'r', 'y']]

/-- Words that are reserved in certain positions only. -/
def contextualWords : List Text :=
  [['a', 's', 's', 'o', 'c', 'i', 'a', 't', 'i', 'v', 'i', 't', 'y'],
   ['c', 'o', 'n', 'v', 'e', 'n', 'i', 'e', 'n', 'c', 'e'],
   ['d', 'i', 'd', 'S', 'e', 't'],
   ['d', 'y', 'n', 'a', 'm', 'i', 'c'],
   ['f', 'i', 'n', 'a', 'l'],
   ['g', 'e', 't'],
   ['i', 'n', 'd', 'i', 'r', 'e', 'c', 't'],
   ['i', 'n', 'f', 'i', 'x'],
   ['l', 'a', 'z', 'y'],
   ['l', 'e', 'f', 't'],
   ['m', 'u', 't', 'a', 't', 'i', 'n', 'g'],
   ['n', 'o', 'n', 'e'],
   ['n', 'o', 'n', 'm', 'u', 't', 'a', 't', 'i', 'n', 'g'],
   ['o', 'p', 't', 'i', 'o', 'n', 'a', 'l'],
   ['o', 'v', 'e', 'r', 'r', 'i', 'd', 'e'],
   ['p', 'o', 's', 't', 'f', 'i', 'x'],
   ['p', 'r', 'e', 'c', 'e', 'd', 'e', 'n', 'c', 'e'],
   ['p', 'r', 'e', 'f', 'i', 'x'],
   ['r', 'e', 'q', 'u', 'i', 'r', 'e', 'd'],
   ['r', 'i', 'g', 'h', 't'],
   ['s', 'e', 't'],
   ['s', 'o', 'm', 'e'],
   ['a', 'n', 'y'],
   ['u', 'n', 'o', 'w', 'n', 'e', 'd'],
   ['w', 'e', 'a', 'k'],
   ['w', 'i', 'l', 'l', 'S', 'e', 't']]

def concurrencyWords : List Text :=
  [['a', 's', 'y', 'n', 'c'],
   ['a', 'c', 't', 'o', 'r'],
   ['n', 'o', 'n', 'i', 's', 'o', 'l', 'a', 't', 'e', 'd'],
   ['i', 's', 'o', 'l', 'a', 't', 'e', 'd'],
   ['c', 'o', 'n', 's', 'u', 'm', 'i', 'n', 'g'],
   ['b', 'o', 'r', 'r', 'o', 'w', 'i', 'n', 'g'],
   ['s', 'e', 'n', 'd', 'i', 'n', 'g']]

/-- Names of attributes, without their sign. -/
def attributeWords : List Text :=
  [['a', 'v', 'a', 'i', 'l', 'a', 'b', 'l', 'e'],
   ['d', 'i', 's', 'c', 'a', 'r', 'd', 'a', 'b', 'l', 'e', 'R', 'e', 's', 'u', 'l', 't'],
   ['d', 'y', 'n', 'a', 'm', 'i', 'c', 'C', 'a', 'l', 'l', 'a', 'b', 'l', 'e'],
   ['d', 'y', 'n', 'a', 'm', 'i', 'c', 'M', 'e', 'm', 'b', 'e', 'r', 'L', 'o', 'o', 'k', 'u', 'p'],
   ['e', 's', 'c', 'a', 'p', 'i', 'n', 'g'],
   ['f', 'r', 'o', 'z', 'e', 'n'],
   ['G', 'K', 'I', 'n', 's', 'p', 'e', 'c', 't', 'a', 'b', 'l', 'e'],
   ['I', 'B', 'A', 'c', 't', 'i', 'o', 'n'],
   ['I', 'B', 'D', 'e', 's', 'i', 'g', 'n', 'a', 'b', 'l', 'e'],
   ['I', 'B', 'I', 'n', 's', 'p', 'e', 'c', 't', 'a', 'b', 'l', 'e'],
   ['I', 'B', 'O', 'u', 't', 'l', 'e', 't'],
   ['I', 'B', 'S', 'e', 'g', 'u', 'e', 'A', 'c', 't', 'i', 'o', 'n'],
   ['i', 'n', 'l', 'i', 'n', 'a', 'b', 'l', 'e'],
   ['m', 'a', 'i', 'n'],
   ['n', 'o', 'n', 'o', 'b', 'j', 'c'],
   ['N', 'S', 'A', 'p', 'p', 'l', 'i', 'c', 'a', 't', 'i', 'o', 'n', 'M', 'a', 'i', 'n'],
   ['N', 'S', 'C', 'o', 'p', 'y', 'i', 'n', 'g'],
   ['N', 'S', 'M', 'a', 'n', 'a', 'g', 'e', 'd'],
   ['o', 'b', 'j', 'c'],
   ['o', 'b', 'j', 'c', 'M', 'e', 'm', 'b', 'e', 'r', 's'],
   ['p', 'r', 'o', 'p', 'e', 'r', 't', 'y', 'W', 'r', 'a', 'p', 'p', 'e', 'r'],
   ['r', 'e', 'q', 'u', 'i', 'r', 'e', 's', '_', 's', 't', 'o', 'r', 'e', 'd', '_', 'p', 'r', 'o',
    'p', 'e', 'r', 't', 'y', '_', 'i', 'n', 'i', 't', 's'],
   ['r', 'e', 's', 'u', 'l', 't', 'B', 'u', 'i', 'l', 'd', 'e', 'r'],
   ['S', 'e', 'n', 'd', 'a', 'b', 'l', 'e'],
   ['t', 'e', 's', 't', 'a', 'b', 'l', 'e'],
   ['U', 'I', 'A', 'p', 'p', 'l', 'i', 'c', 'a', 't', 'i', 'o', 'n', 'M', 'a', 'i', 'n'],
   ['u', 'n', 'k', 'n', 'o', 'w', 'n'],
   ['u', 's', 'a', 'b', 'l', 'e', 'F', 'r', 'o', 'm', 'I', 'n', 'l', 'i', 'n', 'e'],
   ['w', 'a', 'r', 'n', '_', 'u', 'n', 'h', 'a', 'n', 'd', 'l', 'e', 'd', '_', 'r', 'e', 's', 'u',
    'l', 't'],
   ['M', 'a', 'i', 'n', 'A', 'c', 't', 'o', 'r']]

def otherWords : List Text :=
  [['m', 'a', 'c', 'r', 'o'],
   ['T', 'y', 'p', 'e']]

/-- The reserved and contextual words of the primary vocabulary. -/
def primaryWords : List Text :=
  declarationWords ++ statementWords ++ expressionWords ++ contextualWords ++ concurrencyWords ++
    attributeWords ++ otherWords

/-! ## Localized keywords -/

def declarations : List Entry :=
  [⟨['פ', '\u05bf', 'ו', 'נ', 'ק', 'צ', 'י', 'ע'], ['f', 'u', 'n', 'c']⟩,
   ⟨['ל', 'א', '\u05b8', 'ז'], ['l', 'e', 't']⟩,
   ⟨['ב', 'א', '\u05b7', 'ש', 'ט', 'י', 'מ', 'ע', 'ן'], ['v', 'a', 'r']⟩,
   ⟨['ס', 'ט', 'ר', 'ו', 'ק', 'ט', 'ו', 'ר'], ['s', 't', 'r', 'u', 'c', 't']⟩,
   ⟨['ק', 'ל', 'א', '\u05b7', 'ס'], ['c', 'l', 'a', 's', 's']⟩,
   ⟨['פ', '\u05bc', 'ר', 'א', '\u05b8', 'ט', 'א', '\u05b8', 'ק', 'א', '\u05b8', 'ל'],
    ['p', 'r', 'o', 't', 'o', 'c', 'o', 'l']⟩,
   ⟨['ע', 'נ', 'ו', 'ם'], ['e', 'n', 'u', 'm']⟩,
   ⟨['פ', '\u05bf', 'א', '\u05b7', 'ר', 'ל', 'ע', 'נ', 'ג', 'ע', 'ר', 'ו', 'נ', 'ג'],
    ['e', 'x', 't', 'e', 'n', 's', 'i', 'o', 'n']⟩,
   ⟨['א', 'י', 'מ', 'פ', '\u05bc', 'א', '\u05b8', 'ר', 'ט'], ['i', 'm', 'p', 'o', 'r', 't']⟩,
   ⟨['פ', '\u05bc', 'ר', 'א', '\u05b8', 'ט', 'א', '\u05b8', 'ק', 'א', '\u05b8', 'ל', '_', 'ט',
     'י', 'פ', '\u05bc'],
    ['a', 's', 's', 'o', 'c', 'i', 'a', 't', 'e', 'd', 't', 'y', 'p', 'e']⟩,
   ⟨['א', '\u05b8', 'נ', 'ה', 'י', 'י', 'ב'], ['i', 'n', 'i', 't']⟩,
   ⟨['א', '\u05b8', 'פ', '\u05bc', 'ר', 'ו', 'י', 'ם'], ['d', 'e', 'i', 'n', 'i', 't']⟩,
   ⟨['א', 'י', 'נ', 'א', 'ױ', 'ס'], ['i', 'n', 'o', 'u', 't']⟩,
   ⟨['א', '\u05b8', 'פ', '\u05bc', 'ע', 'ר', 'א', '\u05b7', 'ט', 'א', '\u05b8', 'ר'],
    ['o', 'p', 'e', 'r', 'a', 't', 'o', 'r']⟩,
   ⟨['פ', '\u05bf', 'א', '\u05b8', 'ר', 'ג', 'א', '\u05b7', 'נ', 'ג', '_', 'ג', 'ר', 'ו', 'פ',
     '\u05bc', 'ע'],
    ['p', 'r', 'e', 'c', 'e', 'd', 'e', 'n', 'c', 'e', 'g', 'r', 'o', 'u', 'p']⟩,
   ⟨['א', 'ו', 'נ', 'ט', 'ע', 'ר', 'ש', 'ר', 'י', 'פ', '\u05bf', 'ט'],
    ['s', 'u', 'b', 's', 'c', 'r', 'i', 'p', 't']⟩,
   ⟨['ט', 'י', 'פ', '\u05bc', '_', 'נ', 'א', '\u05b8', 'מ', 'ע', 'ן'],
    ['t', 'y', 'p', 'e', 'a', 'l', 'i', 'a', 's']⟩,
   ⟨['ע', 'פ', '\u05bf', 'נ', 'ט', 'ל', 'ע', 'ך'], ['p', 'u', 'b', 'l', 'i', 'c']⟩,
   ⟨['פ', '\u05bc', 'ר', 'י', 'ו', 'ו', 'א', '\u05b7', 'ט'], ['p', 'r', 'i', 'v', 'a', 't', 'e']⟩,
   ⟨['א', 'י', 'נ', 'ע', 'ר', 'ל', 'ע', 'ך'], ['i', 'n', 't', 'e', 'r', 'n', 'a', 'l']⟩,
   ⟨['פ', '\u05bf', 'א', '\u05b7', 'ר', 'ש', 'ל', 'א', '\u05b8', 'ס', 'ן', '_', 'פ', '\u05bc',
     'ר', 'י', 'ו', 'ו', 'א', '\u05b7', 'ט'],
    ['f', 'i', 'l', 'e', 'p', 'r', 'i', 'v', 'a', 't', 'e']⟩,
   ⟨['ע', 'פ', '\u05bf', 'ן'], ['o', 'p', 'e', 'n']⟩,
   ⟨['ס', 'ט', 'א', '\u05b7', 'ט', 'י', 'ש'], ['s', 't', 'a', 't', 'i', 'c']⟩,
   ⟨['ו', 'ו', 'י', 'ד', 'ע', 'ר', 'ו', 'ו', 'א', '\u05b7', 'ר', 'פ', '\u05bf', 'ן'],
    ['r', 'e', 't', 'h', 'r', 'o', 'w', 's']⟩]

def statements : List Entry :=
  [⟨['צ', 'ו', 'ר', 'י', 'ק'], ['r', 'e', 't', 'u', 'r', 'n']⟩,
   ⟨['א', 'ו', 'י', 'ב'], ['i', 'f']⟩,
   ⟨['א', '\u05b7', 'נ', 'ד', 'ע', 'ר', 'ש'], ['e', 'l', 's', 'e']⟩,
   ⟨['פ', '\u05bf', 'א', '\u05b7', 'ר'], ['f', 'o', 'r']⟩,
   ⟨['א', 'י', 'ן'], ['i', 'n']⟩,
   ⟨['ב', 'ש', 'ע', 'ת'], ['w', 'h', 'i', 'l', 'e']⟩,
   ⟨['ו', 'ו', 'ע', 'ק', 'ס', 'ל'], ['s', 'w', 'i', 't', 'c', 'h']⟩,
   ⟨['פ', '\u05bf', 'א', '\u05b7', 'ל'], ['c', 'a', 's', 'e']⟩,
   ⟨['ב', 'ר', 'ע', 'כ', 'ן'], ['b', 'r', 'e', 'a', 'k']⟩,
   ⟨['מ', 'מ', 'ש', 'י', 'כ', 'ן'], ['c', 'o', 'n', 't', 'i', 'n', 'u', 'e']⟩,
   ⟨['פ', '\u05bf', 'א', '\u05b8', 'ל', 'ג', 'ן'],
    ['f', 'a', 'l', 'l', 't', 'h', 'r', 'o', 'u', 'g', 'h']⟩,
   ⟨['פ', '\u05bf', 'א', '\u05b7', 'ר', 'ז', 'י', 'כ', 'ע', 'ר', 'ן'], ['g', 'u', 'a', 'r', 'd']⟩,
   ⟨['א', '\u05b8', 'פ', '\u05bc', 'ש', 'ט', 'ע', 'ל', 'ן'], ['d', 'e', 'f', 'e', 'r']⟩,
   ⟨['ט', 'א', '\u05b8', 'ן'], ['d', 'o']⟩,
   ⟨['כ', 'א', '\u05b7', 'פ', '\u05bc', 'ן'], ['c', 'a', 't', 'c', 'h']⟩,
   ⟨['ו', 'ו', 'א', '\u05b7', 'ר', 'פ', '\u05bf', 'ן'], ['t', 'h', 'r', 'o', 'w']⟩,
   ⟨['פ', '\u05bc', 'ר', 'ו', 'ב', 'י', 'ר', 'ן'], ['t', 'r', 'y']⟩,
   ⟨['ו', 'ו', 'ו'], ['w', 'h', 'e', 'r', 'e']⟩,
   ⟨['ח', 'ז', 'ר', 'ן'], ['r', 'e', 'p', 'e', 'a', 't']⟩,
   ⟨['פ', '\u05bf', 'א', '\u05b8', 'ר', 'ש', 'ט', 'י', 'י', 'ן'],
    ['d', 'e', 'f', 'a', 'u', 'l', 't']⟩]

def expressions : List Entry :=
  [⟨['ו', 'ו', 'א', '\u05b8', 'ס', '_', 'נ', 'א', '\u05b8', 'ר'], ['A', 'n', 'y']⟩,
   ⟨['ו', 'ו', 'י'], ['a', 's']⟩,
   ⟨['פ', '\u05bf', 'א', '\u05b7', 'ל', 'ש'], ['f', 'a', 'l', 's', 'e']⟩,
   ⟨['א', 'י', 'ז'], ['i', 's']⟩,
   ⟨['ג', 'א', '\u05b8', 'ר', 'נ', 'י', 'ש', 'ט'], ['n', 'i', 'l']⟩,
   ⟨['ז', 'י', 'ך'], ['s', 'e', 'l', 'f']⟩,
   ⟨['ז', 'י', 'ך', '_', 'ט', 'י', 'פ', '\u05bc'], ['S', 'e', 'l', 'f']⟩,
   ⟨['ע', 'ל', 'ט', 'ע', 'ר', 'ן'], ['s', 'u', 'p', 'e', 'r']⟩,
   ⟨['ו', 'ו', 'א', '\u05b7', 'ר', 'פ', '\u05bf', 'ט'], ['t', 'h', 'r', 'o', 'w', 's']⟩,
   ⟨['א', 'מ', 'ת'], ['t', 'r', 'u', 'e']⟩,
   ⟨['א', '\u05b7', 'ס', 'י', 'נ', 'כ', 'ר', 'א', '\u05b8', 'ן'], ['a', 's', 'y', 'n', 'c']⟩,
   ⟨['ו', 'ו', 'א', '\u05b7', 'ר', 'ט', 'ן'], ['a', 'w', 'a', 'i', 't']⟩]

/-- Words that are reserved in certain positions only. -/
def contextual : List Entry :=
  [⟨['פ', '\u05bf', 'א', '\u05b7', 'ר', 'א', 'י', 'י', 'נ', 'צ', 'י', 'ק', 'י', 'י', 'ט'],
    ['a', 's', 's', 'o', 'c', 'i', 'a', 't', 'i', 'v', 'i', 't', 'y']⟩,
   ⟨['ב', 'א', '\u05b7', 'ק', 'ו', 'ו', 'ע', 'ם'],
    ['c', 'o', 'n', 'v', 'e', 'n', 'i', 'e', 'n', 'c', 'e']⟩,
   ⟨['ד', 'י', 'נ', 'א', '\u05b7', 'מ', 'י', 'ש'], ['d', 'y', 'n', 'a', 'm', 'i', 'c']⟩,
   ⟨['נ', 'א', '\u05b8', 'ך', '_', 'ש', 'ט', 'ע', 'ל', 'ן'], ['d', 'i', 'd', 'S', 'e', 't']⟩,
   ⟨['ס', 'ו', 'פ', '\u05bf', 'י', 'ק'], ['f', 'i', 'n', 'a', 'l']⟩,
   ⟨['נ', 'ע', 'מ', 'ע', 'ן'], ['g', 'e', 't']⟩,
   ⟨['א', 'י', 'נ', 'פ', '\u05bf', 'י', 'ק', 'ס'], ['i', 'n', 'f', 'i', 'x']⟩,
   ⟨['א', 'ו', 'מ', 'ג', 'ע', 'ר', 'י', 'כ', 'ט'], ['i', 'n', 'd', 'i', 'r', 'e', 'c', 't']⟩,
   ⟨['פ', '\u05bc', 'ו', 'י', 'ז', 'נ', 'ד', 'י', 'ק'], ['l', 'a', 'z', 'y']⟩,
   ⟨['ל', 'י', 'נ', 'ק', 'ס'], ['l', 'e', 'f', 't']⟩,
   ⟨['ע', 'נ', 'ד', 'ע', 'ר', 'ן'], ['m', 'u', 't', 'a', 't', 'i', 'n', 'g']⟩,
   ⟨['ק', 'י', 'י', 'נ', 'ע', 'ם'], ['n', 'o', 'n', 'e']⟩,
   ⟨['נ', 'י', 'ט', '_', 'ע', 'נ', 'ד', 'ע', 'ר', 'ן'],
    ['n', 'o', 'n', 'm', 'u', 't', 'a', 't', 'i', 'n', 'g']⟩,
   ⟨['א', '\u05b8', 'פ', '\u05bc', 'צ', 'י', 'א', '\u05b8', 'נ', 'ע', 'ל'],
    ['o', 'p', 't', 'i', 'o', 'n', 'a', 'l']⟩,
   ⟨['א', 'י', 'ב', 'ע', 'ר', 'ש', 'ר', 'ײ', '\u05b7', 'ב', 'ן'],
    ['o', 'v', 'e', 'r', 'r', 'i', 'd', 'e']⟩,
   ⟨['נ', 'א', '\u05b8', 'כ', 'ש', 'ט', 'י', 'י', 'ן'], ['p', 'o', 's', 't', 'f', 'i', 'x']⟩,
   ⟨['פ', '\u05bf', 'א', '\u05b8', 'ר', 'ג', 'א', '\u05b7', 'נ', 'ג'],
    ['p', 'r', 'e', 'c', 'e', 'd', 'e', 'n', 'c', 'e']⟩,
   ⟨['פ', '\u05bf', 'א', '\u05b8', 'ר', 'ש', 'ט', 'י', 'י', 'ן', '_', 'ו', 'ו', 'א', '\u05b8',
     'ר', 'ט'],
    ['p', 'r', 'e', 'f', 'i', 'x']⟩,
   ⟨['פ', '\u05bf', 'א', '\u05b7', 'ר', 'ל', 'א', '\u05b7', 'נ', 'ג', 'ט'],
    ['r', 'e', 'q', 'u', 'i', 'r', 'e', 'd']⟩,
   ⟨['ר', 'ע', 'כ', 'ט', 'ס'], ['r', 'i', 'g', 'h', 't']⟩,
   ⟨['ש', 'ט', 'ע', 'ל', 'ן'], ['s', 'e', 't']⟩,
   ⟨['ע', 'ט', 'ל', 'ע', 'כ', 'ע'], ['s', 'o', 'm', 'e']⟩,
   ⟨['ע', 'פ', '\u05bc', 'ע', 'ס'], ['a', 'n', 'y']⟩,
   ⟨['ט', 'י', 'פ', '\u05bc'], ['T', 'y', 'p', 'e']⟩,
   ⟨['א', 'ו', 'מ', 'ב', 'א', '\u05b7', 'ז', 'ע', 'ס', 'ן'], ['u', 'n', 'o', 'w', 'n', 'e', 'd']⟩,
   ⟨['ש', 'ו', 'ו', 'א', '\u05b7', 'ך'], ['w', 'e', 'a', 'k']⟩,
   ⟨['פ', '\u05bf', 'א', '\u05b7', 'ר', '_', 'ש', 'ט', 'ע', 'ל', 'ן'],
    ['w', 'i', 'l', 'l', 'S', 'e', 't']⟩,
   ⟨['א', '\u05b7', 'ק', 'ט', 'י', 'א', '\u05b8', 'ר'], ['a', 'c', 't', 'o', 'r']⟩,
   ⟨['נ', 'י', 'ט', '_', 'א', 'י', 'ז', 'א', '\u05b8', 'ל', 'י', 'ר', 'ט'],
    ['n', 'o', 'n', 'i', 's', 'o', 'l', 'a', 't', 'e', 'd']⟩,
   ⟨['א', 'י', 'ז', 'א', '\u05b8', 'ל', 'י', 'ר', 'ט'], ['i', 's', 'o', 'l', 'a', 't', 'e', 'd']⟩,
   ⟨['פ', '\u05bf', 'א', '\u05b7', 'ר', 'נ', 'ו', 'צ', 'ן'],
    ['c', 'o', 'n', 's', 'u', 'm', 'i', 'n', 'g']⟩,
   ⟨['א', 'ו', 'י', 'ס', 'ל', 'י', 'י', 'ע', 'ן'], ['b', 'o', 'r', 'r', 'o', 'w', 'i', 'n', 'g']⟩,
   ⟨['ש', 'י', 'ק', 'ן'], ['s', 'e', 'n', 'd', 'i', 'n', 'g']⟩,
   ⟨['מ', 'א', '\u05b7', 'ק', 'ר', 'א', '\u05b8'], ['m', 'a', 'c', 'r', 'o']⟩]

/-- Attributes, without their sign. -/
def attributes : List Entry :=
  [⟨['ד', 'ע', 'ר', 'ל', 'ו', 'י', 'ב', 'ט'], ['a', 'v', 'a', 'i', 'l', 'a', 'b', 'l', 'e']⟩,
   ⟨['א', '\u05b8', 'פ', '\u05bc', 'ו', 'ו', 'א', '\u05b7', 'ר', 'פ', '\u05bf', 'ב', 'א',
     '\u05b7', 'ר'],
    ['d', 'i', 's', 'c', 'a', 'r', 'd', 'a', 'b', 'l', 'e', 'R', 'e', 's', 'u', 'l', 't']⟩,
   ⟨['ד', 'י', 'נ', 'א', '\u05b7', 'מ', 'י', 'ש', '_', 'א', '\u05b8', 'נ', 'ר', 'ו', 'ף'],
    ['d', 'y', 'n', 'a', 'm', 'i', 'c', 'C', 'a', 'l', 'l', 'a', 'b', 'l', 'e']⟩,
   ⟨['ד', 'י', 'נ', 'א', '\u05b7', 'מ', 'י', 'ש', '_', 'מ', 'י', 'ט', 'ג', 'ל', 'י', 'ד'],
    ['d', 'y', 'n', 'a', 'm', 'i', 'c', 'M', 'e', 'm', 'b', 'e', 'r', 'L', 'o', 'o', 'k', 'u',
     'p']⟩,
   ⟨['א', '\u05b7', 'נ', 'ט', 'ל', 'ו', 'י', 'פ', '\u05bf', 'נ', 'ד', 'י', 'ק'],
    ['e', 's', 'c', 'a', 'p', 'i', 'n', 'g']⟩,
   ⟨['פ', '\u05bf', 'א', '\u05b7', 'ר', 'פ', '\u05bf', 'ר', 'ו', 'י', 'ר', 'ן'],
    ['f', 'r', 'o', 'z', 'e', 'n']⟩,
   ⟨['א', '\u05b7', 'ר', 'ײ', '\u05b7', 'נ', 'ש', 'ר', 'ײ', '\u05b7', 'ב', 'ן'],
    ['i', 'n', 'l', 'i', 'n', 'a', 'b', 'l', 'e']⟩,
   ⟨['ה', 'ו', 'י', 'פ', '\u05bc', 'ט'], ['m', 'a', 'i', 'n']⟩,
   ⟨['נ', 'י', 'ט', '_', 'א', '\u05b8', 'ב', 'י', 'ע', 'ק', 'ט'],
    ['n', 'o', 'n', 'o', 'b', 'j', 'c']⟩,
   ⟨['א', '\u05b8', 'ב', 'י', 'ע', 'ק', 'ט'], ['o', 'b', 'j', 'c']⟩,
   ⟨['א', '\u05b8', 'ב', 'י', 'ע', 'ק', 'ט', '_', 'מ', 'י', 'ט', 'ג', 'ל', 'י', 'ד', 'ע', 'ר'],
    ['o', 'b', 'j', 'c', 'M', 'e', 'm', 'b', 'e', 'r', 's']⟩,
   ⟨['פ', '\u05bc', 'ר', 'א', '\u05b8', 'פ', '\u05bc', 'ע', 'ר', 'ט', 'י', '_', 'א', 'ײ',
     '\u05b7', 'נ', 'ו', 'ו', 'י', 'ק', 'ל', 'ע', 'ר'],
    ['p', 'r', 'o', 'p', 'e', 'r', 't', 'y', 'W', 'r', 'a', 'p', 'p', 'e', 'r']⟩,
   ⟨['ר', 'ע', 'ז', 'ו', 'ל', 'ט', 'א', '\u05b7', 'ט', '_', 'ב', 'ו', 'י', 'ע', 'ר'],
    ['r', 'e', 's', 'u', 'l', 't', 'B', 'u', 'i', 'l', 'd', 'e', 'r']⟩,
   ⟨['ש', 'י', 'ק', 'ב', 'א', '\u05b7', 'ר'], ['S', 'e', 'n', 'd', 'a', 'b', 'l', 'e']⟩,
   ⟨['פ', '\u05bc', 'ר', 'ו', 'ב', 'י', 'ר', 'ב', 'א', '\u05b7', 'ר'],
    ['t', 'e', 's', 't', 'a', 'b', 'l', 'e']⟩,
   ⟨['ב', 'א', '\u05b7', 'נ', 'י', 'צ', 'ב', 'א', '\u05b7', 'ר', '_', 'פ', '\u05bf', 'ו', 'ן',
     '_', 'א', 'י', 'נ', 'ע', 'ם'],
    ['u', 's', 'a', 'b', 'l', 'e', 'F', 'r', 'o', 'm', 'I', 'n', 'l', 'i', 'n', 'e']⟩,
   ⟨['ה', 'ו', 'י', 'פ', '\u05bc', 'ט', '_', 'א', '\u05b7', 'ק', 'ט', 'י', 'א', '\u05b8', 'ר'],
    ['M', 'a', 'i', 'n', 'A', 'c', 't', 'o', 'r']⟩]

/-- Every localized keyword with its primary keyword, in table order. -/
def entries : List Entry :=
  declarations ++ statements ++ expressions ++ contextual ++ attributes

def glossary : Glossary where
  entries := entries
  localized_nodup := by decide +kernel
  primary_nodup := by decide +kernel

def localizedWords : List Text :=
  entries.map Entry.localized

/-- Every word that is a keyword in one of the vocabularies. -/
def allWords : List Text :=
  primaryWords ++ localizedWords ++ entries.map Entry.primary

/-- Whether a word is a keyword of either vocabulary. -/
def isKeyword (word : Text) : Bool :=
  allWords.contains word

end Diglot.Keyword
