import TextScan.Character.Digit
import TextScan.Character.Letter
import TextScan.Character.LetterCase
import TextScan.Character.Punctuation
import TextScan.Character.Space
import TextScan.Character.Symbol

/-!
# Character classes

The classes that grammars name.  Most follow the general categories of Unicode.  Text holds
scalar values, never halves of a surrogate pair: a character counts as a surrogate when its
UTF-16 form is a pair, that is beyond the basic plane, and no character is a low surrogate.

Grammars rely on white space being neither letter nor digit
(`isLetterOrDigit_of_isWhiteSpace`).
-/

namespace TextScan

inductive CharClass where
  | digit
  | letter
  | letterOrDigit
  | upper
  | lower
  | whiteSpace
  | symbol
  | punctuation
  | separator
  | control
  | surrogate
  | highSurrogate
  | lowSurrogate
  deriving DecidableEq

/-- Decimal digit.  Within ASCII these are the ten digits. -/
def isDigit (c : Char) : Bool :=
  if c.toNat < 0x80 then c.isDigit else digitTable.contains c

/-- Letter of any case.  Within ASCII these are the twenty-six letters in both cases. -/
def isLetter (c : Char) : Bool :=
  if c.toNat < 0x80 then c.isAlpha else letterTable.contains c

def isLetterOrDigit (c : Char) : Bool :=
  isLetter c || isDigit c

/-- White space, line breaks included. -/
def isWhiteSpace (c : Char) : Bool :=
  whiteSpaceTable.contains c

def whiteSpaceCodes : List Nat :=
  [0x0009, 0x000A, 0x000B, 0x000C, 0x000D, 0x0020, 0x0085, 0x00A0, 0x1680, 0x2000, 0x2001,
    0x2002, 0x2003, 0x2004, 0x2005, 0x2006, 0x2007, 0x2008, 0x2009, 0x200A, 0x2028, 0x2029,
    0x202F, 0x205F, 0x3000]

/-- The white space characters are exactly those with the listed code points. -/
theorem isWhiteSpace_iff {c : Char} : isWhiteSpace c = true ↔ c.toNat ∈ whiteSpaceCodes := by
  simp [isWhiteSpace, CodeTable.contains, whiteSpaceTable, CodeTable.ofSpans,
    CodeRange.contains, whiteSpaceCodes, Nat.mod_one]
  omega

/-- No white space is a letter or a digit.  There are few enough of them to look at each. -/
theorem isLetterOrDigit_of_isWhiteSpace {c : Char} (h : isWhiteSpace c = true) :
    isLetterOrDigit c = false := by
  have hall : ∀ code ∈ whiteSpaceCodes, isLetterOrDigit (Char.ofNat code) = false := by
    decide +kernel
  rw [← Char.ofNat_toNat c]
  exact hall _ (isWhiteSpace_iff.1 h)

namespace CharClass

/-- Every class, in the order in which reports list them. -/
def all : List CharClass :=
  [digit, letter, letterOrDigit, upper, lower, whiteSpace, symbol, punctuation, separator,
    control, surrogate, highSurrogate, lowSurrogate]

def contains : CharClass → Char → Bool
  | digit => isDigit
  | letter => isLetter
  | letterOrDigit => isLetterOrDigit
  | upper => upperTable.contains
  | lower => lowerTable.contains
  | whiteSpace => isWhiteSpace
  | symbol => symbolTable.contains
  | punctuation => punctuationTable.contains
  | separator => separatorTable.contains
  | control => controlTable.contains
  | surrogate => fun c => 0xFFFF < c.toNat
  | highSurrogate => fun c => 0xFFFF < c.toNat
  | lowSurrogate => fun _ => false

def name : CharClass → String
  | digit => "Digit"
  | letter => "Letter"
  | letterOrDigit => "LetterOrDigit"
  | upper => "Upper"
  | lower => "Lower"
  | whiteSpace => "WhiteSpace"
  | symbol => "Symbol"
  | punctuation => "Punctuation"
  | separator => "Separator"
  | control => "Control"
  | surrogate => "Surrogate"
  | highSurrogate => "HighSurrogate"
  | lowSurrogate => "LowSurrogate"

def ofName? (name : String) : Option CharClass :=
  all.find? fun cls => cls.name == name

/-- The classes of a character, in the order of `all`. -/
def classesOf (c : Char) : List CharClass :=
  all.filter fun cls => cls.contains c

/-- Whether the code point is a character of the class.  Surrogate code points are none. -/
def containsCode (cls : CharClass) (code : Nat) : Bool :=
  if h : code.isValidChar then cls.contains (Char.ofNatAux code h) else false

/-- Puts a number in front of ascending stretches, joining it to the first when they touch. -/
def joinStretch (code : Nat) : List (Nat × Nat) → List (Nat × Nat)
  | [] => [(code, code)]
  | (first, last) :: rest =>
    if code + 1 = first then (code, last) :: rest else (code, code) :: (first, last) :: rest

/-- The maximal stretches of code points from `first` to `last` that belong to the class. -/
def stretches (cls : CharClass) (first last : Nat) : List (Nat × Nat) :=
  ((List.range' first (last + 1 - first)).filter cls.containsCode).foldr joinStretch []

end CharClass

end TextScan
