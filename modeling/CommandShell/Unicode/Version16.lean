import CommandShell.Unicode.Age
import CommandShell.Unicode.CaseFolding
import CommandShell.Unicode.Property

/-!
# Version 16.0

Characters as version 16.0 of the Unicode Character Database has them. They differ from those of
version 17.0 by what that version added, and by one letter whose category it changed.
-/

namespace CommandShell.Unicode.Version16

/-- The character is not assigned yet. -/
def isLater (c : Char) : Bool := addedIn17_0.contains c.toNat

/-- The letter that was a lowercase letter, and is in no case since. -/
def pharyngeal : Char := '\u0295'

/-- The category of a character. -/
def category (c : Char) : Category :=
  if isLater c then .unassigned
  else if c = pharyngeal then .lowercaseLetter
  else .of c

/-- The character has the property `Alphabetic`. -/
def isAlphabetic (c : Char) : Bool := Unicode.isAlphabetic c && !isLater c

/-- The character has the property `Lowercase`. -/
def isLowercase (c : Char) : Bool :=
  (Unicode.isLowercase c && !isLater c) || c = pharyngeal

/-- The character has the property `Uppercase`. -/
def isUppercase (c : Char) : Bool := Unicode.isUppercase c && !isLater c

/-- The character is a decimal digit. -/
def isDigit (c : Char) : Bool := Unicode.isDigit c && !isLater c

/-- The character is one that words are made of. -/
def isWordChar (c : Char) : Bool := Unicode.isWordChar c && !isLater c

/-- The character is shown together with the one before it. -/
def isExtending (c : Char) : Bool := Unicode.isExtending c && !isLater c

/-- The characters that differ from a character in case only. -/
def caseVariants (c : Char) : List Char :=
  if isLater c then [] else (Unicode.caseVariants c).filter (!isLater ·)

end CommandShell.Unicode.Version16
