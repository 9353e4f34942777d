/-!
# Letter Case

Names are recognised without regard to case by mapping their letters with the full case mappings of
Unicode, where one letter may become several. Every name of this library is written in ASCII, so of
the letters outside ASCII only those whose mapping lies in ASCII matter. They are listed here; all
other letters outside ASCII stay as they are and match nothing.
-/

namespace Transceiver.Letter

/-- The letters outside ASCII whose upper case is written in ASCII. -/
def upperTable : List (Char × List Char) :=
  [('\u00df', ['S', 'S']),
   ('\u0131', ['I']),
   ('\u017f', ['S']),
   ('\ufb00', ['F', 'F']),
   ('\ufb01', ['F', 'I']),
   ('\ufb02', ['F', 'L']),
   ('\ufb03', ['F', 'F', 'I']),
   ('\ufb04', ['F', 'F', 'L']),
   ('\ufb05', ['S', 'T']),
   ('\ufb06', ['S', 'T'])]

/-- The letters outside ASCII whose lower case is written in ASCII: the kelvin sign alone. -/
def lowerTable : List (Char × List Char) :=
  [('\u212a', ['k'])]

/-- The upper case of a letter. -/
def upper (c : Char) : List Char :=
  (upperTable.lookup c).getD [c.toUpper]

/-- The lower case of a letter. -/
def lower (c : Char) : List Char :=
  (lowerTable.lookup c).getD [c.toLower]

/-- The upper case of a text. -/
def upperCase (text : String) : String :=
  String.ofList (text.toList.flatMap upper)

/-- The lower case of a text. -/
def lowerCase (text : String) : String :=
  String.ofList (text.toList.flatMap lower)

end Transceiver.Letter
