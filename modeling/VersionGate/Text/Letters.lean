/-! Case of the letters that names written in ASCII can be spelt with. Two letters beyond ASCII
have an ASCII capital, and two have an ASCII small letter; no other letter can complete such a
name, so all others stay as they are. -/
namespace VersionGate.Text

/-- The capital of a letter, where that is an ASCII letter: dotless i and long s have one. -/
def capital (c : Char) : Char :=
  if c = 'ı' then 'I' else if c = 'ſ' then 'S' else c.toUpper

/-- The small form of a letter, where that is an ASCII letter: long s and the kelvin sign have one. -/
def small (c : Char) : Char :=
  if c = 'ſ' then 's' else if c = '\u212a' then 'k' else c.toLower

def capitals (text : String) : String := text.map capital

def smallLetters (text : String) : String := text.map small

end VersionGate.Text
