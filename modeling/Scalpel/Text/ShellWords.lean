import Scalpel.Text.Blank

/-!
A list of words as a command line for a shell. A word with only harmless characters stands for
itself; any other is put between single quotes.
-/

set_option autoImplicit false

namespace Scalpel.ShellWords

def isHarmless (c : Char) : Bool :=
  c.isAlphanum || "_@%+=:,./-".toList.contains c

def quote (word : String) : String :=
  if word.isEmpty then "''"
  else if word.toList.all isHarmless then word
  else
    String.ofList ('\'' :: word.toList.flatMap (fun c =>
      if c = '\'' then ['\'', '"', '\'', '"', '\''] else [c]) ++ ['\''])

def join (words : List String) : String :=
  " ".intercalate (words.map quote)

end Scalpel.ShellWords
