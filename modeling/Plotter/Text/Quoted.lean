import Plotter.Text.Visible

set_option autoImplicit false

namespace Plotter.Text

def codePointEscape (char : Char) : List Char :=
  '\\' :: 'u' :: '\x7b' :: (Nat.toDigits 16 char.toNat ++ ['\x7d'])

def quotedChar (quote char : Char) : List Char :=
  if char = quote ∨ char = '\\' then ['\\', char]
  else if char = '\n' then ['\\', 'n']
  else if char = '\r' then ['\\', 'r']
  else if char = '\t' then ['\\', 't']
  else if char = '\x00' then ['\\', '0']
  else if isVisible char then [char]
  else codePointEscape char

def quotedText (text : List Char) : List Char :=
  '"' :: (text.flatMap (quotedChar '"') ++ ['"'])

def quoted (text : String) : String := String.ofList (quotedText text.toList)

def quotedSingle (char : Char) : String := String.ofList ('\x27' :: (quotedChar '\x27' char ++ ['\x27']))

end Plotter.Text
