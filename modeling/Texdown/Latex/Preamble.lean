import Texdown.Text.Basic

/-!
# The standard preamble

What frames a document unless it brings a preamble of its own: a class, the packages that the
commands of this library need, and the two boxes of task lists.
-/
namespace Texdown.Latex

def braced (t : Text) : Text := '\x7b' :: t ++ ['\x7d']

def command (name argument : Text) : Text := '\\' :: name ++ braced argument

def commandWith (name option argument : Text) : Text :=
  '\\' :: name ++ '[' :: option ++ ']' :: braced argument

def package (name : String) : Text := command "usepackage".toList name.toList

def packageWith (option name : String) : Text :=
  commandWith "usepackage".toList option.toList name.toList

def beginsDocument : Text := command "begin".toList "document".toList

/-- The last line of a document. -/
def endsDocument : Text := command "end".toList "document".toList ++ ['\n']

/-- The definition of a box: a mathematical symbol that stands in text. -/
def box (name symbol : String) : Text :=
  command "newcommand".toList ('\\' :: name.toList)
    ++ braced (command "ensuremath".toList ('\\' :: symbol.toList))

def preambleLines : List Text :=
  ["% Generated by mdtex".toList,
   "% preamble version 1".toList,
   commandWith "documentclass".toList "11pt".toList "article".toList,
   [],
   packageWith "utf8" "inputenc",
   packageWith "T1" "fontenc",
   package "lmodern",
   package "textcomp",
   package "amsmath",
   package "amssymb",
   package "graphicx",
   packageWith "normalem" "ulem",
   packageWith "a4paper,margin=2.5cm" "geometry",
   packageWith "hidelinks" "hyperref",
   [],
   box "checkedbox" "boxtimes",
   box "uncheckedbox" "square",
   [],
   command "setlength".toList "\\parindent".toList ++ braced "0pt".toList,
   command "setlength".toList "\\parskip".toList ++ braced "0.6\\baselineskip".toList,
   [],
   beginsDocument]

def preamble : Text := preambleLines.flatMap fun l => l ++ ['\n']

end Texdown.Latex
