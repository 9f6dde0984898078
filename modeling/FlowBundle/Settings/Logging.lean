import FlowBundle.Text.LetterCase
/-!
# The log level

A level is looked up by its name in capitals, and a name that is not there stands for the usual level.
Two of the names that are there are of something else, and logging cannot be set up with them.
-/
namespace FlowBundle
namespace Logging

inductive Fault where
  | format
  | styles
  deriving DecidableEq, Repr

def Fault.message : Fault → String
  | .format => "Unknown level: '%(levelname)s:%(name)s:%(message)s'"
  | .styles =>
    "Level not an integer or a valid string: \x7b'%': (<class 'logging.PercentStyle'>, " ++
      "'%(levelname)s:%(name)s:%(message)s'), '\x7b': (<class 'logging.StrFormatStyle'>, " ++
      "'\x7blevelname\x7d:\x7bname\x7d:\x7bmessage\x7d'), '$': (<class 'logging.StringTemplateStyle'>, " ++
      "'$\x7blevelname\x7d:$\x7bname\x7d:$\x7bmessage\x7d')\x7d"

/-- **What keeps logging from being set up** with a level of this name. -/
def fault? (level : String) : Option Fault :=
  if Text.upper level = "BASIC_FORMAT" then some .format
  else if Text.upper level = "_STYLES" then some .styles
  else none

end Logging
end FlowBundle
