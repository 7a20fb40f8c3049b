import Triage.Text.Lowercase
import Triage.Text.Search

namespace Triage.MissingHeaders

/-!
# Reports of missing header files

* `textSignatures` — phrases, sought in title and body, letter case aside.
* `compilerSignatures` — compiler output, sought in the body without its spaces.
* `detect?` — the first signature that is found, phrases first.
* `reply` — the comment that answers such a report.
-/

/-- Phrases that tell of missing headers, in lower case. -/
def textSignatures : List String := ["missing python.h", "python.h: no such file or directory"]

/-- Compiler output that tells of missing headers, without spaces, for both kinds of line break. -/
def compilerSignatures : List String :=
  ["#include<Python.h>\n^~~~", "#include<Python.h>\r\n^~~~"]

/-- A phrase stands in the title or in the body, both in lower case. -/
def inText (title body : List Char) (signature : String) : Bool :=
  Text.occurs signature.toList title || Text.occurs signature.toList body

/-- The text without its spaces. -/
def compact (text : List Char) : List Char := text.filter (· != ' ')

/-- The first signature that the report shows. -/
def detect? (title body : String) : Option String :=
  (textSignatures.find? (inText (Text.lower title.toList) (Text.lower body.toList))).or
    (compilerSignatures.find? fun signature =>
      Text.occurs signature.toList (compact body.toList))

/-- The comment that answers such a report. -/
def reply : String :=
  "It looks like you're missing `Python.h` headers. This usually means you have "
    ++ "to install them first, then retry psutil installation.\n"
    ++ "Please read [INSTALL](https://github.com/giampaolo/psutil/blob/master/INSTALL.rst) "
    ++ "instructions for your platform. "
    ++ "This is an auto-generated response based on the text you submitted. "
    ++ "If this was a mistake or you think there's a bug with psutil installation "
    ++ "process, please add a comment to reopen this issue.\n"

end Triage.MissingHeaders
