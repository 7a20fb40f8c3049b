import Triage.Label
import Triage.Text.Blank
import Triage.Text.Lowercase
import Triage.Text.Search

namespace Triage

/-!
# Keywords that stand for labels

* `KeywordEntry`, `KeywordTable` — labels with their keywords, in the order in which they are tried.
* `KeywordTable.builtin` — the table that every run starts from.
* `KeywordTable.withScripts` — file names that become keywords of the label `scripts`.
* `KeywordTable.classify` — every keyword that a text mentions, letter case aside.
-/

/-- A label and the keywords that suggest it. -/
structure KeywordEntry where
  label : Label
  keywords : List String
  deriving DecidableEq, Repr

/-- Entries in the order in which they are tried. -/
structure KeywordTable where
  entries : List KeywordEntry
  deriving DecidableEq, Repr

/-- A keyword found in a text, with the label that it suggests. -/
structure KeywordHit where
  label : Label
  keyword : String
  deriving DecidableEq, Repr

/-- The label of the repository's script files. -/
def scriptsLabel : Label := "scripts"

/-- A text in lower case mentions the keyword, whatever the letter case of that is. -/
def mentions (lowered : List Char) (keyword : String) : Bool :=
  Text.occurs (Text.lower keyword.toList) lowered

namespace KeywordEntry

/-- The hits of one entry in a text in lower case, in the order of its keywords. -/
def hits (lowered : List Char) (entry : KeywordEntry) : List KeywordHit :=
  (entry.keywords.filter (mentions lowered)).map (⟨entry.label, ·⟩)

/-- Appends keywords to the first entry with the label, or an entry of its own at the end. -/
def extend (label : Label) (names : List String) : List KeywordEntry → List KeywordEntry
  | [] => [⟨label, names⟩]
  | entry :: rest =>
    if entry.label = label then { entry with keywords := entry.keywords ++ names } :: rest
    else entry :: extend label names rest

end KeywordEntry

namespace KeywordTable

/-- Appends file names to the keywords of `scripts`, leaving out the blank ones. -/
def withScripts (table : KeywordTable) (names : List String) : KeywordTable :=
  ⟨KeywordEntry.extend scriptsLabel (names.filter (!Text.isBlankText ·.toList)) table.entries⟩

/-- The keywords of a label. -/
def keywords? (table : KeywordTable) (label : Label) : Option (List String) :=
  (table.entries.find? (·.label == label)).map (·.keywords)

/-- Every keyword that the text mentions, in table order. -/
def classify (table : KeywordTable) (text : String) : List KeywordHit :=
  let lowered := Text.lower text.toList
  table.entries.flatMap (·.hits lowered)

/-- The platforms come first, then the kinds of report, then what calls for haste. -/
def builtin : KeywordTable where
  entries :=
    [⟨"linux", ["/proc/disk", "/proc/net", "/proc/smaps", "/proc/vmstat", "/sys/class", "alpine",
        "apt ", "apt-", "archlinux", "centos", "debian", "fedora", "gentoo", "kali", "linux",
        "manylinux", "mint", "opensuse", "red hat", "redhat", "RHEL", "rpm", "slackware",
        "suse", "ubuntu", "yum"]⟩,
     ⟨"windows", [".bat", "appveyor", "CloseHandle", "DLL", "GetLastError", "make.bat", "microsoft",
        "mingw", "MSVC", "msys", "NtQuery", "NTSTATUS", "NtWow64", "OpenProcess", "studio",
        "TCHAR", "TerminateProcess", "Visual Studio", "WCHAR", "win ", "win10", "win32",
        "win7", "windows error", "windows", "WindowsError", "WinError"]⟩,
     ⟨"macos", ["big sur", "capitan", "catalina", "darwin", "dylib", "m1", "mac ", "macos", "mojave",
        "mojave", "os x", "osx", "sierra", "xcode", "yosemite"]⟩,
     ⟨"aix", ["aix"]⟩,
     ⟨"cygwin", ["cygwin"]⟩,
     ⟨"freebsd", ["freebsd"]⟩,
     ⟨"netbsd", ["netbsd"]⟩,
     ⟨"openbsd", ["openbsd"]⟩,
     ⟨"sunos", ["sunos", "solaris"]⟩,
     ⟨"wsl", ["wsl"]⟩,
     ⟨"unix", ["/dev/pts", "/dev/tty", "_psutil_posix", "psposix", "statvfs", "waitpid"]⟩,
     ⟨"pypy", ["pypy"]⟩,
     ⟨"enhancement", ["enhancement"]⟩,
     ⟨"memleak", ["memory leak", "leaks memory", "memleak", "mem leak"]⟩,
     ⟨"api", ["idea", "proposal", "api", "feature"]⟩,
     ⟨"performance", ["performance", "speedup", "speed up", "slow", "fast"]⟩,
     ⟨"wheels", ["wheel", "wheels"]⟩,
     ⟨"scripts", ["example dir", "example script", "examples script", "scripts/"]⟩,
     ⟨"bug", ["can't execute", "can't install", "cannot execute", "cannot install", "crash",
        "critical", "fail", "install error"]⟩,
     ⟨"doc", ["dev guide", "devguide", "doc ", "docfix", "document ", "documentation", "HISTORY",
        "index.rst", "pythonhosted", "README", "readthedocs", "sphinx"]⟩,
     ⟨"tests", [" test ", "appveyor", "cirrus", "continuous integration", "coverage", "pytest",
        "tests", "travis", "unit test", "unittest"]⟩,
     ⟨"priority-high", ["core dumped", "MemoryError", "RuntimeError", "segfault", "segmentation fault",
        "SystemError", "WindowsError", "WinError", "ZeroDivisionError"]⟩]

end KeywordTable

end Triage
