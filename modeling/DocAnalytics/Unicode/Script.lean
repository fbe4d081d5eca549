import DocAnalytics.Unicode.ScriptExtensionTable
import DocAnalytics.Unicode.ScriptTable
import DocAnalytics.Unicode.Table

/-!
# DocAnalytics.Unicode.Script

Scripts, in the sixteenth edition: the characters that belong to a script, and those that are used
in it.
-/

namespace DocAnalytics
namespace Unicode

/-- The four letters, without capitals, of a script with a name. The scripts of Coptic and of
inherited signs have two such codes. -/
def scriptCode? (name : String) : Option String :=
  if name == "qaac" then some "copt"
  else if name == "qaai" then some "zinh"
  else (scriptNames.find? fun s => s.1 == name || s.2 == name).map Prod.fst

def scriptRuns : List Run := readRuns 4 scriptText

def scriptMembers (code : String) : CharSet :=
  Run.members (fun tag => tag.map Char.toLower == code.toList) scriptRuns

/-- The characters that have scripts beside their own. -/
def extendedScripts : CharSet := .ofText (scriptExtensions.map Prod.fst)

/-- The characters that are used in the script with a code: those listed with it, and those of the
script that are not listed at all. -/
def scriptUsers (code : String) : CharSet :=
  let listed := scriptExtensions.filter fun e => (e.2.splitOn " ").contains code
  ((scriptMembers code).diff extendedScripts).union (.ofText (listed.map Prod.fst))

end Unicode
end DocAnalytics
