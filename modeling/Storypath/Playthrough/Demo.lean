import Storypath.Disk.Path
import Storypath.Playthrough.Discover

/-! Where the demo stories lie, as paths from the top folder of a workspace. -/
namespace Storypath.Demo

def root : String := "demos"

def shown (path : String) : String :=
  if (Path.ofText path).absolute then path else Path.tidy path

def folder (name : String) : String := shown (Path.join root name)

def file (name fileName : String) : String := shown (Path.join (Path.join root name) fileName)

def script (name : String) : String := file name "story.lgscript"

def caseFile (name : String) : String := file name Playthrough.caseFileName

end Storypath.Demo
