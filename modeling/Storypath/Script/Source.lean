import Storypath.Disk.Files
import Storypath.Fault
import Storypath.Script.Segment

/-! Scripts that are kept in files. -/
namespace Storypath

variable {m : Type → Type} [Monad m] [Files m]

def loadScript (path : String) : m (Except Fault String) := do
  return (← readText path).mapError (.source path)

def resolveFile (path : String) (target : Target) (options : ScriptOptions) :
    m (Except Fault (List Statement)) := do
  match ← loadScript path with
  | .error fault => return .error fault
  | .ok source => return (resolveTarget source target options).mapError .script

end Storypath
