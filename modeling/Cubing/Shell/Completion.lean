import Cubing.Face
import Cubing.Shell.Session
import Cubing.Text.Letters

/-!
# Completion

What the shell offers to complete an argument. Names of faces are completed in
any case, names of levels as they are written.
-/
namespace Cubing.Shell

def completeFace (text : String) : List String :=
  (Face.all.map Face.name).filter fun name => Text.beginsName name text

def completeLevel (text : String) : List String :=
  (levelNames.map (·.1)).filter fun name => text.toList.isPrefixOf name.toList

/-- The commands whose argument is completed. -/
def completions? (text : String) : Command → Option (List String)
  | .rotateFace | .focus => some (completeFace text)
  | .debugLevel => some (completeLevel text)
  | _ => none

end Cubing.Shell
