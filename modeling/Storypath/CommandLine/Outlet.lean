import Storypath.Fault
import Storypath.Json.Value

/-! Writing an answer to an output that may come to its end. -/
namespace Storypath

structure Outlet where
  room : Option Nat
  written : ByteArray

namespace Outlet

def unlimited : Outlet := ⟨none, ByteArray.empty⟩

def limited (room : Nat) : Outlet := ⟨some room, ByteArray.empty⟩

def writeLine (o : Outlet) (line : String) : Outlet × Bool :=
  let bytes := (line ++ "\n").toUTF8
  match o.room with
  | none => ({ o with written := o.written ++ bytes }, true)
  | some room =>
    (⟨some (room - bytes.size), o.written ++ bytes.extract 0 room⟩, bytes.size ≤ room)

def writeLines (o : Outlet) : List String → Outlet × Bool
  | [] => (o, true)
  | line :: lines =>
    match o.writeLine line with
    | (o, true) => o.writeLines lines
    | (o, false) => (o, false)

end Outlet

structure Answer where
  lines : List String
  exitCode : Nat

namespace Answer

def ofFault (f : Fault) : Answer :=
  ⟨["RESULT:ERROR", s!"ERROR_CODE:{f.code}",
    s!"ERROR_MSG_JSON:{(Json.Value.ofString f.message).render}"], 1⟩

/-- Writes an answer, and gives the exit code. If the output fails, that is a fault, which
is told as far as the output still takes it. -/
def emit (a : Answer) (o : Outlet) : Outlet × Nat :=
  match o.writeLines a.lines with
  | (o, true) => (o, a.exitCode)
  | (o, false) => ((o.writeLines (ofFault .output).lines).1, (ofFault .output).exitCode)

end Answer
end Storypath
