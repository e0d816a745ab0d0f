import RouterLayer.Failure
import RouterLayer.OrderedMap

set_option autoImplicit false

namespace RouterLayer

structure Stepped (σ : Type) where
  state : σ
  outcome : Except Failure Unit

structure Sink (σ : Type) where
  reset : σ → Stepped σ
  createFile : σ → Text → Text → σ
  save : σ → Stepped σ

structure MemorySink where
  files : OrderedMap Text
  saved : Bool
  resets : Nat
  deriving DecidableEq, Repr

namespace MemorySink

def empty : MemorySink := ⟨[], false, 0⟩

def reset (s : MemorySink) : MemorySink := ⟨[], false, s.resets + 1⟩

/-- A file that is created again keeps its place. -/
def createFile (s : MemorySink) (path content : Text) : MemorySink :=
  { s with files := s.files.put path content }

def save (s : MemorySink) : MemorySink := { s with saved := true }

def sink : Sink MemorySink where
  reset s := ⟨s.reset, .ok ()⟩
  createFile := createFile
  save s := ⟨s.save, .ok ()⟩

end MemorySink

end RouterLayer
