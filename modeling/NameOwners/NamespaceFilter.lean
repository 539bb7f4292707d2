/-!
Which namespaces are tracked: the listed ones, or all of them if none is listed.
-/

namespace NameOwners

structure NamespaceFilter where
  allowed : List String := []
deriving DecidableEq, Repr

namespace NamespaceFilter

def all : NamespaceFilter := ⟨[]⟩

def inScope (f : NamespaceFilter) (ns : String) : Bool :=
  f.allowed.isEmpty || f.allowed.contains ns

@[simp] theorem inScope_all (ns : String) : all.inScope ns = true := rfl

theorem inScope_iff {f : NamespaceFilter} {ns : String} :
    f.inScope ns = true ↔ f.allowed = [] ∨ ns ∈ f.allowed := by
  simp [inScope]

end NamespaceFilter

end NameOwners
