/-!
DNS names as sequences of labels, apart from any text. A label is a nonempty sequence of at most 63
bytes, and a name takes at most 255 bytes when each label is preceded by its length and the whole
is followed by a zero. Names are compared without regard to the case of ASCII letters by lowering
both (`Name.lower`).
-/

namespace NameOwners.Dns

abbrev Label := List UInt8

/-- How many bytes labels take when each is preceded by its length and a zero follows them. -/
def wireLength : List Label → Nat
  | [] => 1
  | l :: ls => l.length + 1 + wireLength ls

def LengthsFit (labels : List Label) : Prop :=
  (∀ l ∈ labels, 1 ≤ l.length ∧ l.length ≤ 63) ∧ wireLength labels ≤ 255

instance (labels : List Label) : Decidable (LengthsFit labels) := by
  unfold LengthsFit
  infer_instance

structure Name where
  labels : List Label
  fit : LengthsFit labels
deriving DecidableEq

def lowerByte (b : UInt8) : UInt8 :=
  if 65 ≤ b ∧ b ≤ 90 then b + 32 else b

namespace Name

def root : Name := ⟨[], by decide⟩

def ofLabels? (labels : List Label) : Option Name :=
  if h : LengthsFit labels then some ⟨labels, h⟩ else none

theorem wireLength_lower (labels : List Label) :
    wireLength (labels.map (·.map lowerByte)) = wireLength labels := by
  induction labels with
  | nil => rfl
  | cons l ls ih => simp [wireLength, ih]

theorem lengthsFit_lower {labels : List Label} (h : LengthsFit labels) :
    LengthsFit (labels.map (·.map lowerByte)) := by
  refine ⟨fun l hl => ?_, ?_⟩
  · obtain ⟨l', hl', rfl⟩ := List.mem_map.1 hl
    simpa using h.1 l' hl'
  · rw [wireLength_lower]
    exact h.2

def lower (n : Name) : Name :=
  ⟨n.labels.map (·.map lowerByte), lengthsFit_lower n.fit⟩

@[simp] theorem labels_lower (n : Name) : n.lower.labels = n.labels.map (·.map lowerByte) := rfl

end Name

end NameOwners.Dns
