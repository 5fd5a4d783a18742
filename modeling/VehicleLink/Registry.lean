/-! Subscribers in the order of their subscription, each at most once. -/

namespace VehicleLink

structure Registry (α : Type) where
  entries : List α
  deriving DecidableEq, Repr

namespace Registry

variable {α : Type}

def empty : Registry α := ⟨[]⟩

def size (registry : Registry α) : Nat := registry.entries.length

def isEmpty (registry : Registry α) : Bool := registry.entries.isEmpty

/-- The number of entries of a kind. -/
def count (registry : Registry α) (kind : α → Bool) : Nat := (registry.entries.filter kind).length

variable [DecidableEq α]

/-- Adds an entry at the end; one that is there keeps its place. -/
def insert (registry : Registry α) (entry : α) : Registry α :=
  if entry ∈ registry.entries then registry else ⟨registry.entries ++ [entry]⟩

def remove (registry : Registry α) (entry : α) : Registry α :=
  ⟨registry.entries.filter (· ≠ entry)⟩

variable {registry : Registry α} {entry other : α}

theorem mem_insert :
    other ∈ (registry.insert entry).entries ↔ other ∈ registry.entries ∨ other = entry := by
  unfold insert
  split
  · next present =>
    constructor
    · exact Or.inl
    · rintro (member | rfl)
      · exact member
      · exact present
  · simp

theorem mem_remove :
    other ∈ (registry.remove entry).entries ↔ other ∈ registry.entries ∧ other ≠ entry := by
  simp [remove]

theorem nodup_insert (nodup : registry.entries.Nodup) : (registry.insert entry).entries.Nodup := by
  unfold insert
  split
  · exact nodup
  · next absent =>
    simp only [List.nodup_append, nodup, List.nodup_cons, List.not_mem_nil, not_false_eq_true,
      List.nodup_nil, true_and, List.mem_singleton]
    rintro member present _ rfl rfl
    exact absent present

theorem nodup_remove (nodup : registry.entries.Nodup) : (registry.remove entry).entries.Nodup :=
  nodup.filter _

end Registry

end VehicleLink
