import VehicleLink.Registry
import Mathlib.Algebra.BigOperators.Fin
import Mathlib.Data.Set.Card

/-!
What a series of calls makes of a registry. An entry is there if the last call on it inserts it, and
the entries stand in the order in which each of them last came in.
-/

namespace VehicleLink.Registry

variable {α β : Type}

inductive Call (α : Type) where
  | insert (entry : α)
  | remove (entry : α)
  deriving DecidableEq, Repr

def Call.entry : Call α → α
  | .insert entry | .remove entry => entry

section Calls

variable [DecidableEq α] {calls : List (Call α)} {call : Call α} {entry : α} {place : Nat}

def apply (registry : Registry α) : Call α → Registry α
  | .insert entry => registry.insert entry
  | .remove entry => registry.remove entry

def ofCalls (calls : List (Call α)) : Registry α := calls.foldl apply empty

/-- The last call on an entry inserts it. -/
def Wanted (calls : List (Call α)) (entry : α) : Prop :=
  (calls.filter (·.entry = entry)).getLast? = some (.insert entry)

instance (calls : List (Call α)) (entry : α) : Decidable (Wanted calls entry) :=
  inferInstanceAs (Decidable (_ = _))

/-- By the call in a place an entry goes from absent to present. -/
def Enters (calls : List (Call α)) (entry : α) (place : Nat) : Prop :=
  ¬ Wanted (calls.take place) entry ∧ Wanted (calls.take (place + 1)) entry

def LastEnters (calls : List (Call α)) (entry : α) (place : Nat) : Prop :=
  Enters calls entry place ∧ ∀ other, Enters calls entry other → other ≤ place

/-- A registry holds what a series of calls asks for, in the order of entering. -/
structure Reflects (registry : Registry α) (calls : List (Call α)) : Prop where
  nodup : registry.entries.Nodup
  mem_iff : ∀ entry, entry ∈ registry.entries ↔ Wanted calls entry
  entered : ∀ entry ∈ registry.entries, ∃ place, LastEnters calls entry place
  ordered : registry.entries.Pairwise fun earlier later => ∃ place next,
    LastEnters calls earlier place ∧ LastEnters calls later next ∧ place < next

/-! ### One more call -/

theorem not_wanted_nil (entry : α) : ¬ Wanted [] entry := by
  simp [Wanted]

theorem wanted_concat :
    Wanted (calls ++ [call]) entry ↔
      call = .insert entry ∨ call.entry ≠ entry ∧ Wanted calls entry := by
  by_cases same : call.entry = entry
  · have last : (calls ++ [call]).filter (·.entry = entry) =
        calls.filter (·.entry = entry) ++ [call] := by
      rw [List.filter_append, List.filter_singleton]
      simp [same]
    simp only [Wanted, last, List.getLast?_concat, Option.some.injEq, same, ne_eq,
      not_true_eq_false, false_and, or_false]
  · have passed : (calls ++ [call]).filter (·.entry = entry) =
        calls.filter (·.entry = entry) := by
      rw [List.filter_append, List.filter_singleton]
      simp [same]
    have other : call ≠ .insert entry := by
      rintro rfl
      exact same rfl
    simp only [Wanted, passed, same, other, ne_eq, not_false_eq_true, true_and, false_or]

theorem Enters.lt_length (enters : Enters calls entry place) : place < calls.length := by
  by_contra past
  obtain ⟨absent, present⟩ := enters
  rw [List.take_of_length_le (by omega)] at absent present
  exact absent present

theorem enters_concat :
    Enters (calls ++ [call]) entry place ↔
      Enters calls entry place ∨
        place = calls.length ∧ ¬ Wanted calls entry ∧ call = .insert entry := by
  rcases Nat.lt_trichotomy place calls.length with before | here | past
  · have other : place ≠ calls.length := by omega
    simp only [Enters, List.take_append_of_le_length (Nat.le_of_lt before),
      List.take_append_of_le_length before, other, false_and, or_false]
  · have kept : ¬ Enters calls entry place := fun enters => by
      have := enters.lt_length
      omega
    subst here
    simp only [kept, true_and, false_or]
    simp only [Enters, List.take_append_of_le_length (Nat.le_refl _), List.take_length,
      List.take_of_length_le (l := calls ++ [call]) (i := calls.length + 1) (by simp),
      wanted_concat]
    constructor
    · rintro ⟨absent, new | ⟨_, present⟩⟩
      · exact ⟨absent, new⟩
      · exact absurd present absent
    · rintro ⟨absent, new⟩
      exact ⟨absent, .inl new⟩
  · have other : place ≠ calls.length := by omega
    have none : ∀ series : List (Call α), series.length ≤ place → ¬ Enters series entry place :=
      fun series short enters => by
        have := enters.lt_length
        omega
    have short : (calls ++ [call]).length ≤ place := by
      rw [List.length_append, List.length_singleton]
      omega
    simp only [none _ short, none calls (by omega), other, false_and, or_false]

/-- An entry that is there keeps its place, whatever the next call is. -/
theorem LastEnters.concat (last : LastEnters calls entry place) (wanted : Wanted calls entry) :
    LastEnters (calls ++ [call]) entry place := by
  refine ⟨enters_concat.mpr (.inl last.1), ?_⟩
  intro other enters
  rcases enters_concat.mp enters with earlier | ⟨_, absent, _⟩
  · exact last.2 other earlier
  · exact absurd wanted absent

theorem lastEnters_insert (absent : ¬ Wanted calls entry) :
    LastEnters (calls ++ [.insert entry]) entry calls.length := by
  refine ⟨enters_concat.mpr (.inr ⟨rfl, absent, rfl⟩), ?_⟩
  intro other enters
  rcases enters_concat.mp enters with earlier | ⟨same, _⟩
  · exact Nat.le_of_lt earlier.lt_length
  · exact Nat.le_of_eq same

/-! ### All calls -/

theorem reflects_empty : (empty : Registry α).Reflects [] where
  nodup := List.nodup_nil
  mem_iff entry := by simp [empty, not_wanted_nil]
  entered := List.forall_mem_nil _
  ordered := .nil

variable {registry : Registry α}

theorem Reflects.remove (reflects : registry.Reflects calls) (entry : α) :
    (registry.remove entry).Reflects (calls ++ [.remove entry]) where
  nodup := nodup_remove reflects.nodup
  mem_iff other := by
    rw [mem_remove, wanted_concat, reflects.mem_iff]
    simp only [Call.entry, reduceCtorEq, false_or]
    exact and_comm.trans (and_congr_left fun _ => ne_comm)
  entered other member := by
    have present := (mem_remove.mp member).1
    obtain ⟨place, last⟩ := reflects.entered other present
    exact ⟨place, last.concat ((reflects.mem_iff other).mp present)⟩
  ordered := by
    apply (reflects.ordered.filter _).imp_of_mem
    intro earlier later earlierMember laterMember ordered
    obtain ⟨place, next, last, nextLast, before⟩ := ordered
    have wanted := (reflects.mem_iff earlier).mp (List.mem_of_mem_filter earlierMember)
    have nextWanted := (reflects.mem_iff later).mp (List.mem_of_mem_filter laterMember)
    exact ⟨place, next, last.concat wanted, nextLast.concat nextWanted, before⟩

theorem Reflects.insert (reflects : registry.Reflects calls) (entry : α) :
    (registry.insert entry).Reflects (calls ++ [.insert entry]) := by
  have lasting : ∀ other ∈ registry.entries, ∀ place, LastEnters calls other place →
      LastEnters (calls ++ [.insert entry]) other place :=
    fun other member place last => last.concat ((reflects.mem_iff other).mp member)
  have kept : registry.entries.Pairwise fun earlier later => ∃ place next,
      LastEnters (calls ++ [.insert entry]) earlier place ∧
        LastEnters (calls ++ [.insert entry]) later next ∧ place < next := by
    apply reflects.ordered.imp_of_mem
    rintro earlier later earlierMember laterMember ⟨place, next, last, nextLast, before⟩
    exact ⟨place, next, lasting _ earlierMember _ last, lasting _ laterMember _ nextLast, before⟩
  have members : ∀ other, other ∈ (registry.insert entry).entries ↔
      Wanted (calls ++ [.insert entry]) other := by
    intro other
    rw [mem_insert, wanted_concat, reflects.mem_iff]
    by_cases same : other = entry
    · simp [same]
    · simp [Call.entry, same, Ne.symm same]
  refine ⟨nodup_insert reflects.nodup, members, ?_, ?_⟩
  · intro other member
    by_cases present : other ∈ registry.entries
    · obtain ⟨place, last⟩ := reflects.entered other present
      exact ⟨place, lasting other present place last⟩
    · obtain rfl := (mem_insert.mp member).resolve_left present
      exact ⟨_, lastEnters_insert fun wanted => present ((reflects.mem_iff other).mpr wanted)⟩
  · unfold Registry.insert
    split
    · exact kept
    · next absent =>
      -- What is new stands last, and it came in by the last call.
      have unwanted : ¬ Wanted calls entry :=
        fun wanted => absent ((reflects.mem_iff entry).mpr wanted)
      apply List.pairwise_append.mpr
      refine ⟨kept, List.pairwise_singleton _ _, ?_⟩
      intro earlier member later new
      obtain rfl := List.mem_singleton.mp new
      obtain ⟨place, last⟩ := reflects.entered earlier member
      exact ⟨place, calls.length, lasting _ member _ last, lastEnters_insert unwanted,
        last.1.lt_length⟩

theorem reflects_ofCalls (calls : List (Call α)) : (ofCalls calls).Reflects calls := by
  induction calls using List.reverseRecOn with
  | nil => exact reflects_empty
  | append_singleton calls call ih =>
      rw [ofCalls, List.foldl_append]
      cases call with
      | insert entry => exact ih.insert entry
      | remove entry => exact ih.remove entry

theorem insert_eq_self (member : entry ∈ registry.entries) : registry.insert entry = registry :=
  if_pos member

theorem remove_eq_self (absent : entry ∉ registry.entries) : registry.remove entry = registry := by
  have kept : ∀ other ∈ registry.entries, decide (other ≠ entry) = true := by
    intro other member
    apply decide_eq_true
    rintro rfl
    exact absent member
  rw [remove, List.filter_eq_self.mpr kept]

/-! ### Counting -/

theorem Reflects.count_eq (reflects : registry.Reflects calls) (kind : α → Bool) :
    registry.count kind = {entry | Wanted calls entry ∧ kind entry}.ncard := by
  have same : {entry | Wanted calls entry ∧ kind entry} =
      ((registry.entries.filter kind).toFinset : Set α) := by
    ext entry
    simp [reflects.mem_iff]
  rw [same, Set.ncard_coe_finset, List.toFinset_card_of_nodup (reflects.nodup.filter _), count]

theorem Reflects.size_eq (reflects : registry.Reflects calls) :
    registry.size = {entry | Wanted calls entry}.ncard := by
  have counted := reflects.count_eq fun _ => true
  simpa [count, size] using counted

theorem Reflects.isEmpty_iff (reflects : registry.Reflects calls) :
    registry.isEmpty ↔ ∀ entry, ¬ Wanted calls entry := by
  rw [isEmpty, List.isEmpty_iff, List.eq_nil_iff_forall_not_mem]
  exact forall_congr' fun entry => not_congr (reflects.mem_iff entry)

end Calls

/-- Entries are counted one class after the other. -/
theorem sum_count [DecidableEq β] {registry : Registry α} {classes : Finset β} {classOf : α → β}
    (classed : ∀ entry ∈ registry.entries, classOf entry ∈ classes) :
    ∑ label ∈ classes, registry.count (classOf · = label) = registry.size := by
  have counted (label : β) : registry.count (classOf · = label) =
      Multiset.count label ↑(registry.entries.map classOf) := by
    rw [Multiset.coe_count, List.count_eq_countP, List.countP_map, List.countP_eq_length_filter]
    rfl
  have covered : ∀ label ∈ (↑(registry.entries.map classOf) : Multiset β), label ∈ classes := by
    intro label member
    obtain ⟨entry, present, rfl⟩ := List.mem_map.mp (Multiset.mem_coe.mp member)
    exact classed entry present
  calc
    ∑ label ∈ classes, registry.count (classOf · = label)
      = ∑ label ∈ classes, Multiset.count label ↑(registry.entries.map classOf) :=
          Finset.sum_congr rfl fun label _ => counted label
    _ = Multiset.card (registry.entries.map classOf : Multiset β) :=
          Multiset.sum_count_eq_card covered
    _ = registry.size := by rw [Multiset.coe_card, List.length_map, size]

end VehicleLink.Registry
