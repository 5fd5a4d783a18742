import VehicleLink.Quaternion

/-!
The layout of a code: which component it leaves out and the ten bits of each of the others. Putting
a code together and taking it apart are inverse to each other.
-/

namespace VehicleLink.Quaternion

variable {largest i : Fin 4} {groups : Fin 4 → Nat}

/-- The code that leaves out a component and holds the groups of the others. -/
def assemble (largest : Fin 4) (groups : Fin 4 → Nat) : UInt32 :=
  UInt32.ofNat ((stored largest).foldl (fun code i => code * 1024 + groups i) largest.val)

/-- The ten bits that a code holds for a component. -/
def groupOf (code : UInt32) (i : Fin 4) : Nat := groupAt code (place (omitted code) i)

theorem compress_eq (q : Quaternion) :
    q.compress = assemble q.largest fun i =>
      group (q.component i) ((q.component q.largest).lt .zero) :=
  rfl

/-- The components that a code holds, in the order in which they are squared. -/
def held (code : UInt32) : List Single :=
  (stored (omitted code)).reverse.map fun i => ofGroup (groupOf code i)

theorem component_decompress (code : UInt32) (i : Fin 4) :
    (decompress code).component i =
      if i = omitted code then rebuild (held code) else ofGroup (groupOf code i) := by
  match i with
  | 0 | 1 | 2 | 3 => rfl

theorem component_omitted (code : UInt32) :
    (decompress code).component (omitted code) = rebuild (held code) :=
  (component_decompress code _).trans (if_pos rfl)

theorem component_of_ne {code : UInt32} (other : i ≠ omitted code) :
    (decompress code).component i = ofGroup (groupOf code i) :=
  (component_decompress code i).trans (if_neg other)

theorem groupOf_lt (code : UInt32) (i : Fin 4) : groupOf code i < 1024 :=
  Nat.mod_lt _ (by decide)

/-- The three components beside the largest, in the order of their places. -/
structure Beside (largest first second third : Fin 4) : Prop where
  ascending : first < second ∧ second < third
  stored : stored largest = [first, second, third]
  apart : first ≠ largest ∧ second ≠ largest ∧ third ≠ largest
  complete : ∀ i ≠ largest, i = first ∨ i = second ∨ i = third
  places : place largest first = 2 ∧ place largest second = 1 ∧ place largest third = 0

theorem beside_exists (largest : Fin 4) : ∃ first second third, Beside largest first second third :=
  match largest with
  | 0 => ⟨1, 2, 3, by decide, by decide, by decide, by decide, by decide⟩
  | 1 => ⟨0, 2, 3, by decide, by decide, by decide, by decide, by decide⟩
  | 2 => ⟨0, 1, 3, by decide, by decide, by decide, by decide, by decide⟩
  | 3 => ⟨0, 1, 2, by decide, by decide, by decide, by decide, by decide⟩

theorem stored_perm (largest : Fin 4) : (largest :: stored largest).Perm [0, 1, 2, 3] := by
  revert largest
  decide

theorem Beside.bounds {first second third : Fin 4} (beside : Beside largest first second third)
    (within : ∀ i ≠ largest, groups i < 1024) :
    groups first < 1024 ∧ groups second < 1024 ∧ groups third < 1024 := by
  obtain ⟨apartFirst, apartSecond, apartThird⟩ := beside.apart
  exact ⟨within first apartFirst, within second apartSecond, within third apartThird⟩

theorem Beside.assemble_toNat {first second third : Fin 4}
    (beside : Beside largest first second third) (within : ∀ i ≠ largest, groups i < 1024) :
    (assemble largest groups).toNat =
      ((largest.val * 1024 + groups first) * 1024 + groups second) * 1024 + groups third := by
  obtain ⟨boundFirst, boundSecond, boundThird⟩ := beside.bounds within
  rw [assemble, beside.stored]
  refine UInt32.toNat_ofNat_of_lt' ?_
  simp only [UInt32.size, List.foldl_cons, List.foldl_nil]
  omega

theorem omitted_assemble (within : ∀ i ≠ largest, groups i < 1024) :
    omitted (assemble largest groups) = largest := by
  obtain ⟨first, second, third, beside⟩ := beside_exists largest
  obtain ⟨boundFirst, boundSecond, boundThird⟩ := beside.bounds within
  rw [omitted, beside.assemble_toNat within]
  refine Fin.ext ?_
  simp only [Fin.val_ofNat]
  omega

theorem groupOf_assemble (within : ∀ i ≠ largest, groups i < 1024) (other : i ≠ largest) :
    groupOf (assemble largest groups) i = groups i := by
  obtain ⟨first, second, third, beside⟩ := beside_exists largest
  obtain ⟨placeFirst, placeSecond, placeThird⟩ := beside.places
  obtain ⟨boundFirst, boundSecond, boundThird⟩ := beside.bounds within
  rw [groupOf, omitted_assemble within, groupAt, beside.assemble_toNat within]
  rcases beside.complete i other with rfl | rfl | rfl
  · rw [placeFirst]
    simp only [Nat.shiftLeft_eq]
    omega
  · rw [placeSecond]
    simp only [Nat.shiftLeft_eq]
    omega
  · rw [placeThird]
    simp only [Nat.shiftLeft_eq]
    omega

theorem omitted_val (code : UInt32) : (omitted code).val = code.toNat / 1073741824 := by
  have := code.toNat_lt
  simp only [omitted, Fin.val_ofNat]
  omega

theorem assemble_groupOf (code : UInt32) : assemble (omitted code) (groupOf code) = code := by
  have within : ∀ i ≠ omitted code, groupOf code i < 1024 := fun i _ => groupOf_lt code i
  obtain ⟨first, second, third, beside⟩ := beside_exists (omitted code)
  obtain ⟨placeFirst, placeSecond, placeThird⟩ := beside.places
  refine UInt32.toNat_inj.mp ?_
  rw [beside.assemble_toNat within, omitted_val, groupOf, groupOf, groupOf, placeFirst, placeSecond,
    placeThird]
  simp only [groupAt, Nat.shiftLeft_eq]
  omega

theorem assemble_congr {others : Fin 4 → Nat} (same : ∀ i ≠ largest, groups i = others i) :
    assemble largest groups = assemble largest others := by
  obtain ⟨first, second, third, beside⟩ := beside_exists largest
  obtain ⟨apartFirst, apartSecond, apartThird⟩ := beside.apart
  simp only [assemble, beside.stored, List.foldl_cons, List.foldl_nil, same first apartFirst,
    same second apartSecond, same third apartThird]

theorem length_held (code : UInt32) : (held code).length ≤ 3 := by
  obtain ⟨first, second, third, beside⟩ := beside_exists (omitted code)
  simp [held, beside.stored]

/-! ### The bits of a code -/

/-- So many bits of a code from one place on. -/
def bits (code : UInt32) (low width : Nat) : Nat := code.toNat / 1 <<< low % 1 <<< width

theorem bits_index (code : UInt32) : bits code 30 2 = (omitted code).val := rfl

theorem bits_sign (code : UInt32) (i : Fin 4) :
    bits code (10 * place (omitted code) i + 9) 1 = groupOf code i / 512 % 2 := by
  have above : 1 <<< (10 * place (omitted code) i + 9) =
      1 <<< (10 * place (omitted code) i) * 512 := by
    rw [Nat.shiftLeft_add, Nat.shiftLeft_eq (1 <<< _)]
  rw [bits, groupOf, groupAt, above, ← Nat.div_div_eq_div_mul]
  change _ % 2 = _
  omega

theorem bits_magnitude (code : UInt32) (i : Fin 4) :
    bits code (10 * place (omitted code) i) 9 = groupOf code i % 512 := by
  rw [bits, groupOf, groupAt]
  change _ % 512 = _
  omega

theorem testBit_low (n width : Nat) {bit : Nat} (inside : bit < width) :
    (n % 1 <<< width).testBit bit = n.testBit bit := by
  rw [Nat.shiftLeft_eq, Nat.one_mul, Nat.testBit_mod_two_pow, decide_eq_true inside, Bool.true_and]

theorem testBit_code (code : UInt32) (bit : Nat) :
    code.toNat.testBit bit =
      if bit < 30 then (groupAt code (bit / 10)).testBit (bit % 10)
      else (omitted code).val.testBit (bit - 30) := by
  split
  · have inside : bit % 10 < 10 := Nat.mod_lt _ (by decide)
    have whole : bit % 10 + 10 * (bit / 10) = bit := Nat.mod_add_div _ _
    rw [groupAt, Nat.shiftLeft_eq, Nat.one_mul]
    refine .trans ?_ (testBit_low _ 10 inside).symm
    rw [Nat.testBit_div_two_pow, whole]
  · next above =>
    have top : (omitted code).val = code.toNat / 2 ^ 30 := omitted_val code
    rw [top, Nat.testBit_div_two_pow, Nat.sub_add_cancel (Nat.le_of_not_lt above)]

theorem place_surjective (largest : Fin 4) {p : Nat} (within : p < 3) :
    ∃ i ≠ largest, place largest i = p := by
  obtain ⟨first, second, third, beside⟩ := beside_exists largest
  obtain ⟨apartFirst, apartSecond, apartThird⟩ := beside.apart
  obtain ⟨placeFirst, placeSecond, placeThird⟩ := beside.places
  obtain rfl | rfl | rfl : p = 0 ∨ p = 1 ∨ p = 2 := by omega
  · exact ⟨third, apartThird, placeThird⟩
  · exact ⟨second, apartSecond, placeSecond⟩
  · exact ⟨first, apartFirst, placeFirst⟩

/-! ### Packed codes -/

theorem magnitude_le (x : Single) : magnitude x ≤ maxMagnitude := Nat.min_le_right _ _

theorem group_lt (x : Single) (flipped : Bool) : group x flipped < 1024 := by
  have := magnitude_le x
  rw [maxMagnitude] at this
  rw [group]
  split <;> omega

theorem omitted_compress (q : Quaternion) : omitted q.compress = q.largest :=
  omitted_assemble fun _ _ => group_lt _ _

theorem groupOf_compress (q : Quaternion) (other : i ≠ q.largest) :
    groupOf q.compress i = group (q.component i) ((q.component q.largest).lt .zero) :=
  groupOf_assemble (fun _ _ => group_lt _ _) other

theorem group_parts (x : Single) (flipped : Bool) :
    group x flipped % 512 = magnitude x ∧
      (group x flipped / 512 % 2 = 1 ↔ (x.lt .zero ^^ flipped) = true) := by
  have := magnitude_le x
  rw [maxMagnitude] at this
  rw [group]
  split
  · next signed => exact ⟨by omega, iff_of_true (by omega) signed⟩
  · next unsigned => exact ⟨by omega, iff_of_false (by omega) unsigned⟩

end VehicleLink.Quaternion
