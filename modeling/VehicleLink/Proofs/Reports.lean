import Mathlib.Data.List.Induction
import Mathlib.Data.List.Nodup
import Mathlib.Data.List.Perm.Basic
import VehicleLink.Localization
import VehicleLink.Proofs.Fields
import VehicleLink.Proofs.Frames

/-!
Reports of ranges. A report is read exactly if it consists of whole records, and what is read of it
is what the records say: each anchor has the distance of its last record. Distances that are written
as records, in whatever order, are read back.
-/

namespace VehicleLink

namespace Localization

variable {content : List UInt8} {record other : UInt8 × Single} {ranges : Ranges}
variable {records rest : List (UInt8 × Single)} {place : Nat}

/-! ### Records -/

def recordBytes (record : UInt8 × Single) : List UInt8 := record.1 :: record.2.bytes

/-- The payload of a report of these records. -/
def written (records : List (UInt8 × Single)) : List UInt8 :=
  rangeStreamKind :: records.flatMap recordBytes

/-- A record stands in a place of a report. -/
def RecordAt (content : List UInt8) (place : Nat) (record : UInt8 × Single) : Prop :=
  (content.drop (recordLength * place)).take recordLength = recordBytes record

instance (content : List UInt8) (place : Nat) (record : UInt8 × Single) :
    Decidable (RecordAt content place record) :=
  inferInstanceAs (Decidable (_ = _))

theorem length_recordBytes (record : UInt8 × Single) :
    (recordBytes record).length = recordLength :=
  congrArg (· + 1) (littleEndian_length 4 _)

theorem recordBytes_injective (same : recordBytes record = recordBytes other) :
    record = other := by
  obtain ⟨anchor, bytes⟩ := List.cons.inj same
  refine Prod.ext anchor ?_
  rw [← record.2.ofBytes_bytes, bytes, other.2.ofBytes_bytes]

theorem records?_flatMap (records : List (UInt8 × Single)) :
    records? (records.flatMap recordBytes) = some records := by
  induction records with
  | nil => rfl
  | cons record rest ih =>
      obtain ⟨b₀, b₁, b₂, b₃, bytes⟩ : ∃ b₀ b₁ b₂ b₃, record.2.bytes = [b₀, b₁, b₂, b₃] :=
        ⟨_, _, _, _, rfl⟩
      rw [List.flatMap_cons, recordBytes, bytes, List.cons_append]
      simp only [List.cons_append, List.nil_append, records?, ih, Option.map_some]
      rw [← bytes, Single.ofBytes_bytes]

theorem eq_flatMap_of_records? (read : records? content = some records) :
    content = records.flatMap recordBytes := by
  fun_induction records? content generalizing records with
  | case1 =>
      cases read
      rfl
  | case2 anchor b₀ b₁ b₂ b₃ later ih =>
      obtain ⟨others, readOn, rfl⟩ := Option.map_eq_some_iff.mp read
      rw [List.flatMap_cons, recordBytes, Single.bytes_ofBytes rfl, ← ih readOn]
      rfl
  | case3 => cases read

/-- Only a report that consists of whole records is read. -/
theorem records?_eq_none_iff : records? content = none ↔ content.length % recordLength ≠ 0 := by
  fun_induction records? content with
  | case1 => simp
  | case2 anchor b₀ b₁ b₂ b₃ later ih =>
      have longer : (anchor :: b₀ :: b₁ :: b₂ :: b₃ :: later).length % recordLength =
          later.length % recordLength := Nat.add_mod_right later.length 5
      rw [Option.map_eq_none_iff, ih, longer]
  | case3 short nonempty few =>
      refine iff_of_true rfl ?_
      match short with
      | [] => exact absurd rfl nonempty
      | [_] | [_, _] | [_, _, _] | [_, _, _, _] => exact nofun
      | anchor :: b₀ :: b₁ :: b₂ :: b₃ :: later => exact absurd rfl (few _ _ _ _ _ _)

theorem recordAt_iff :
    RecordAt (records.flatMap recordBytes) place record ↔ records[place]? = some record := by
  rw [RecordAt, drop_flatMap_of_width length_recordBytes, ← List.head?_drop]
  cases records.drop place with
  | nil => simp [recordBytes]
  | cons first rest =>
      rw [List.flatMap_cons, List.take_left' (length_recordBytes first), List.head?_cons,
        Option.some.injEq]
      exact ⟨recordBytes_injective, congrArg recordBytes⟩

theorem getElem?_flatMap (records : List (UInt8 × Single)) (place : Nat) :
    (records.flatMap recordBytes)[recordLength * place]? = records[place]?.map (·.1) := by
  rw [← List.head?_drop, drop_flatMap_of_width length_recordBytes, ← List.head?_drop]
  cases records.drop place <;> rfl

/-! ### Distances by anchor -/

def Ranges.Ascending (ranges : Ranges) : Prop :=
  ranges.Pairwise fun left right => left.1 < right.1

/-- A record is the last one of its anchor. -/
def LastOf (records : List (UInt8 × Single)) (record : UInt8 × Single) : Prop :=
  ∃ place, records[place]? = some record ∧
    ∀ (later : Nat) (other : UInt8 × Single), place < later → records[later]? = some other →
      other.1 ≠ record.1

theorem getElem?_concat_iff :
    (records ++ [other])[place]? = some record ↔
      records[place]? = some record ∨ place = records.length ∧ other = record := by
  rcases Nat.lt_trichotomy place records.length with before | rfl | past
  · rw [List.getElem?_append_left before]
    exact (or_iff_left fun last => before.ne last.1).symm
  · simp
  · rw [List.getElem?_eq_none (by rw [List.length_append]; exact past),
      List.getElem?_eq_none past.le]
    exact iff_of_false nofun (not_or.mpr ⟨nofun, fun last => past.ne' last.1⟩)

theorem lastOf_concat :
    LastOf (records ++ [other]) record ↔
      record = other ∨ record.1 ≠ other.1 ∧ LastOf records record := by
  constructor
  · rintro ⟨place, there, unmatched⟩
    rcases getElem?_concat_iff.mp there with earlier | ⟨_, same⟩
    · obtain ⟨inside, _⟩ := List.getElem?_eq_some_iff.mp earlier
      have different := unmatched _ other inside List.getElem?_concat_length
      refine .inr ⟨different.symm, place, earlier, fun later third after found => ?_⟩
      exact unmatched later third after (getElem?_concat_iff.mpr (.inl found))
    · exact .inl same.symm
  · rintro (rfl | ⟨different, place, there, unmatched⟩)
    · refine ⟨records.length, List.getElem?_concat_length, fun later third after found => ?_⟩
      rcases getElem?_concat_iff.mp found with earlier | ⟨last, _⟩
      · obtain ⟨inside, _⟩ := List.getElem?_eq_some_iff.mp earlier
        exact absurd inside after.not_gt
      · exact absurd last after.ne'
    · refine ⟨place, getElem?_concat_iff.mpr (.inl there), fun later third after found => ?_⟩
      rcases getElem?_concat_iff.mp found with earlier | ⟨_, rfl⟩
      · exact unmatched later third after earlier
      · exact different.symm

theorem lastOf_iff_mem (distinct : (records.map (·.1)).Nodup) :
    LastOf records record ↔ record ∈ records := by
  constructor
  · rintro ⟨place, there, _⟩
    exact List.mem_of_getElem? there
  · intro member
    obtain ⟨place, there⟩ := List.mem_iff_getElem?.mp member
    refine ⟨place, there, fun later other after found same => ?_⟩
    obtain ⟨inside, _⟩ := List.getElem?_eq_some_iff.mp there
    have anchors : (records.map (·.1))[place]? = (records.map (·.1))[later]? := by
      rw [List.getElem?_map, List.getElem?_map, there, found, Option.map_some, Option.map_some,
        same]
    have places := (List.getElem?_inj (by rwa [List.length_map]) distinct).mp anchors
    exact after.ne places

theorem mem_insert (ascending : ranges.Ascending) {anchor : UInt8} {distance : Single} :
    record ∈ ranges.insert anchor distance ↔
      record = (anchor, distance) ∨ record.1 ≠ anchor ∧ record ∈ ranges := by
  induction ranges with
  | nil => simp [Ranges.insert]
  | cons first rest ih =>
      obtain ⟨above, others⟩ := List.pairwise_cons.mp ascending
      obtain ⟨old, former⟩ := first
      unfold Ranges.insert
      split
      · next below =>
        -- All that is there lies above.
        have apart : ∀ third ∈ (old, former) :: rest, third.1 ≠ anchor := by
          refine List.forall_mem_cons.mpr ⟨(UInt8.ne_of_lt below).symm, fun third member => ?_⟩
          exact (UInt8.ne_of_lt (UInt8.lt_trans below (above third member))).symm
        rw [List.mem_cons]
        exact or_congr_right ⟨fun member => ⟨apart record member, member⟩, And.right⟩
      · split
        · next same =>
          subst same
          have apart : ∀ third ∈ rest, third.1 ≠ anchor :=
            fun third member => (UInt8.ne_of_lt (above third member)).symm
          rw [List.mem_cons, List.mem_cons]
          refine or_congr_right ⟨fun member => ⟨apart record member, .inr member⟩, ?_⟩
          rintro ⟨different, rfl | member⟩
          · exact absurd rfl different
          · exact member
        · next unequal =>
          rw [List.mem_cons, ih others, List.mem_cons]
          constructor
          · rintro (rfl | rfl | ⟨different, member⟩)
            · exact .inr ⟨Ne.symm unequal, .inl rfl⟩
            · exact .inl rfl
            · exact .inr ⟨different, .inr member⟩
          · rintro (rfl | ⟨different, rfl | member⟩)
            · exact .inr (.inl rfl)
            · exact .inl rfl
            · exact .inr (.inr ⟨different, member⟩)

theorem Ranges.Ascending.insert (ascending : ranges.Ascending) (anchor : UInt8)
    (distance : Single) : (ranges.insert anchor distance).Ascending := by
  induction ranges with
  | nil => exact List.pairwise_singleton _ _
  | cons first rest ih =>
      obtain ⟨above, others⟩ := List.pairwise_cons.mp ascending
      obtain ⟨old, former⟩ := first
      unfold Ranges.insert
      split
      · next below =>
        refine List.pairwise_cons.mpr ⟨List.forall_mem_cons.mpr ⟨below, ?_⟩, ascending⟩
        exact fun third member => UInt8.lt_trans below (above third member)
      · next unreached =>
        split
        · next same =>
          subst same
          exact List.pairwise_cons.mpr ⟨above, others⟩
        · next unequal =>
          refine List.pairwise_cons.mpr ⟨fun third member => ?_, ih others⟩
          rcases (mem_insert others).mp member with rfl | ⟨_, member⟩
          · exact UInt8.lt_of_le_of_ne (UInt8.not_lt.mp unreached) (Ne.symm unequal)
          · exact above third member

theorem ofRecords_concat (records : List (UInt8 × Single)) (record : UInt8 × Single) :
    Ranges.ofRecords (records ++ [record]) =
      (Ranges.ofRecords records).insert record.1 record.2 := by
  rw [Ranges.ofRecords, List.foldl_append]
  rfl

theorem ascending_ofRecords (records : List (UInt8 × Single)) :
    (Ranges.ofRecords records).Ascending := by
  induction records using List.reverseRecOn with
  | nil => exact .nil
  | append_singleton records record ih =>
      rw [ofRecords_concat]
      exact ih.insert record.1 record.2

theorem mem_ofRecords : record ∈ Ranges.ofRecords records ↔ LastOf records record := by
  induction records using List.reverseRecOn with
  | nil => simp [Ranges.ofRecords, LastOf]
  | append_singleton records other ih =>
      rw [ofRecords_concat, mem_insert (ascending_ofRecords records), lastOf_concat, ih]

/-- An anchor has a distance if it has a record at all. -/
theorem mem_anchors_ofRecords {anchor : UInt8} :
    anchor ∈ (Ranges.ofRecords records).map (·.1) ↔ anchor ∈ records.map (·.1) := by
  induction records using List.reverseRecOn with
  | nil => rfl
  | append_singleton records last ih =>
      simp only [ofRecords_concat, List.mem_map, mem_insert (ascending_ofRecords records),
        List.mem_append, List.mem_singleton] at ih ⊢
      constructor
      · rintro ⟨record, rfl | ⟨_, member⟩, rfl⟩
        · exact ⟨last, .inr rfl, rfl⟩
        · obtain ⟨earlier, present, same⟩ := ih.mp ⟨record, member, rfl⟩
          exact ⟨earlier, .inl present, same⟩
      · rintro ⟨record, member | rfl, rfl⟩
        · obtain ⟨held, present, same⟩ := ih.mpr ⟨record, member, rfl⟩
          by_cases again : record.1 = last.1
          · exact ⟨last, .inl rfl, again.symm⟩
          · exact ⟨held, .inr ⟨by rwa [same], present⟩, same⟩
        · exact ⟨record, .inl rfl, rfl⟩

/-- Distances come to the same in whatever order they are set. -/
theorem ofRecords_eq_of_perm (ascending : ranges.Ascending) (order : records.Perm ranges) :
    Ranges.ofRecords records = ranges := by
  have distinct : ∀ {sorted : Ranges}, sorted.Ascending → sorted.Nodup := fun sorted =>
    sorted.imp fun below same => UInt8.ne_of_lt below (congrArg Prod.fst same)
  have anchors : (records.map (·.1)).Nodup :=
    (order.map (·.1)).nodup_iff.mpr
      (List.pairwise_map.mpr (ascending.imp UInt8.ne_of_lt))
  have members (record : UInt8 × Single) :
      record ∈ Ranges.ofRecords records ↔ record ∈ ranges := by
    rw [mem_ofRecords, lastOf_iff_mem anchors, order.mem_iff]
  have sorted := ascending_ofRecords records
  refine List.Perm.eq_of_pairwise (fun left right _ _ below above => ?_) sorted ascending
    ((List.perm_ext_iff_of_nodup (distinct sorted) (distinct ascending)).mpr members)
  exact absurd above (UInt8.lt_asymm below)

/-! ### Reports -/

/-- A record stands in a report, and no later one is of its anchor. -/
def LastRecord (content : List UInt8) (record : UInt8 × Single) : Prop :=
  ∃ place, RecordAt content place record ∧
    ∀ later other, place < later → RecordAt content later other → other.1 ≠ record.1

namespace Report

/-- A report says what stands in a payload. -/
structure Tells (report : Report) (payload : List UInt8) : Prop where
  split : report.kind :: report.content = payload
  ranged : report.ranges.isSome = true ↔ report.kind = 0
  ascending : ∀ ranges ∈ report.ranges, ranges.Ascending
  anchors : ∀ ranges ∈ report.ranges, ∀ anchor,
    anchor ∈ ranges.map (·.1) ↔ ∃ place, report.content[5 * place]? = some anchor
  distances : ∀ ranges ∈ report.ranges, ∀ record, record ∈ ranges ↔ LastRecord report.content record

theorem tells_ofRecords (records : List (UInt8 × Single)) :
    Tells ⟨rangeStreamKind, records.flatMap recordBytes, some (Ranges.ofRecords records)⟩
      (written records) where
  split := rfl
  ranged := iff_of_true rfl rfl
  ascending := by
    rintro _ ⟨⟩
    exact ascending_ofRecords records
  anchors := by
    rintro _ ⟨⟩ anchor
    have first (place : Nat) : (records.flatMap recordBytes)[5 * place]? =
        records[place]?.map (·.1) := getElem?_flatMap records place
    simp only [mem_anchors_ofRecords, first, ← List.getElem?_map]
    exact List.mem_iff_getElem?
  distances := by
    rintro _ ⟨⟩ record
    simp only [mem_ofRecords, LastRecord, recordAt_iff]
    rfl

theorem parse_written {packet : Packet} (payload : packet.payload = written records) :
    parse packet = .ok ⟨rangeStreamKind, records.flatMap recordBytes,
      some (Ranges.ofRecords records)⟩ := by
  rw [parse, payload, written]
  simp only [if_true, records?_flatMap]

/-- All that reading a payload can come to. -/
theorem parse_cases (packet : Packet) :
    ((packet.payload = [] ∨ ∃ content, packet.payload = 0 :: content ∧ ¬ 5 ∣ content.length) ∧
      ∃ reason, parse packet = .error (.malformed reason)) ∨
    (∃ records, packet.payload = written records) ∨
    ∃ kind content, packet.payload = kind :: content ∧ kind ≠ 0 ∧
      parse packet = .ok ⟨kind, content, none⟩ := by
  cases payload : packet.payload with
  | nil =>
      have refused : parse packet = .error (.malformed "empty localization packet") := by
        rw [parse, payload]
      exact .inl ⟨.inl rfl, _, refused⟩
  | cons kind content =>
      by_cases ranged : kind = rangeStreamKind
      · subst ranged
        cases read : records? content with
        | some records =>
            refine .inr (.inl ⟨records, ?_⟩)
            rw [written, ← eq_flatMap_of_records? read]
        | none =>
            have part := records?_eq_none_iff.mp read
            have refused : ∃ reason, parse packet = .error (.malformed reason) := by
              simp only [parse, payload, if_true, read]
              exact ⟨_, rfl⟩
            exact .inl ⟨.inr ⟨content, rfl, fun whole => part (Nat.mod_eq_zero_of_dvd whole)⟩,
              refused⟩
      · refine .inr (.inr ⟨kind, content, rfl, ranged, ?_⟩)
        simp only [parse, payload, if_neg ranged]

theorem parse_eq_error_iff (packet : Packet) :
    (∃ error, parse packet = .error error) ↔
      packet.payload = [] ∨ ∃ content, packet.payload = 0 :: content ∧ ¬ 5 ∣ content.length := by
  rcases parse_cases packet with ⟨unreadable, reason, refused⟩ | ⟨records, payload⟩ |
    ⟨kind, content, payload, other, read⟩
  · exact iff_of_true ⟨_, refused⟩ unreadable
  · have whole : 5 ∣ (records.flatMap recordBytes).length :=
      Dvd.intro _ (length_flatMap_of_width length_recordBytes records).symm
    rw [parse_written payload, payload, written]
    refine iff_of_false nofun ?_
    rintro (empty | ⟨content, same, part⟩)
    · cases empty
    · cases same
      exact part whole
  · rw [read, payload]
    simp [other]

theorem malformed_of_parse {packet : Packet} {error : PacketError}
    (failed : parse packet = .error error) : ∃ reason, error = .malformed reason := by
  rcases parse_cases packet with ⟨_, reason, refused⟩ | ⟨records, payload⟩ | ⟨_, _, _, _, read⟩
  · exact ⟨reason, Except.error.inj (failed.symm.trans refused)⟩
  · cases failed.symm.trans (parse_written payload)
  · cases failed.symm.trans read

theorem tells_of_parse {packet : Packet} {report : Report} (read : parse packet = .ok report) :
    report.Tells packet.payload := by
  rcases parse_cases packet with ⟨_, reason, refused⟩ | ⟨records, payload⟩ |
    ⟨kind, content, payload, other, same⟩
  · cases refused.symm.trans read
  · cases (parse_written payload).symm.trans read
    rw [payload]
    exact tells_ofRecords records
  · cases same.symm.trans read
    exact ⟨payload.symm, iff_of_false nofun other, nofun, nofun, nofun⟩

/-- Distances that are written in any order are read back. -/
theorem parse_of_perm {packet : Packet} (ascending : ranges.Ascending)
    (order : records.Perm ranges) (payload : packet.payload = written records) :
    parse packet = .ok ⟨0, records.flatMap recordBytes, some ranges⟩ := by
  rw [parse_written payload, ofRecords_eq_of_perm ascending order]
  rfl

theorem length_written (records : List (UInt8 × Single)) :
    (written records).length = recordLength * records.length + 1 := by
  rw [written, List.length_cons, length_flatMap_of_width length_recordBytes]

/-- A payload is refused as malformed if it is empty or a range stream that does not consist of
whole records, and for no other reason. Of any other the report says what stands in it. Distances
by anchor that are written as records in any order are read back, also from a frame if they are at
most five. -/
theorem parse_exact (packet : Packet) :
    ((∃ error, parse packet = .error error) ↔
      packet.payload = [] ∨ ∃ content, packet.payload = 0 :: content ∧ ¬ 5 ∣ content.length) ∧
    (∀ error, parse packet = .error error → ∃ reason, error = .malformed reason) ∧
    (∀ report, parse packet = .ok report → report.Tells packet.payload) ∧
    ∀ (ranges : Ranges) (records : List (UInt8 × Single)), ranges.Ascending →
      records.Perm ranges →
      (packet.payload = written records →
        parse packet = .ok ⟨0, records.flatMap recordBytes, some ranges⟩) ∧
      (ranges.length ≤ 5 → ∀ port channel, port ≤ 15 → channel ≤ 3 → ∃ made frame,
        Packet.make port channel (written records) = .ok made ∧ made.encode = .ok frame ∧
        Packet.decode frame = .ok made ∧
        parse made = .ok ⟨0, records.flatMap recordBytes, some ranges⟩) := by
  refine ⟨parse_eq_error_iff packet, fun _ => malformed_of_parse, fun _ => tells_of_parse,
    fun ranges records ascending order => ⟨parse_of_perm ascending order, ?_⟩⟩
  intro few port channel portFits channelFits
  have length : (written records).length ≤ 30 := by
    rw [length_written, order.length_eq, recordLength]
    omega
  let made : Packet := ⟨port, channel, written records, portFits, channelFits⟩
  exact ⟨made, made.frame, Packet.make_eq_ok_iff.mpr ⟨length, rfl, rfl, rfl⟩,
    Packet.encode_eq_ok_iff.mpr ⟨length, rfl⟩, made.decode_frame,
    parse_of_perm ascending order rfl⟩

/-- An undefined distance, a zero below zero and one half, the anchors not in order. -/
def unordered : List (UInt8 × Single) :=
  [(7, ⟨0x7fc00001⟩), (255, ⟨0x3f000000⟩), (0, ⟨0x80000000⟩)]

/-- The same report sent and received, and a report in which the first anchor comes again. -/
theorem parse_exact_unordered : ∃ made frame report,
    Packet.make 6 1 (written unordered) = .ok made ∧ made.encode = .ok frame ∧
    Packet.decode frame = .ok made ∧ parse made = .ok report ∧
    report.ranges = some [(0, ⟨0x80000000⟩), (7, ⟨0x7fc00001⟩), (255, ⟨0x3f000000⟩)] ∧
    ∃ again : Report, again.Tells (written (unordered ++ [(7, ⟨0x3f000000⟩)])) ∧
      again.ranges = some [(0, ⟨0x80000000⟩), (7, ⟨0x3f000000⟩), (255, ⟨0x3f000000⟩)] := by
  have ascending : Ranges.Ascending
      [(0, ⟨0x80000000⟩), (7, ⟨0x7fc00001⟩), (255, ⟨0x3f000000⟩)] := by
    simp [Ranges.Ascending]
  have order : unordered.Perm
      [(0, ⟨0x80000000⟩), (7, ⟨0x7fc00001⟩), (255, ⟨0x3f000000⟩)] := by decide
  let repeated : Packet := ⟨6, 1, written (unordered ++ [(7, ⟨0x3f000000⟩)]), by decide, by decide⟩
  obtain ⟨_, _, told, written⟩ := parse_exact repeated
  obtain ⟨made, frame, sent, encoded, received, read⟩ :=
    (written _ _ ascending order).2 (by decide) 6 1 (by decide) (by decide)
  exact ⟨made, frame, _, sent, encoded, received, read, rfl, _, told _ rfl, rfl⟩

end Report

end Localization

end VehicleLink
