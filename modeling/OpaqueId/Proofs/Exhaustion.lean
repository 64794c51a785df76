import OpaqueId.Proofs.Batches
import OpaqueId.Proofs.Counting

/-! # Exhaustion: where a range runs out of identifiers

    A range has room in a scheme if the scheme holds every value in it
    (`hasRoom_iff`).  One that has none is held up to the capacity, so the
    first value that is refused is the capacity itself, or the first value of
    the range if that lies beyond it already (`failsFirst_range`), however
    many values come behind it.

    A range is minted as the list of its values and so prints all of them or
    nothing.  Main statement: `range_stops_at_capacity`. -/

namespace OpaqueId

open CommandLine (Format optionArgs rangeOptions numberLimit)
open Except (FailsFirst)

namespace Scheme

/-- There are identifiers for all values of a range. -/
def HasRoom (s : Scheme) (start count : Nat) : Prop :=
  count = 0 ∨ s.template.generator.isExtensible = true ∨ start + count ≤ s.bases.prod

variable {s : Scheme} {start count : Nat}

/-- The volume of the mask is the product of its bases. -/
theorem holds_iff (value : Nat) :
    s.Holds value ↔ s.template.generator.isExtensible = true ∨ value < s.bases.prod := by
  rw [Holds, MixedRadix.volume_eq_prod]

/-- There is room for a range exactly if there is an identifier for each value of it. -/
theorem hasRoom_iff : s.HasRoom start count ↔ ∀ n ∈ List.range' start count, s.Holds n := by
  constructor
  · rintro (rfl | hextensible | hroom) n hn
    · exact absurd hn List.not_mem_nil
    · exact .inl hextensible
    · rw [List.mem_range'_1] at hn
      rw [holds_iff]
      right
      omega
  · intro hholds
    by_cases hcount : count = 0
    · exact .inl hcount
    · -- the last value decides
      have hlast : start + (count - 1) ∈ List.range' start count := by
        rw [List.mem_range'_1]
        omega
      rcases (holds_iff _).mp (hholds _ hlast) with hextensible | hroom
      · exact .inr (.inl hextensible)
      · right; right
        omega

/-- A range without room begins with the values below the capacity, and the next one is
    refused. -/
theorem failsFirst_range (hstem : ¬ s.ForeignStem) (hroom : ¬ s.HasRoom start count)
    (hend : start + count ≤ valueLimit) :
    FailsFirst s.mint (List.range' start count) (max start s.bases.prod)
      (.beyondCapacity (max start s.bases.prod) s.bases.prod) := by
  simp only [HasRoom, not_or, Bool.not_eq_true, Nat.not_le] at hroom
  obtain ⟨hcount, hbounded, hbeyond⟩ := hroom
  generalize hfirst : max start s.bases.prod = first
  -- the first value that is refused lies in the range, and all before it are held
  have hbetween : start ≤ first ∧ s.bases.prod ≤ first ∧ first < start + count := by omega
  refine ⟨List.range' start (first - start),
    List.range' (first + 1) (start + count - (first + 1)), ?_, ?_, ?_⟩
  · have hcons : first :: List.range' (first + 1) (start + count - (first + 1)) =
        List.range' (start + (first - start)) (start + count - first) := by
      rw [Nat.add_sub_cancel' hbetween.1, ← List.range'_succ]
      congr 1
      omega
    rw [hcons, List.range'_append_1]
    congr 1
    omega
  · intro n hn
    rw [List.mem_range'_1] at hn
    have hholds : s.Holds n := (holds_iff n).mpr (.inr (by omega))
    exact (s.exists_mint_eq_ok_iff n).mpr ⟨hholds, hstem⟩
  · rw [mint_eq_beyondCapacity_iff s (by omega), not_holds_iff]
    exact ⟨hbounded, hbetween.2.1⟩

/-- What is minted for a range with room, value by value. -/
theorem forall₂_identifier (hstem : ¬ s.ForeignStem) (hroom : s.HasRoom start count) :
    List.Forall₂ (fun n id => s.mint n = .ok id) (List.range' start count)
      ((List.range' start count).map s.identifier) := by
  rw [List.forall₂_map_right_iff, List.forall₂_same]
  intro n hn
  exact mint_identifier hstem (hasRoom_iff.mp hroom n hn)

/-- No two values of a range have the same identifier. -/
theorem nodup_identifiers (hstem : ¬ s.ForeignStem) (hroom : s.HasRoom start count) :
    ((List.range' start count).map s.identifier).Nodup := by
  refine List.Nodup.map_on ?_ List.nodup_range'
  intro m hm n hn hsame
  exact identifier_injOn hstem (hasRoom_iff.mp hroom m hm) (hasRoom_iff.mp hroom n hn) hsame

end Scheme

namespace Session

section

variable [PatternCompiler] (p : Place) {d : Disk} {file : StoredFile} {environment : Settings}
  {args : List String} {format : Format} {s : Scheme} {start count : Nat}

/-- A range is all or nothing. -/
theorem range_allOrNothing (h : Asks d file environment args (.mint (.range start count)) format s)
    (hend : start + count < numberLimit) :
    ∃ r, stepOn p d file environment args = (file, .report r) ∧
      AllOrNothing s.mint (fun _ => .refused) (mintedText (List.range' start count) · format)
        (List.range' start count) r := by
  obtain ⟨given, saved, verbose, hparse, hload, hscheme⟩ := h
  refine ⟨_, stepOn_mint p hparse hload hscheme, ?_⟩
  rw [mintSequence_range_eq hend]
  exact allOrNothing_ofExcept fun ids hlength => showMinted_zip hlength format

/-- Whether a range succeeds is settled by its room, and so is what it prints. -/
theorem stepOn_range (hstem : ¬ s.ForeignStem)
    (h : Asks d file environment args (.mint (.range start count)) format s)
    (hend : start + count < numberLimit) :
    (s.HasRoom start count ∧ stepOn p d file environment args =
      (file, .report ⟨mintedText (List.range' start count)
        ((List.range' start count).map s.identifier) format, none⟩)) ∨
    (¬ s.HasRoom start count ∧ stepOn p d file environment args =
      (file, .report ⟨"", some (.refused
        (.beyondCapacity (max start s.bases.prod) s.bases.prod))⟩)) := by
  obtain ⟨r, hstep, hrange⟩ := range_allOrNothing p h hend
  rw [hstep]
  by_cases hroom : s.HasRoom start count
  · left
    rw [hrange.eq_success (Scheme.forall₂_identifier hstem hroom)]
    exact ⟨hroom, rfl⟩
  · right
    rw [hrange.eq_fail (Scheme.failsFirst_range hstem hroom (Nat.le_of_lt hend))]
    exact ⟨hroom, rfl⟩

/-- **A range stops at the capacity.**  A range is given by its length and, if it does
    not begin with zero, by its first value.  If something can be minted at all, it
    succeeds exactly if it is empty, the generator is extensible or the capacity
    contains all its values; then it prints an identifier for each value, one after the
    other and no two alike, each with a line break behind it or in an object of its own.
    Else it exits with 1, prints nothing and names the first value that the capacity does
    not contain. -/
theorem range_stops_at_capacity (hstem : ¬ s.ForeignStem) :
    (∀ (environment options : Settings) (format : Option String) (verbose : Bool)
      (start? : Option UInt64) (count : UInt64),
      CommandLine.parse environment (optionArgs options format verbose ++
          "mint" :: rangeOptions (start?.map UInt64.toNat) count.toNat) =
        .ok ⟨.ask (.mint (.range ((start?.map UInt64.toNat).getD 0) count.toNat)),
          Format.ofName (format.getD "table"), options.orElse environment, verbose⟩) ∧
    ∀ d file environment args format start count,
      Asks d file environment args (.mint (.range start count)) format s →
      start + count < UInt64.size →
      ((stepOn p d file environment args).2.exitCode = 0 ↔
        count = 0 ∨ s.template.generator.isExtensible = true ∨ start + count ≤ s.bases.prod) ∧
      ((stepOn p d file environment args).2.exitCode = 0 → ∃ ids : List String,
        ids.length = count ∧ ids.Nodup ∧
        List.Forall₂ (fun n id => s.mint n = .ok id) (List.range' start count) ids ∧
        stepOn p d file environment args =
          (file, .report ⟨mintedText (List.range' start count) ids format, none⟩)) ∧
      ((stepOn p d file environment args).2.exitCode ≠ 0 →
        (stepOn p d file environment args).2.exitCode = 1 ∧
        stepOn p d file environment args =
          (file, .report ⟨"", some (.refused
            (.beyondCapacity (max start s.bases.prod) s.bases.prod))⟩)) := by
  refine ⟨?_, ?_⟩
  · intro environment options format verbose start? count
    refine CommandLine.parse_rangeOptions environment options format verbose ?_ count.toNat_lt
    intro start hstart
    obtain ⟨first, -, rfl⟩ := Option.map_eq_some_iff.mp hstart
    exact first.toNat_lt
  · intro d file environment args format start count h hend
    -- the room alone decides: all three parts are read off the step
    rcases stepOn_range p hstem h hend with ⟨hroom, hstep⟩ | ⟨hroom, hstep⟩
    · rw [hstep]
      refine ⟨iff_of_true rfl hroom, fun _ => ⟨_, ?_, ?_, ?_, rfl⟩, fun hne => absurd rfl hne⟩
      · rw [List.length_map, List.length_range']
      · exact Scheme.nodup_identifiers hstem hroom
      · exact Scheme.forall₂_identifier hstem hroom
    · rw [hstep]
      exact ⟨iff_of_false Nat.one_ne_zero hroom, fun hzero => absurd hzero Nat.one_ne_zero,
        fun _ => ⟨rfl, rfl⟩⟩

end

section

open scoped SizeLimit

/-- In `bc.sdk` a range of three thousand million values stops at the tenth, a range that
    begins behind it names its first value, and one that ends with it is printed. -/
theorem smallSpecimen_exhausted :
    step ⟨"/noid"⟩ .absent .empty ["-t", "bc.sdk", "mint", "--count", "3000000000"] =
        (.absent, .report ⟨"", some (.refused (.beyondCapacity 10 10))⟩) ∧
      step ⟨"/noid"⟩ .absent .empty
          ["-t", "bc.sdk", "mint", "--start", "50", "--count", "3000000000"] =
        (.absent, .report ⟨"", some (.refused (.beyondCapacity 50 10))⟩) ∧
      (step ⟨"/noid"⟩ .absent .empty
        ["-t", "bc.sdk", "mint", "--start", "8", "--count", "2"]).2.exitCode = 0 := by
  have hletters : smallSpecimen.stem = ['b', 'c'] := by decide +kernel
  have hstem : ¬ smallSpecimen.ForeignStem := by
    rw [Scheme.not_foreignStem_iff, hletters, List.forall_mem_cons, List.forall_mem_singleton]
    exact .inr (by decide)
  obtain ⟨-, hranges⟩ := range_stops_at_capacity ⟨"/noid"⟩ hstem
  obtain ⟨hexit, -, hlong⟩ := hranges .sound .absent .empty
    ["-t", "bc.sdk", "mint", "--count", "3000000000"] .plain 0 3000000000
    (asks_smallSpecimen _ rfl) (by decide)
  obtain ⟨hexit', -, hbehind⟩ := hranges .sound .absent .empty
    ["-t", "bc.sdk", "mint", "--start", "50", "--count", "3000000000"] .plain 50 3000000000
    (asks_smallSpecimen _ rfl) (by decide)
  obtain ⟨hexit'', -⟩ := hranges .sound .absent .empty
    ["-t", "bc.sdk", "mint", "--start", "8", "--count", "2"] .plain 8 2
    (asks_smallSpecimen _ rfl) (by decide)
  exact ⟨(hlong fun hzero => absurd (hexit.mp hzero) (by decide)).2,
    (hbehind fun hzero => absurd (hexit'.mp hzero) (by decide)).2, hexit''.mpr (by decide)⟩

end

end Session

end OpaqueId
