import Mathlib.Order.Interval.Set.Nat
import OpaqueId.Proofs.RoundTrip

/-! # Counting: the capacity is the number of identifiers

    Every value that a scheme holds has one identifier, and no two values share
    one (`mint_injective`), since the code of an identifier is a numeral of its
    value.  If the generator is bounded there are no other identifiers: a code
    as long as the mask has no zero to spare, so it is the one that is written
    for its number (`exists_mint_of_check`).

    So minting is a bijection between the values below the volume of the mask
    and the accepted texts (`bijOn_identifier`), whether a check symbol stands
    behind the code or not.  An extensible generator holds every number and has
    infinitely many identifiers.

    Main statement: `capacity_counts`. -/

namespace OpaqueId.Scheme

open MixedRadix

/-- The texts that the scheme accepts. -/
def identifiers (s : Scheme) : Set String := {text | s.check text = .ok ()}

/-- The identifier of a value, if it has one. -/
def identifier (s : Scheme) (value : Nat) : String := (s.mint value).toOption.getD ""

/-- A value that is held is minted. -/
theorem mint_identifier {s : Scheme} (hstem : ¬ s.ForeignStem) {value : Nat}
    (h : s.Holds value) : s.mint value = .ok (s.identifier value) := by
  obtain ⟨id, hid⟩ := (s.exists_mint_eq_ok_iff value).mpr ⟨h, hstem⟩
  rw [identifier, hid]
  rfl

/-! ## One identifier for each value -/

/-- No identifier is minted for two values, however large they are. -/
theorem mint_injective {s : Scheme} {m n : Nat} {id : String} (hm : s.mint m = .ok id)
    (hn : s.mint n = .ok id) : m = n := by
  obtain ⟨-, hcarries⟩ := (s.mint_eq_ok_iff_carries m id).mp hm
  obtain ⟨-, hcarries'⟩ := (s.mint_eq_ok_iff_carries n id).mp hn
  have hcode := hcarries.codeOf_eq.symm.trans hcarries'.codeOf_eq
  have hdigits := digitsOf?_map_symbolFor (s.numeral_digits m).within
  rw [hcode, digitsOf?_map_symbolFor (s.numeral_digits n).within] at hdigits
  rw [← s.numberOf_digits m, ← Option.some.inj hdigits, s.numberOf_digits n]

/-- Under a bounded generator every accepted text is minted. -/
theorem exists_mint_of_check {s : Scheme} (hbounded : s.template.generator.isExtensible = false)
    {text : String} (h : s.check text = .ok ()) :
    ∃ value, s.Holds value ∧ s.mint value = .ok text := by
  obtain ⟨code, hshaped, hcarries⟩ := (s.check_eq_ok_iff text).mp h
  obtain ⟨digits, hnumeral, rfl⟩ := hshaped.exists_numeral
  have hlength := (fits_of_bounded hbounded _).mp hshaped.fits
  rw [List.length_map] at hlength
  -- as long as the mask, so none of its digits can be spared
  have hdigits := eq_digits_of_canonical hnumeral (Or.inl hlength)
  have hholds := holds_numberOf hnumeral hshaped
  refine ⟨_, hholds, (s.mint_eq_ok_iff_carries _ text).mpr ⟨hholds, ?_⟩⟩
  rw [hdigits]
  exact hcarries

/-! ## The number of identifiers -/

/-- Different values have different identifiers. -/
theorem identifier_injOn {s : Scheme} (hstem : ¬ s.ForeignStem) :
    Set.InjOn s.identifier {value | s.Holds value} := by
  intro m hm n hn hsame
  have hmint := mint_identifier hstem hm
  rw [hsame] at hmint
  exact mint_injective hmint (mint_identifier hstem hn)

theorem identifier_mapsTo {s : Scheme} (hstem : ¬ s.ForeignStem) :
    Set.MapsTo s.identifier {value | s.Holds value} s.identifiers := by
  intro value h
  exact check_of_mint (mint_identifier hstem h)

/-- Minting is a bijection between the values below the volume of the mask and
    the identifiers of a bounded generator. -/
theorem bijOn_identifier {s : Scheme} (hbounded : s.template.generator.isExtensible = false)
    (hstem : ¬ s.ForeignStem) :
    Set.BijOn s.identifier (Set.Iio s.bases.prod) s.identifiers := by
  have hvalues : {value | s.Holds value} = Set.Iio s.bases.prod := by
    ext value
    show s.Holds value ↔ value < s.bases.prod
    rw [Holds, hbounded, volume_eq_prod]
    exact or_iff_right Bool.false_ne_true
  rw [← hvalues]
  refine ⟨identifier_mapsTo hstem, identifier_injOn hstem, ?_⟩
  intro text h
  obtain ⟨value, hholds, hmint⟩ := exists_mint_of_check hbounded h
  exact ⟨value, hholds, Except.ok.inj ((mint_identifier hstem hholds).symm.trans hmint)⟩

/-- An extensible generator never runs out of identifiers. -/
theorem infinite_identifiers {s : Scheme} (hextensible : s.template.generator.isExtensible = true)
    (hstem : ¬ s.ForeignStem) : s.identifiers.Infinite := by
  have hvalues : {value | s.Holds value} = Set.univ :=
    Set.eq_univ_of_forall fun value => Or.inl hextensible
  have hinj := identifier_injOn hstem
  have hmaps := identifier_mapsTo hstem
  rw [hvalues] at hinj hmaps
  exact Set.infinite_of_injOn_mapsTo hinj hmaps Set.infinite_univ

/-- **The capacity counts the identifiers.**  A scheme without check symbol, or
    with a stem over its alphabet, accepts as many texts as the product of its
    bases, and its capacity is that number, cut off at the largest one with 128
    bits; if the generator is extensible it accepts infinitely many, and the
    capacity is unbounded. -/
theorem capacity_counts (s : Scheme)
    (hstem : s.template.checked = false ∨ ∀ c ∈ s.stem, c ∈ s.alphabet.symbols) :
    (s.template.generator.isExtensible = false →
      s.identifiers.Finite ∧
      s.identifiers.ncard = s.bases.prod ∧
      s.capacity = .bounded (min s.bases.prod (2 ^ 128 - 1))) ∧
    (s.template.generator.isExtensible = true →
      s.identifiers.Infinite ∧ s.capacity = .unbounded) := by
  have hforeign := s.not_foreignStem_iff.mpr hstem
  constructor
  · intro hbounded
    have hbij := bijOn_identifier hbounded hforeign
    refine ⟨hbij.finite_iff_finite.mp (Set.finite_Iio _), ?_, ?_⟩
    · rw [← hbij.ncard_eq, Set.ncard_Iio_nat]
    · rw [capacity_eq, hbounded, if_neg Bool.false_ne_true, volume_eq_prod]
      rfl
  · intro hextensible
    refine ⟨infinite_identifiers hextensible hforeign, ?_⟩
    rw [capacity_eq, if_pos hextensible]

/-- The scheme `b.s` with forty classes `e` and a check symbol, over the default
    alphabet. -/
def largeSpecimen : Scheme :=
  ⟨⟨"b", .sequential, List.replicate 40 .extended, true⟩, .betanumeric, by decide⟩

/-- More identifiers than the capacity of 128 bits can say, and in `bc.zedk` more
    than any number. -/
theorem largeSpecimen_counts :
    largeSpecimen.identifiers.ncard = 29 ^ 40 ∧
      largeSpecimen.capacity = .bounded (2 ^ 128 - 1) ∧
      specimen.identifiers.Infinite := by
  have hstem : largeSpecimen.stem = ['b'] := by decide +kernel
  have hlarge : ∀ c ∈ largeSpecimen.stem, c ∈ largeSpecimen.alphabet.symbols := by
    rw [hstem, List.forall_mem_singleton]
    decide
  have hprod : largeSpecimen.bases.prod = 29 ^ 40 := by decide +kernel
  obtain ⟨-, hcount, hcapacity⟩ := (capacity_counts largeSpecimen (Or.inr hlarge)).1 rfl
  obtain ⟨hinfinite, -⟩ := (capacity_counts specimen (Or.inr specimen_stem_mem)).2 rfl
  rw [hprod] at hcount hcapacity
  exact ⟨hcount, hcapacity, hinfinite⟩

end OpaqueId.Scheme
