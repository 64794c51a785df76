import OpaqueId.Proofs.Diagnosis
import OpaqueId.Proofs.Encoding

/-! # Minting: which values have an identifier

    `Scheme.Outcome` lists what minting a value can end in, together with what
    each outcome means.  As with the answers to a text, the outcomes exclude
    each other and one of them always applies (`mint_eq_iff`).

    The stored capacity stops growing at the largest count, the volume of the
    mask does not.  On sequence values the two agree (`capacity_contains_iff`),
    since the largest count is far beyond every sequence value.

    Main statement: `mint_outcome`, each outcome in terms of the capacity and
    the stem. -/

namespace OpaqueId.Scheme

open MixedRadix

/-- What each outcome of minting a value means. -/
inductive Outcome (s : Scheme) (value : Nat) : Except Refusal String → Prop where
  | beyond : ¬ s.Holds value →
      Outcome s value (.error (.beyondCapacity value (min (volume s.bases) Capacity.largest)))
  | foreign (found : ForeignCharacter) : s.Holds value → s.template.checked = true →
      s.alphabet.LeftmostForeign s.stem found →
      Outcome s value (.error (.foreign found))
  | minted (id : String) : s.Holds value →
      s.Carries id ((s.digits value).map s.alphabet.symbolFor) →
      Outcome s value (.ok id)

/-- A value is minted to the text that carries its code. -/
theorem mint_eq_ok_iff_carries (s : Scheme) (value : Nat) (id : String) :
    s.mint value = .ok id ↔
      s.Holds value ∧ s.Carries id ((s.digits value).map s.alphabet.symbolFor) := by
  rw [mint_eq_ok_iff]
  constructor
  · rintro ⟨code, hcode, hcarries⟩
    obtain ⟨hholds, rfl⟩ := (s.encode_eq_ok_iff value code).mp hcode
    exact ⟨hholds, hcarries⟩
  · rintro ⟨hholds, hcarries⟩
    exact ⟨_, encode_of_holds hholds, hcarries⟩

/-- What is minted is accepted. -/
theorem check_of_mint {s : Scheme} {value : Nat} {id : String} (h : s.mint value = .ok id) :
    s.check id = .ok () := by
  obtain ⟨hholds, hcarries⟩ := (s.mint_eq_ok_iff_carries value id).mp h
  exact (s.check_eq_ok_iff id).mpr ⟨_, hholds.shaped, hcarries⟩

/-- The stem is foreign exactly if it has a leftmost foreign character that the
    check sum would meet. -/
theorem foreignStem_iff (s : Scheme) :
    s.ForeignStem ↔
      s.template.checked = true ∧ ∃ found, s.alphabet.LeftmostForeign s.stem found := by
  refine and_congr_right fun _ => ⟨Alphabet.exists_leftmostForeign, ?_⟩
  rintro ⟨found, hfound⟩
  exact hfound.exists_mem

/-- Minting has the outcome that the value has coming. -/
theorem Outcome.mint_eq {s : Scheme} {value : Nat} {result : Except Refusal String}
    (h : s.Outcome value result) : s.mint value = result := by
  cases h with
  | beyond hbeyond => rw [mint, encode_of_not_holds hbeyond]
  | foreign found hholds hchecked hfound =>
      -- the code behind the stem has symbols only and does not move the find
      have hsum := (s.alphabet.checkSymbolOf_eq_error_iff _ found).mpr
        ((Alphabet.leftmostForeign_append_iff hholds.shaped.mem found).mpr hfound)
      rw [mint, encode_of_holds hholds]
      dsimp only
      rw [addCheckSymbol, if_pos hchecked, hsum]
      rfl
  | minted id hholds hcarries => exact (s.mint_eq_ok_iff_carries value id).mpr ⟨hholds, hcarries⟩

/-- Every value has an outcome. -/
theorem exists_outcome (s : Scheme) (value : Nat) : ∃ result, s.Outcome value result := by
  by_cases hholds : s.Holds value
  · by_cases hstem : s.ForeignStem
    · obtain ⟨hchecked, found, hfound⟩ := s.foreignStem_iff.mp hstem
      exact ⟨_, .foreign found hholds hchecked hfound⟩
    · obtain ⟨id, hid⟩ := (exists_carries_iff hholds.shaped.mem).mpr hstem
      exact ⟨_, .minted id hholds hid⟩
  · exact ⟨_, .beyond hholds⟩

/-- Minting has one outcome, so it has exactly this one. -/
theorem mint_eq_iff (s : Scheme) (value : Nat) (result : Except Refusal String) :
    s.mint value = result ↔ s.Outcome value result := by
  constructor
  · rintro rfl
    obtain ⟨result, h⟩ := s.exists_outcome value
    rw [h.mint_eq]
    exact h
  · exact Outcome.mint_eq

/-! ## The capacity -/

theorem valueLimit_le_largest : valueLimit ≤ Capacity.largest := by decide

/-- The stored capacity contains exactly the sequence values that the scheme
    holds, whether it was cut off or not. -/
theorem capacity_contains_iff (s : Scheme) {value : Nat} (hvalue : value < valueLimit) :
    s.capacity.contains value = true ↔ s.Holds value := by
  rw [capacity_eq, Holds]
  cases s.template.generator.isExtensible with
  | true => exact ⟨fun _ => Or.inl rfl, fun _ => rfl⟩
  | false =>
      have hlargest : value < Capacity.largest := hvalue.trans_le valueLimit_le_largest
      rw [if_neg Bool.false_ne_true, Capacity.contains, decide_eq_true_iff, Nat.lt_min]
      constructor
      · rintro ⟨hroom, -⟩
        exact Or.inr hroom
      · rintro (hextensible | hroom)
        · exact absurd hextensible Bool.false_ne_true
        · exact ⟨hroom, hlargest⟩

theorem not_holds_iff (s : Scheme) (value : Nat) :
    ¬ s.Holds value ↔ s.template.generator.isExtensible = false ∧ s.bases.prod ≤ value := by
  rw [Holds, not_or, Bool.not_eq_true, Nat.not_lt, volume_eq_prod]

/-- A volume that a sequence value reaches was not cut off. -/
theorem min_volume_eq {s : Scheme} {value : Nat} (hvalue : value < valueLimit)
    (h : ¬ s.Holds value) : min (volume s.bases) Capacity.largest = s.bases.prod := by
  have hreached := ((s.not_holds_iff value).mp h).2
  rw [volume_eq_prod]
  exact Nat.min_eq_left (hreached.trans (hvalue.le.trans valueLimit_le_largest))

/-! ## The outcomes in terms of capacity and stem -/

/-- Below the limit of values, the capacity is exceeded exactly by values that are not
    held. -/
theorem mint_eq_beyondCapacity_iff (s : Scheme) {value : Nat} (hvalue : value < valueLimit) :
    s.mint value = .error (.beyondCapacity value s.bases.prod) ↔ ¬ s.Holds value := by
  constructor
  · intro h hholds
    rw [mint_eq_iff] at h
    -- whatever capacity is named, only `beyond` names one
    generalize s.bases.prod = product at h
    cases h with
    | beyond hbeyond => exact hbeyond hholds
  · intro hbeyond
    rw [(Outcome.beyond hbeyond).mint_eq, min_volume_eq hvalue hbeyond]

/-- A foreign character is named if the value is held and a check symbol is asked for, and
    it is the leftmost one of the stem. -/
theorem mint_eq_foreign_iff (s : Scheme) (value : Nat) (found : ForeignCharacter) :
    s.mint value = .error (.foreign found) ↔
      s.Holds value ∧ s.template.checked = true ∧ s.alphabet.LeftmostForeign s.stem found := by
  rw [mint_eq_iff]
  constructor
  · intro h
    cases h with
    | foreign _ hholds hchecked hfound => exact ⟨hholds, hchecked, hfound⟩
  · rintro ⟨hholds, hchecked, hfound⟩
    exact .foreign found hholds hchecked hfound

/-- An identifier is minted exactly for values that are held behind a stem that is not
    foreign. -/
theorem exists_mint_eq_ok_iff (s : Scheme) (value : Nat) :
    (∃ id, s.mint value = .ok id) ↔ s.Holds value ∧ ¬ s.ForeignStem := by
  simp only [mint_eq_ok_iff_carries, exists_and_left]
  exact and_congr_right fun hholds => exists_carries_iff hholds.shaped.mem

/-- A refusal names the capacity or a character of the stem. -/
theorem refusal_of_mint (s : Scheme) {value : Nat} (hvalue : value < valueLimit)
    {refusal : Refusal} (h : s.mint value = .error refusal) :
    refusal = .beyondCapacity value s.bases.prod ∨ ∃ found, refusal = .foreign found := by
  rw [mint_eq_iff] at h
  cases h with
  | beyond hbeyond => exact Or.inl (by rw [min_volume_eq hvalue hbeyond])
  | foreign found => exact Or.inr ⟨found, rfl⟩

/-- Behind a foreign stem nothing is accepted. -/
theorem ForeignStem.check_ne_ok {s : Scheme} (h : s.ForeignStem) (text : String) :
    s.check text ≠ .ok () := by
  intro hcheck
  obtain ⟨code, hshaped, hcarries⟩ := (s.check_eq_ok_iff text).mp hcheck
  exact (exists_carries_iff hshaped.mem).mp ⟨text, hcarries⟩ h

/-- **What minting ends in** is settled by the capacity and the stem.  A value
    that the capacity does not contain is refused with the exact number of
    identifiers; else a checked scheme names the leftmost foreign character of
    its stem, if there is one; else there is an identifier.  Over a foreign
    stem nothing is minted and no text is accepted. -/
theorem mint_outcome (s : Scheme) :
    (s.capacity = if s.template.generator.isExtensible then .unbounded
      else .bounded (min s.bases.prod Capacity.largest)) ∧
    (∀ n : UInt64,
      (s.capacity.contains n.toNat = false ↔
        s.template.generator.isExtensible = false ∧ s.bases.prod ≤ n.toNat) ∧
      (s.mint n.toNat = .error (.beyondCapacity n.toNat s.bases.prod) ↔
        s.template.generator.isExtensible = false ∧ s.bases.prod ≤ n.toNat) ∧
      (∀ found, s.mint n.toNat = .error (.foreign found) ↔
        s.capacity.contains n.toNat = true ∧ s.template.checked = true ∧
          s.alphabet.LeftmostForeign s.stem found) ∧
      ((∃ id, s.mint n.toNat = .ok id) ↔
        s.capacity.contains n.toNat = true ∧ ¬ s.ForeignStem) ∧
      ∀ refusal, s.mint n.toNat = .error refusal →
        refusal = .beyondCapacity n.toNat s.bases.prod ∨ ∃ found, refusal = .foreign found) ∧
    (s.ForeignStem → ∀ text, s.check text ≠ .ok ()) := by
  refine ⟨?_, fun n => ⟨?_, ?_, fun found => ?_, ?_, fun refusal h => ?_⟩, fun hstem text => ?_⟩
  · rw [capacity_eq, volume_eq_prod]
  · rw [← not_holds_iff, ← s.capacity_contains_iff n.toNat_lt_size, Bool.not_eq_true]
  · rw [← not_holds_iff]
    exact s.mint_eq_beyondCapacity_iff n.toNat_lt_size
  · rw [s.capacity_contains_iff n.toNat_lt_size]
    exact s.mint_eq_foreign_iff n.toNat found
  · rw [s.capacity_contains_iff n.toNat_lt_size]
    exact s.exists_mint_eq_ok_iff n.toNat
  · exact s.refusal_of_mint n.toNat_lt_size h
  · exact hstem.check_ne_ok text

/-- The scheme `b-.rdk` over the default alphabet, which has no hyphen. -/
def foreignSpecimen : Scheme := ⟨⟨"b-", .random, [.decimal], true⟩, .betanumeric, by decide⟩

/-- In `b-.rdk` the values below ten fail at the hyphen, and ten is beyond the
    capacity. -/
theorem foreignSpecimen_mints_nothing :
    foreignSpecimen.mint 9 = .error (.foreign ⟨'-', 1⟩) ∧
      foreignSpecimen.mint 10 = .error (.beyondCapacity 10 10) ∧
      ∀ text, foreignSpecimen.check text ≠ .ok () := by
  obtain ⟨-, hvalues, htexts⟩ := mint_outcome foreignSpecimen
  have hfound : foreignSpecimen.alphabet.LeftmostForeign foreignSpecimen.stem ⟨'-', 1⟩ := by
    refine ⟨['b'], [], by decide +kernel, rfl, fun c hc => ?_, by decide⟩
    rw [List.mem_singleton.mp hc]
    decide
  refine ⟨?_, ?_, htexts ⟨rfl, hfound.exists_mem⟩⟩
  · obtain ⟨-, -, hforeign, -⟩ := hvalues 9
    exact (hforeign _).mpr ⟨by decide, rfl, hfound⟩
  · obtain ⟨-, hbeyond, -⟩ := hvalues 10
    exact hbeyond.mpr ⟨rfl, by decide⟩

end OpaqueId.Scheme
