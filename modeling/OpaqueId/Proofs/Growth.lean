import Mathlib.Order.Bounds.Basic
import OpaqueId.Proofs.RoundTrip

/-! # Growth: identifiers are no longer than they have to be

    Every position in front of the mask multiplies the numbers that there is room
    for by the last base.  A value is minted with the least number of positions that
    makes room for it (`isLeast_extension`): none while the mask has room, and never
    more than nineteen, since every base is at least ten (`extension_le_nineteen`).
    Dividing what the mask could not hold by the last base gets to zero after as many
    rounds and no earlier (`isLeast_rounds`).

    Any other text of the same value has zeros in front of its code.  What is left
    when they are shed is the end of the code, so it is shorter
    (`length_le_of_decode`).

    Main statement: `mint_shortest`. -/

namespace OpaqueId

/-- What is left of a code is its end. -/
theorem shed_suffix (width : Nat) (code : List Char) : shed width code <:+ code := by
  induction code with
  | nil => exact List.suffix_refl []
  | cons c code ih =>
      rw [shed]
      split
      · exact ih.trans (List.suffix_cons c code)
      · exact List.suffix_refl _

namespace Scheme

open MixedRadix

/-! ## Positions in front of the mask -/

/-- Each position in front of the mask multiplies the volume by the base of the last
    class. -/
theorem lt_volume_basesFor_iff (s : Scheme) (value count : Nat) :
    value < volume (s.basesFor (s.template.width + count)) ↔
      value < s.bases.prod * s.lastClass.base s.alphabet ^ count := by
  rw [volume_basesFor, volume_eq_prod, lastBase_eq, Nat.mul_comm]

/-- The extension is the least number of positions that makes room for a value. -/
theorem isLeast_extension (s : Scheme) (value : Nat) :
    IsLeast {count | value < s.bases.prod * s.lastClass.base s.alphabet ^ count}
      (s.extension value) := by
  constructor
  · exact (s.lt_volume_basesFor_iff _ _).mp ((s.extension_le_iff _ _).mp (Nat.le_refl _))
  · intro count hroom
    exact (s.extension_le_iff _ _).mpr ((s.lt_volume_basesFor_iff _ _).mpr hroom)

/-- The mask has at least one position, and every position ten digits. -/
theorem ten_le_prod_bases (s : Scheme) : 10 ≤ s.bases.prod := by
  obtain ⟨base, hbase⟩ := List.exists_mem_of_ne_nil s.bases (by
    rw [bases, Ne, List.map_eq_nil_iff]
    exact s.mask_ne_nil)
  obtain ⟨k, -, rfl⟩ := List.mem_map.mp hbase
  have hpos : 0 < s.bases.prod := by
    rw [← volume_eq_prod]
    exact s.volume_bases_pos
  exact (k.ten_le_base s.alphabet).trans (Nat.le_of_dvd hpos (List.dvd_prod hbase))

/-- No sequence value needs more than nineteen positions in front of the mask. -/
theorem extension_le_nineteen (s : Scheme) {value : Nat} (h : value < valueLimit) :
    s.extension value ≤ 19 := by
  refine (s.isLeast_extension value).2 ?_
  have hlast := Nat.pow_le_pow_left (s.lastClass.ten_le_base s.alphabet) 19
  calc value < valueLimit := h
    _ ≤ 10 * 10 ^ 19 := by decide
    _ ≤ s.bases.prod * s.lastClass.base s.alphabet ^ 19 :=
      Nat.mul_le_mul s.ten_le_prod_bases hlast

/-- Rounds of division divide by a power. -/
theorem iterate_div (base rounds n : Nat) : (· / base)^[rounds] n = n / base ^ rounds := by
  induction rounds with
  | zero => rw [Function.iterate_zero_apply, Nat.pow_zero, Nat.div_one]
  | succ rounds ih => rw [Function.iterate_succ_apply', ih, Nat.div_div_eq_div_mul, Nat.pow_succ]

/-- Dividing what the mask could not hold ends, after one round for each position that is
    written in front of the mask. -/
theorem isLeast_rounds (s : Scheme) (value : Nat) :
    IsLeast {rounds | (· / s.lastClass.base s.alphabet)^[rounds] (value / s.bases.prod) = 0}
      (s.extension value) := by
  -- a quotient by a power is zero exactly if the power makes room for the value
  have hsame : {rounds | (· / s.lastClass.base s.alphabet)^[rounds] (value / s.bases.prod) = 0} =
      {count | value < s.bases.prod * s.lastClass.base s.alphabet ^ count} := by
    ext count
    have hlast := s.lastClass.ten_le_base s.alphabet
    have hpos : 0 < s.bases.prod * s.lastClass.base s.alphabet ^ count :=
      Nat.mul_pos (Nat.zero_lt_of_lt s.ten_le_prod_bases) (Nat.pow_pos (by omega))
    rw [Set.mem_ofPred_eq, Set.mem_ofPred_eq, iterate_div, Nat.div_div_eq_div_mul,
      Nat.div_eq_zero_iff_lt hpos]
  rw [hsame]
  exact s.isLeast_extension value

/-! ## Lengths -/

/-- The code of an identifier has the width of the mask, and the positions that were
    added. -/
theorem length_codeOf_of_mint {s : Scheme} {value : Nat} {id : String}
    (h : s.mint value = .ok id) :
    (s.codeOf id).length = s.template.width + s.extension value := by
  obtain ⟨-, hcarries⟩ := (s.mint_eq_ok_iff_carries value id).mp h
  rw [hcarries.codeOf_eq, List.length_map, length_digits]

/-- No text of a value is shorter than its identifier, and no other is as short. -/
theorem length_le_of_decode {s : Scheme} {value : Nat} {id text : String}
    (hid : s.mint value = .ok id) (htext : s.decode text = .ok value) :
    id.toList.length ≤ text.toList.length ∧
      (text.toList.length = id.toList.length → text = id) := by
  obtain ⟨-, -, hcarries, id', hid', hshed⟩ := mint_of_decode htext
  obtain rfl := Except.ok.inj (hid'.symm.trans hid)
  have hsuffix := shed_suffix s.template.width (s.codeOf text)
  rw [hshed.length_eq, hcarries.length_eq]
  constructor
  · have := hsuffix.length_le
    omega
  · intro hlength
    -- an end of the code that is as long as the code is the code
    have hsame : shed s.template.width (s.codeOf text) = s.codeOf text :=
      hsuffix.eq_of_length (by omega)
    rw [hsame] at hshed
    exact hcarries.text_unique hshed

/-- **Identifiers are no longer than they have to be.**  The code of a minted identifier has
    as many symbols as the mask, and the least number more with which there is room for the
    value: none if the mask has room, and at most nineteen.  Dividing what the mask could
    not hold by the last base ends after that many rounds.  Of all texts of the value the
    identifier is the only shortest one. -/
theorem mint_shortest (s : Scheme) (n : UInt64) (id : String) (h : s.mint n.toNat = .ok id) :
    ∃ count, IsLeast {k | n.toNat < s.bases.prod * s.lastClass.base s.alphabet ^ k} count ∧
      (s.codeOf id).length = s.template.width + count ∧
      IsLeast {rounds | (· / s.lastClass.base s.alphabet)^[rounds] (n.toNat / s.bases.prod) = 0}
        count ∧
      (n.toNat < s.bases.prod → count = 0) ∧ count ≤ 19 ∧
      s.decode id = .ok n.toNat ∧
      ∀ text : String, s.decode text = .ok n.toNat →
        id.length ≤ text.length ∧ (text.length = id.length → text = id) := by
  refine ⟨s.extension n.toNat, s.isLeast_extension _, length_codeOf_of_mint h,
    s.isLeast_rounds _, fun hroom => ?_, s.extension_le_nineteen n.toNat_lt_size,
    (decode_of_mint n.toNat_lt_size h).2, fun text htext => ?_⟩
  · rw [extension_eq_zero_iff, volume_eq_prod]
    exact hroom
  · rw [← String.length_toList, ← String.length_toList]
    exact length_le_of_decode h htext

/-- In `bc.zedk` the value 12345 needs two positions in front of the mask, and a text of it
    with two zeros in front of these is longer. -/
theorem specimen_shortest :
    specimen.mint 12345 = .ok "bc42j5k" ∧
      IsLeast {k | 12345 < specimen.bases.prod * specimen.lastClass.base specimen.alphabet ^ k}
        2 ∧
      specimen.decode "bc0042j5f" = .ok 12345 ∧ "bc42j5k".length ≤ "bc0042j5f".length := by
  have hmint : specimen.mint 12345 = .ok "bc42j5k" := by decide +kernel
  have hdecode : specimen.decode "bc0042j5f" = .ok 12345 := by decide +kernel
  have hcode : (specimen.codeOf "bc42j5k").length = specimen.template.width + 2 := by
    decide +kernel
  obtain ⟨count, hleast, hlength, -, -, -, -, hshortest⟩ :=
    mint_shortest specimen 12345 "bc42j5k" hmint
  obtain rfl : count = 2 := Nat.add_left_cancel (hlength.symm.trans hcode)
  exact ⟨hmint, hleast, hdecode, (hshortest _ hdecode).1⟩

end Scheme

end OpaqueId
