import OpaqueId.Proofs.Minting

/-! # Round trips: minting, decoding and minting again

    Minting and decoding meet in one notion: an identifier carries the code of
    its value (`mint_eq_ok_iff_carries`), and a text that carries the code of a
    numeral is decoded to its number (`decode_of_carries`).  Two results
    follow:

    * decoding undoes minting (`decode_of_mint`), so no identifier is minted
      twice;
    * minting undoes decoding up to zeros that were put in front of a code
      without need.  `shed` takes them away, and what is left is the code of
      the value (`shed_map_symbolFor`). -/

namespace OpaqueId

/-- Takes zeros from the front of a code while it is longer than the mask. -/
def shed (width : Nat) : List Char → List Char
  | [] => []
  | c :: code => if c = '0' ∧ width ≤ code.length then shed width code else c :: code

namespace Scheme

/-! ## Decoding undoes minting -/

/-- A text that carries the code of a numeral is decoded to its number. -/
theorem decode_of_carries {s : Scheme} {text : String} {digits : List Nat}
    (hnumeral : s.Numeral digits) (hshaped : s.Shaped (digits.map s.alphabet.symbolFor))
    (hcarries : s.Carries text (digits.map s.alphabet.symbolFor)) :
    s.decode text =
      if s.numberOf digits < valueLimit then .ok (s.numberOf digits) else .error .overflow := by
  have hlocate := (s.locate_eq_ok_iff text _).mpr ⟨hshaped, hcarries⟩
  rw [decode, hlocate]
  exact decodeCode_map_symbolFor hnumeral

/-- A minted identifier is accepted and decoded to its value. -/
theorem decode_of_mint {s : Scheme} {value : Nat} {id : String} (hvalue : value < valueLimit)
    (h : s.mint value = .ok id) : s.check id = .ok () ∧ s.decode id = .ok value := by
  obtain ⟨hholds, hcarries⟩ := (s.mint_eq_ok_iff_carries value id).mp h
  constructor
  · exact check_of_mint h
  · rw [decode_of_carries (s.numeral_digits value) hholds.shaped hcarries, numberOf_digits,
      if_pos hvalue]

/-- **Decoding undoes minting**: a minted identifier is accepted and decoded to
    its value, and no other value has it. -/
theorem mint_then_decode (s : Scheme) (n : UInt64) (id : String)
    (h : s.mint n.toNat = .ok id) :
    s.check id = .ok () ∧ s.decode id = .ok n.toNat ∧
      ∀ m : UInt64, s.mint m.toNat = .ok id → m = n := by
  obtain ⟨hcheck, hdecode⟩ := decode_of_mint n.toNat_lt_size h
  refine ⟨hcheck, hdecode, fun m hm => ?_⟩
  obtain ⟨-, hdecode'⟩ := decode_of_mint m.toNat_lt_size hm
  exact UInt64.toNat_inj.mp (Except.ok.inj (hdecode'.symm.trans hdecode))

/-- In `bc.zedk` the value 12345 needs two positions in front of the mask. -/
theorem specimen_round_trip :
    specimen.mint 12345 = .ok "bc42j5k" ∧ specimen.check "bc42j5k" = .ok () ∧
      specimen.decode "bc42j5k" = .ok 12345 := by
  have hmint : specimen.mint 12345 = .ok "bc42j5k" := by decide +kernel
  obtain ⟨hcheck, hdecode, -⟩ := mint_then_decode specimen 12345 "bc42j5k" hmint
  exact ⟨hmint, hcheck, hdecode⟩

/-! ## Zeros in front of a code -/

theorem length_shed_le (width : Nat) (code : List Char) :
    (shed width code).length ≤ code.length := by
  induction code with
  | nil => exact Nat.le_refl 0
  | cons c code ih =>
      rw [shed]
      split
      · exact Nat.le_succ_of_le ih
      · exact Nat.le_refl _

/-- Nothing is shed from a code as long as the mask, or with another symbol in
    front. -/
theorem shed_eq_self_iff {width : Nat} {code : List Char} (h : width ≤ code.length) :
    shed width code = code ↔ code.length = width ∨ code.head? ≠ some '0' := by
  cases code with
  | nil =>
      constructor
      · exact fun _ => Or.inr fun hhead => nomatch hhead
      · exact fun _ => rfl
  | cons c code =>
      rw [shed, List.length_cons, List.head?_cons, Ne, Option.some.injEq]
      rw [List.length_cons] at h
      by_cases hshed : c = '0' ∧ width ≤ code.length
      · have hlength := length_shed_le width code
        rw [if_pos hshed]
        constructor
        · -- something was shed, so the code got shorter
          intro heq
          rw [heq, List.length_cons] at hlength
          omega
        · rintro (hlength | hc)
          · omega
          · exact absurd hshed.1 hc
      · rw [if_neg hshed]
        refine ⟨fun _ => ?_, fun _ => rfl⟩
        by_cases hc : c = '0'
        · have hshort : ¬ width ≤ code.length := fun hle => hshed ⟨hc, hle⟩
          exact Or.inl (by omega)
        · exact Or.inr hc

theorem Numeral.head_lt {s : Scheme} {digit : Nat} {digits : List Nat}
    (h : s.Numeral (digit :: digits)) : digit < s.alphabet.size :=
  Alphabet.lt_size_of_within h.within digit (List.mem_cons_self ..)

/-- What is left when the zeros of a numeral's code are shed is the code that
    is written for its number. -/
theorem shed_map_symbolFor {s : Scheme} {digits : List Nat} (h : s.Numeral digits) :
    shed s.template.width (digits.map s.alphabet.symbolFor) =
      (s.digits (s.numberOf digits)).map s.alphabet.symbolFor := by
  induction digits with
  | nil =>
      have hcanonical : s.Canonical [] := Or.inr fun hhead => nomatch hhead
      rw [eq_digits_of_canonical h hcanonical]
      rfl
  | cons digit digits ih =>
      have hzero : s.alphabet.symbolFor digit = '0' ↔ digit = 0 :=
        Alphabet.symbolFor_eq_zero_iff h.head_lt
      rw [List.map_cons, shed, List.length_map]
      simp only [hzero]
      -- a zero is shed exactly if the rest is a numeral by itself
      by_cases hshed : digit = 0 ∧ s.template.width ≤ digits.length
      · obtain ⟨rfl, hwidth⟩ := hshed
        rw [if_pos ⟨rfl, hwidth⟩, ih (h.tail hwidth), s.numberOf_cons hwidth, Nat.zero_mul,
          Nat.zero_add]
      · have hcanonical : s.Canonical (digit :: digits) := by
          by_cases hdigit : digit = 0
          · have hshort : ¬ s.template.width ≤ digits.length := fun hle => hshed ⟨hdigit, hle⟩
            have hwidth := h.width_le
            rw [List.length_cons] at hwidth
            exact Or.inl (by rw [List.length_cons]; omega)
          · exact Or.inr fun hhead => hdigit (Option.some.inj hhead)
        rw [if_neg hshed, eq_digits_of_canonical h hcanonical, List.map_cons]

/-- A numeral with a zero in front is a numeral. -/
theorem Numeral.cons_zero {s : Scheme} {digits : List Nat} (h : s.Numeral digits) :
    s.Numeral (0 :: digits) := by
  constructor
  · exact Nat.le_succ_of_le h.width_le
  · rw [List.length_cons, s.basesFor_succ h.width_le]
    exact List.Forall₂.cons (Nat.zero_lt_of_lt s.one_lt_lastBase) h.within

/-- Zeros in front of a numeral make a numeral of the same number. -/
theorem Numeral.replicate_zero_append {s : Scheme} {digits : List Nat} (h : s.Numeral digits)
    (count : Nat) :
    s.Numeral (List.replicate count 0 ++ digits) ∧
      s.numberOf (List.replicate count 0 ++ digits) = s.numberOf digits := by
  induction count with
  | zero => exact ⟨h, rfl⟩
  | succ count ih =>
      obtain ⟨hnumeral, hnumber⟩ := ih
      rw [List.replicate_succ, List.cons_append]
      refine ⟨hnumeral.cons_zero, ?_⟩
      rw [s.numberOf_cons hnumeral.width_le, Nat.zero_mul, Nat.zero_add, hnumber]

/-! ## Minting undoes decoding -/

/-- A text is decoded to the number of the numeral whose code it carries. -/
theorem exists_numeral_of_decode {s : Scheme} {text : String} {n : Nat}
    (h : s.decode text = .ok n) :
    ∃ digits, s.Numeral digits ∧ s.Shaped (digits.map s.alphabet.symbolFor) ∧
      s.Carries text (digits.map s.alphabet.symbolFor) ∧ s.numberOf digits = n ∧
      n < valueLimit := by
  cases hlocate : s.locate text with
  | error rejection =>
      rw [decode, hlocate] at h
      exact nomatch h
  | ok code =>
      obtain ⟨hshaped, hcarries⟩ := (s.locate_eq_ok_iff text code).mp hlocate
      obtain ⟨digits, hnumeral, rfl⟩ := hshaped.exists_numeral
      rw [decode_of_carries hnumeral hshaped hcarries] at h
      by_cases hrange : s.numberOf digits < valueLimit
      · rw [if_pos hrange] at h
        have hn := Except.ok.inj h
        exact ⟨digits, hnumeral, hshaped, hcarries, hn, hn ▸ hrange⟩
      · rw [if_neg hrange] at h
        exact nomatch h

/-- The scheme holds the number of every code in shape. -/
theorem holds_numberOf {s : Scheme} {digits : List Nat} (hnumeral : s.Numeral digits)
    (hshaped : s.Shaped (digits.map s.alphabet.symbolFor)) : s.Holds (s.numberOf digits) := by
  cases hextensible : s.template.generator.isExtensible with
  | true => exact Or.inl hextensible
  | false =>
      have hfits := (fits_of_bounded hextensible _).mp hshaped.fits
      rw [List.length_map] at hfits
      refine Or.inr ?_
      rw [← basesFor_width, ← hfits]
      exact hnumeral.numberOf_lt

/-- A decoded value is minted to the text that is left when the needless zeros
    are shed. -/
theorem mint_of_decode {s : Scheme} {text : String} {n : Nat} (h : s.decode text = .ok n) :
    n < valueLimit ∧ s.Shaped (s.codeOf text) ∧ s.Carries text (s.codeOf text) ∧
      ∃ id, s.mint n = .ok id ∧ s.Carries id (shed s.template.width (s.codeOf text)) := by
  obtain ⟨digits, hnumeral, hshaped, hcarries, rfl, hrange⟩ := exists_numeral_of_decode h
  have hholds := holds_numberOf hnumeral hshaped
  rw [hcarries.codeOf_eq, shed_map_symbolFor hnumeral]
  -- the text itself shows that the stem is no obstacle to a check symbol
  have hstem := (exists_carries_iff hshaped.mem).mp ⟨text, hcarries⟩
  obtain ⟨id, hid⟩ := (exists_carries_iff hholds.shaped.mem).mpr hstem
  exact ⟨hrange, hshaped, hcarries, id, (s.mint_eq_ok_iff_carries _ id).mpr ⟨hholds, hid⟩, hid⟩

/-- Minting gives the text back exactly if there was nothing to shed. -/
theorem eq_iff_of_carries_shed {s : Scheme} {text id : String}
    (hshaped : s.Shaped (s.codeOf text)) (htext : s.Carries text (s.codeOf text))
    (hid : s.Carries id (shed s.template.width (s.codeOf text))) :
    id = text ↔
      (s.codeOf text).length = s.template.width ∨ (s.codeOf text).head? ≠ some '0' := by
  rw [← shed_eq_self_iff hshaped.fits.width_le]
  constructor
  · rintro rfl
    exact hid.codeOf_eq.symm
  · intro hsame
    rw [hsame] at hid
    exact hid.text_unique htext

/-- The texts that are minted are those that can be decoded and have no zero in
    front of their code that the mask does not ask for. -/
theorem exists_mint_iff (s : Scheme) (text : String) :
    (∃ n : UInt64, s.mint n.toNat = .ok text) ↔
      (∃ n, s.decode text = .ok n) ∧
        ((s.codeOf text).length = s.template.width ∨ (s.codeOf text).head? ≠ some '0') := by
  constructor
  · rintro ⟨n, h⟩
    have hdecode := (decode_of_mint n.toNat_lt_size h).2
    obtain ⟨-, hshaped, htext, id, hmint, hid⟩ := mint_of_decode hdecode
    refine ⟨⟨_, hdecode⟩, (eq_iff_of_carries_shed hshaped htext hid).mp ?_⟩
    exact Except.ok.inj (hmint.symm.trans h)
  · rintro ⟨⟨n, hdecode⟩, hplain⟩
    obtain ⟨hrange, hshaped, htext, id, hmint, hid⟩ := mint_of_decode hdecode
    have hsame := (eq_iff_of_carries_shed hshaped htext hid).mpr hplain
    have hsize : n < UInt64.size := hrange
    refine ⟨UInt64.ofNatLT n hsize, ?_⟩
    rw [UInt64.toNat_ofNatLT, hmint, hsame]

/-- Zeros put in front of the code of an extensible identifier, with the check
    symbol computed anew, make an identifier of the same value. -/
theorem exists_carries_replicate_zero {s : Scheme} {text : String}
    (hextensible : s.template.generator.isExtensible = true) (h : s.check text = .ok ())
    (count : Nat) :
    ∃ id, s.Carries id (List.replicate count '0' ++ s.codeOf text) ∧ s.check id = .ok () ∧
      s.decode id = s.decode text := by
  obtain ⟨code, hshaped, hcarries⟩ := (s.check_eq_ok_iff text).mp h
  obtain ⟨digits, hnumeral, rfl⟩ := hshaped.exists_numeral
  obtain ⟨hnumeral', hnumber⟩ := hnumeral.replicate_zero_append count
  have hcode : List.replicate count '0' ++ digits.map s.alphabet.symbolFor =
      (List.replicate count 0 ++ digits).map s.alphabet.symbolFor := by
    rw [List.map_append, List.map_replicate, Alphabet.symbolFor_zero]
  have hshaped' : s.Shaped ((List.replicate count 0 ++ digits).map s.alphabet.symbolFor) := by
    have hfits := (fits_of_extensible hextensible _).mpr hnumeral'.width_le
    exact shaped_map_symbolFor hfits hnumeral'.within
  have hstem := (exists_carries_iff hshaped.mem).mp ⟨text, hcarries⟩
  obtain ⟨id, hid⟩ := (exists_carries_iff hshaped'.mem).mpr hstem
  rw [hcarries.codeOf_eq, hcode]
  refine ⟨id, hid, (s.check_eq_ok_iff id).mpr ⟨_, hshaped', hid⟩, ?_⟩
  rw [decode_of_carries hnumeral' hshaped' hid, decode_of_carries hnumeral hshaped hcarries,
    hnumber]

/-- **Minting undoes decoding up to needless zeros**, and these are the only
    redundancy.  The value of a text is minted to the text without them; the
    minted texts are those that have none; and any number of them can be put in
    front of the code of an extensible identifier. -/
theorem decode_then_mint (s : Scheme) :
    (∀ text n, s.decode text = .ok n →
      n < valueLimit ∧ s.Carries text (s.codeOf text) ∧
      ∃ id, s.mint n = .ok id ∧ s.Carries id (shed s.template.width (s.codeOf text)) ∧
        (s.template.generator.isExtensible = false → id = text) ∧
        (s.template.generator.isExtensible = true → (id = text ↔
          (s.codeOf text).length = s.template.width ∨ (s.codeOf text).head? ≠ some '0'))) ∧
    (∀ text, (∃ n : UInt64, s.mint n.toNat = .ok text) ↔
      (∃ n, s.decode text = .ok n) ∧
        ((s.codeOf text).length = s.template.width ∨ (s.codeOf text).head? ≠ some '0')) ∧
    (s.template.generator.isExtensible = true → ∀ text, s.check text = .ok () → ∀ count,
      ∃ id, s.Carries id (List.replicate count '0' ++ s.codeOf text) ∧
        s.check id = .ok () ∧ s.decode id = s.decode text) := by
  refine ⟨fun text n h => ?_, s.exists_mint_iff, fun hextensible text h count => ?_⟩
  · obtain ⟨hrange, hshaped, htext, id, hmint, hid⟩ := mint_of_decode h
    have hsame := eq_iff_of_carries_shed hshaped htext hid
    refine ⟨hrange, htext, id, hmint, hid, fun hbounded => ?_, fun _ => hsame⟩
    exact hsame.mpr (Or.inl ((fits_of_bounded hbounded _).mp hshaped.fits))
  · exact exists_carries_replicate_zero hextensible h count

/-- In `bc.zedk` the text `bc001008` stands for 290 and is not what is minted for
    it; two zeros are too many, and two more do no harm. -/
theorem specimen_sheds :
    specimen.decode "bc001008" = .ok 290 ∧
      (∃ id, specimen.mint 290 = .ok id ∧ id ≠ "bc001008" ∧
        specimen.Carries id ['1', '0', '0']) ∧
      ∃ id, specimen.Carries id ['0', '0', '0', '0', '1', '0', '0'] ∧
        specimen.decode id = .ok 290 := by
  have hdecode : specimen.decode "bc001008" = .ok 290 := by decide +kernel
  have hcheck : specimen.check "bc001008" = .ok () := by decide +kernel
  have hcode : specimen.codeOf "bc001008" = ['0', '0', '1', '0', '0'] := by decide +kernel
  have hplain : ¬ ((specimen.codeOf "bc001008").length = specimen.template.width ∨
      (specimen.codeOf "bc001008").head? ≠ some '0') := by decide +kernel
  obtain ⟨hmint, -, hzeros⟩ := decode_then_mint specimen
  refine ⟨hdecode, ?_, ?_⟩
  · obtain ⟨-, -, id, hid, hcarries, -, hsame⟩ := hmint _ _ hdecode
    rw [hcode] at hcarries
    exact ⟨id, hid, fun heq => hplain ((hsame rfl).mp heq), hcarries⟩
  · obtain ⟨id, hcarries, -, hvalue⟩ := hzeros rfl _ hcheck 2
    rw [hcode] at hcarries
    exact ⟨id, hcarries, hvalue.trans hdecode⟩

end Scheme

end OpaqueId
