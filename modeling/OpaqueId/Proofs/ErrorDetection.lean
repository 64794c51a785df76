import Mathlib.RingTheory.Int.Basic
import OpaqueId.Proofs.Places

/-! # Error detection: which edits the check symbol notices

    Two kinds of slips are common when identifiers are copied by hand: one
    character is mistaken for another, and two characters change places.  For
    an accepted text of a checked scheme both are decided exactly here.

    * In the stem every slip is noticed, since the stem is compared literally.
    * In the code a slip goes unnoticed only if the classes of the places permit
      the new characters and the size of the alphabet divides a product: the
      position times the change of index for a mistaken character, the distance
      times the difference of the indices for exchanged ones.
    * The check symbol counts −1, as `balanceWeight` has it.  So a mistaken
      check symbol is always noticed, and one that changed places with a
      character of the code is noticed unless the size divides the next
      position times the difference.

    Positions count from one, places from zero. -/

namespace OpaqueId

/-- The text with another character at a place. -/
def Text.replaceAt (text : String) (place : Nat) (c : Char) : String :=
  String.ofList (text.toList.set place c)

/-- The text with the characters of two places exchanged. -/
def Text.swapAt (text : String) (p q : Nat) : String :=
  match text.toList[p]?, text.toList[q]? with
  | some x, some y => String.ofList ((text.toList.set p y).set q x)
  | _, _ => text

/-- Indices stay below the size, so those that agree up to a multiple of it are the same. -/
theorem Alphabet.eq_of_dvd_sub {a : Alphabet} {c d : Char} (hc : c ∈ a.symbols)
    (hd : d ∈ a.symbols) (h : (a.size : ℤ) ∣ a.indexOf c - a.indexOf d) : c = d := by
  have hmod := Nat.modEq_iff_dvd.mpr h
  have hindex := hmod.eq_of_lt_of_lt (a.indexOf_lt_size d) (a.indexOf_lt_size c)
  exact indexOf_injective hc hd hindex.symm

namespace Scheme

/-! ## Accepted texts -/

/-- What is known of the characters of an accepted text. -/
structure Accepted (s : Scheme) (text : String) : Prop where
  /-- every character may stand where it stands -/
  allowed : s.AllowsAll text.toList
  /-- the size divides the balance -/
  balanced : (s.alphabet.size : ℤ) ∣ s.alphabet.balance text.toList
  /-- all characters are symbols -/
  mem : ∀ c ∈ text.toList, c ∈ s.alphabet.symbols
  /-- between stem and check symbol stands the code -/
  length_eq : text.toList.length = s.stem.length + (s.codeOf text).length + 1

/-- An accepted text has symbols at all places, and they are balanced. -/
theorem accepted_of_check {s : Scheme} (hchecked : s.template.checked = true) {text : String}
    (h : s.check text = .ok ()) : s.Accepted text := by
  obtain ⟨code, -, hcarries⟩ := (s.check_eq_ok_iff text).mp h
  have hcode := hcarries.codeOf_eq
  obtain ⟨symbol, hsymbol, htext⟩ := (carries_of_checked hchecked text code).mp hcarries
  rw [← String.ofList_toList (s := text), check_ofList_eq_ok_iff hchecked] at h
  obtain ⟨-, -, hallowed, hbalanced⟩ := h
  refine ⟨hallowed, hbalanced, ?_, ?_⟩
  · rw [htext]
    exact ((s.alphabet.checkSymbolOf_eq_ok_iff _ _).mp hsymbol).1
  · rw [hcode, hcarries.length_eq, if_pos hchecked]

theorem Accepted.index?_eq {s : Scheme} {text : String} (h : s.Accepted text) {place : Nat}
    {c : Char} (hc : text.toList[place]? = some c) :
    s.alphabet.index? c = some (s.alphabet.indexOf c) :=
  Alphabet.index?_of_mem (h.mem c (List.mem_of_getElem? hc))

/-- No second character may stand at a place of the stem. -/
theorem Accepted.eq_of_stem {s : Scheme} {text : String} (h : s.Accepted text) {place : Nat}
    {old new : Char} (hold : text.toList[place]? = some old) (hplace : place < s.stem.length)
    (hnew : s.AllowsAt text.toList.length place new) : new = old := by
  have hstem := (allowsAt_stem hplace old).mp (h.allowed place old hold)
  rw [allowsAt_stem hplace, hstem] at hnew
  exact (Option.some.inj hnew).symm

/-- A place of the code permits what the class there permits. -/
theorem Accepted.allowsAt_iff {s : Scheme} {text : String} (h : s.Accepted text) {place : Nat}
    (hstem : s.stem.length ≤ place) (hplace : place + 1 < text.toList.length) (c : Char) :
    s.AllowsAt text.toList.length place c ↔
      s.PermitsAt (s.codeOf text).length (place - s.stem.length) c := by
  have hlength : text.toList.length - 1 - s.stem.length = (s.codeOf text).length := by
    have := h.length_eq
    omega
  rw [allowsAt_code hstem hplace, hlength]

/-! ## One character replaced -/

/-- A replacement goes unnoticed if its place admits it and the balance stays a multiple of
    the size. -/
theorem check_replaceAt_eq_ok_iff {s : Scheme} (hchecked : s.template.checked = true)
    {text : String} (h : s.check text = .ok ()) {place : Nat} {old : Char}
    (hold : text.toList[place]? = some old) (new : Char) :
    s.check (Text.replaceAt text place new) = .ok () ↔
      s.AllowsAt text.toList.length place new ∧
        (s.alphabet.size : ℤ) ∣ Alphabet.balanceWeight text.toList.length place
          * (s.alphabet.indexOf new - s.alphabet.indexOf old) := by
  have haccepted := accepted_of_check hchecked h
  have hplace := (List.getElem?_eq_some_iff.mp hold).1
  rw [← String.ofList_toList (s := text)] at h
  rw [Text.replaceAt, check_edited_iff hchecked h List.length_set,
    haccepted.allowed.set_iff hplace, Alphabet.balance_set hold,
    Int.dvd_add_right haccepted.balanced]

/-- A replaced character goes unnoticed in the code only. -/
theorem replaced_iff {s : Scheme} (hchecked : s.template.checked = true) {text : String}
    (h : s.check text = .ok ()) {place : Nat} {old new : Char}
    (hold : text.toList[place]? = some old) (hne : new ≠ old) :
    s.check (Text.replaceAt text place new) = .ok () ↔
      s.stem.length ≤ place ∧ place + 1 < text.toList.length ∧
        s.PermitsAt (s.codeOf text).length (place - s.stem.length) new ∧
        (s.alphabet.size : ℤ) ∣
          (place + 1) * (s.alphabet.indexOf new - s.alphabet.indexOf old) := by
  have haccepted := accepted_of_check hchecked h
  rw [check_replaceAt_eq_ok_iff hchecked h hold]
  constructor
  · rintro ⟨hallows, hdvd⟩
    by_cases hstem : place < s.stem.length
    · exact absurd (haccepted.eq_of_stem hold hstem hallows) hne
    have hle := Nat.not_lt.mp hstem
    by_cases hplace : place + 1 < text.toList.length
    · rw [Alphabet.balanceWeight, if_pos hplace] at hdvd
      exact ⟨hle, hplace, (haccepted.allowsAt_iff hle hplace new).mp hallows, hdvd⟩
    · -- the check symbol is determined by the characters in front of it
      rw [allowsAt_last hle (Nat.not_lt.mp hplace)] at hallows
      rw [Alphabet.balanceWeight, if_neg hplace, neg_one_mul, dvd_neg] at hdvd
      have hmem := haccepted.mem old (List.mem_of_getElem? hold)
      exact absurd (Alphabet.eq_of_dvd_sub hallows hmem hdvd) hne
  · rintro ⟨hle, hplace, hpermits, hdvd⟩
    rw [Alphabet.balanceWeight, if_pos hplace]
    exact ⟨(haccepted.allowsAt_iff hle hplace new).mpr hpermits, hdvd⟩

/-- **Which mistaken characters go unnoticed.**  Exactly those in the code that
    the class of their place permits and whose index differs from the right one
    by a number that gives a multiple of the size when it is taken times the
    position.  In the stem and at the check symbol none does; nor where the size
    is a prime number, such as that of the default alphabet, and does not divide
    the position. -/
theorem check_replaceAt (s : Scheme) (hchecked : s.template.checked = true) (text : String)
    (h : s.check text = .ok ()) (place : Nat) (old new : Char)
    (hold : text.toList[place]? = some old) (hne : new ≠ old) :
    (s.check (Text.replaceAt text place new) = .ok () ↔
      s.stem.length ≤ place ∧ place + 1 < text.length ∧
        s.PermitsAt (s.codeOf text).length (place - s.stem.length) new ∧
        ∃ i j, s.alphabet.index? old = some i ∧ s.alphabet.index? new = some j ∧
          (s.alphabet.size : ℤ) ∣ (place + 1) * (j - i)) ∧
    (place < s.stem.length ∨ place + 1 = text.length →
      s.check (Text.replaceAt text place new) ≠ .ok ()) ∧
    (s.alphabet.size.Prime → ¬ s.alphabet.size ∣ place + 1 →
      s.check (Text.replaceAt text place new) ≠ .ok ()) ∧
    Alphabet.betanumeric.size.Prime := by
  have haccepted := accepted_of_check hchecked h
  have hindex := haccepted.index?_eq hold
  have hunnoticed := replaced_iff hchecked h hold hne
  rw [← String.length_toList]
  refine ⟨⟨?_, ?_⟩, ?_, ?_, by decide⟩
  · intro hok
    obtain ⟨hle, hplace, hpermits, hdvd⟩ := hunnoticed.mp hok
    exact ⟨hle, hplace, hpermits, _, _, hindex, Alphabet.index?_of_mem hpermits.mem, hdvd⟩
  · rintro ⟨hle, hplace, hpermits, i, j, hi, hj, hdvd⟩
    rw [← Alphabet.indexOf_of_index? hi, ← Alphabet.indexOf_of_index? hj] at hdvd
    exact hunnoticed.mpr ⟨hle, hplace, hpermits, hdvd⟩
  · intro houtside hok
    obtain ⟨hle, hplace, -⟩ := hunnoticed.mp hok
    omega
  · intro hprime hposition hok
    obtain ⟨-, -, hpermits, hdvd⟩ := hunnoticed.mp hok
    -- a prime divides the position or the difference of two indices below it
    rcases Int.Prime.dvd_mul' hprime hdvd with hdvd | hdvd
    · exact hposition (by exact_mod_cast hdvd)
    · have hmem := haccepted.mem old (List.mem_of_getElem? hold)
      exact hne (Alphabet.eq_of_dvd_sub hpermits.mem hmem hdvd)

/-- The scheme `4.sdddddk` over the ten digits, whose size is no prime number. -/
def decimalSpecimen : Scheme :=
  ⟨⟨"4", .sequential, [.decimal, .decimal, .decimal, .decimal, .decimal], true⟩,
    ⟨decimalDigits, rfl, by decide⟩, by decide⟩

/-- In `4.sdddddk` a zero that is mistaken for a two goes unnoticed at the fifth
    position and is noticed at the fourth. -/
theorem decimalSpecimen_replaced :
    decimalSpecimen.check "4000004" = .ok () ∧
      decimalSpecimen.check (Text.replaceAt "4000004" 4 '2') = .ok () ∧
      decimalSpecimen.check (Text.replaceAt "4000004" 3 '2') ≠ .ok () := by
  have hcheck : decimalSpecimen.check "4000004" = .ok () := by decide +kernel
  obtain ⟨hfifth, -⟩ :=
    check_replaceAt decimalSpecimen rfl _ hcheck 4 '0' '2' (by decide +kernel) (by decide)
  obtain ⟨hfourth, -⟩ :=
    check_replaceAt decimalSpecimen rfl _ hcheck 3 '0' '2' (by decide +kernel) (by decide)
  refine ⟨hcheck, hfifth.mpr ?_, fun hok => ?_⟩
  · refine ⟨by decide +kernel, by decide +kernel, ⟨.decimal, by decide +kernel, ?_⟩, 0, 2, ?_⟩
    · exact (SymbolClass.allows_iff_permits _ .decimal '2').mp rfl
    · exact ⟨rfl, rfl, by decide⟩
  · obtain ⟨-, -, -, i, j, hi, hj, hdvd⟩ := hfourth.mp hok
    have hi' : i = 0 := (Option.some.inj hi).symm
    have hj' : j = 2 := (Option.some.inj hj).symm
    rw [hi', hj'] at hdvd
    exact absurd hdvd (by decide)

/-! ## Two characters exchanged -/

theorem Text.swapAt_eq {text : String} {p q : Nat} {x y : Char}
    (hp : text.toList[p]? = some x) (hq : text.toList[q]? = some y) :
    Text.swapAt text p q = String.ofList ((text.toList.set p y).set q x) := by
  rw [Text.swapAt, hp, hq]

/-- A swap goes unnoticed if both places admit it and the balance stays a multiple of the
    size. -/
theorem check_swapAt_eq_ok_iff {s : Scheme} (hchecked : s.template.checked = true)
    {text : String} (h : s.check text = .ok ()) {p q : Nat} {x y : Char}
    (hp : text.toList[p]? = some x) (hq : text.toList[q]? = some y) (hne : p ≠ q) :
    s.check (Text.swapAt text p q) = .ok () ↔
      (s.AllowsAt text.toList.length p y ∧ s.AllowsAt text.toList.length q x) ∧
        (s.alphabet.size : ℤ) ∣ (Alphabet.balanceWeight text.toList.length q
          - Alphabet.balanceWeight text.toList.length p)
          * (s.alphabet.indexOf x - s.alphabet.indexOf y) := by
  have haccepted := accepted_of_check hchecked h
  have hp' := (List.getElem?_eq_some_iff.mp hp).1
  have hq' := (List.getElem?_eq_some_iff.mp hq).1
  have hlength : ((text.toList.set p y).set q x).length = text.toList.length := by
    rw [List.length_set, List.length_set]
  rw [← String.ofList_toList (s := text)] at h
  rw [Text.swapAt_eq hp hq, check_edited_iff hchecked h hlength,
    haccepted.allowed.swap_iff hp' hq' hne, Alphabet.balance_swap hp hq hne,
    Int.dvd_add_right haccepted.balanced]

/-- An exchange that reaches into the stem is noticed. -/
theorem swapped_stem {s : Scheme} (hchecked : s.template.checked = true) {text : String}
    (h : s.check text = .ok ()) {p q : Nat} {x y : Char} (hp : text.toList[p]? = some x)
    (hq : text.toList[q]? = some y) (hlt : p < q) (hne : x ≠ y) (hstem : p < s.stem.length) :
    s.check (Text.swapAt text p q) ≠ .ok () := by
  intro hok
  obtain ⟨⟨hallows, -⟩, -⟩ := (check_swapAt_eq_ok_iff hchecked h hp hq (Nat.ne_of_lt hlt)).mp hok
  exact hne ((accepted_of_check hchecked h).eq_of_stem hp hstem hallows).symm

/-- An exchange inside the code. -/
theorem swapped_code_iff {s : Scheme} (hchecked : s.template.checked = true) {text : String}
    (h : s.check text = .ok ()) {p q : Nat} {x y : Char} (hp : text.toList[p]? = some x)
    (hq : text.toList[q]? = some y) (hlt : p < q) (hstem : s.stem.length ≤ p)
    (hlast : q + 1 < text.toList.length) :
    s.check (Text.swapAt text p q) = .ok () ↔
      s.PermitsAt (s.codeOf text).length (p - s.stem.length) y ∧
        s.PermitsAt (s.codeOf text).length (q - s.stem.length) x ∧
        (s.alphabet.size : ℤ) ∣ (q - p) * (s.alphabet.indexOf x - s.alphabet.indexOf y) := by
  have haccepted := accepted_of_check hchecked h
  have hweights : Alphabet.balanceWeight text.toList.length q
      - Alphabet.balanceWeight text.toList.length p = q - p := by
    rw [Alphabet.balanceWeight, Alphabet.balanceWeight, if_pos hlast, if_pos (by omega)]
    ring
  rw [check_swapAt_eq_ok_iff hchecked h hp hq (Nat.ne_of_lt hlt), hweights,
    haccepted.allowsAt_iff hstem (by omega), haccepted.allowsAt_iff (by omega) hlast, and_assoc]

/-- An exchange of a character of the code with the check symbol. -/
theorem swapped_check_iff {s : Scheme} (hchecked : s.template.checked = true) {text : String}
    (h : s.check text = .ok ()) {p q : Nat} {x y : Char} (hp : text.toList[p]? = some x)
    (hq : text.toList[q]? = some y) (hlt : p < q) (hstem : s.stem.length ≤ p)
    (hlast : q + 1 = text.toList.length) :
    s.check (Text.swapAt text p q) = .ok () ↔
      s.PermitsAt (s.codeOf text).length (p - s.stem.length) y ∧
        (s.alphabet.size : ℤ) ∣
          (p + 1 + 1) * (s.alphabet.indexOf x - s.alphabet.indexOf y) := by
  have haccepted := accepted_of_check hchecked h
  -- the two weights are −1 and the position of the character
  have hweights : Alphabet.balanceWeight text.toList.length q
      - Alphabet.balanceWeight text.toList.length p = -(p + 1 + 1) := by
    rw [Alphabet.balanceWeight, Alphabet.balanceWeight, if_neg (by omega), if_pos (by omega)]
    ring
  have hx : s.AllowsAt text.toList.length q x := by
    rw [allowsAt_last (by omega) (by omega)]
    exact haccepted.mem x (List.mem_of_getElem? hp)
  rw [check_swapAt_eq_ok_iff hchecked h hp hq (Nat.ne_of_lt hlt), hweights, neg_mul, dvd_neg,
    haccepted.allowsAt_iff hstem (by omega), and_iff_left hx]

/-- **Which exchanged characters go unnoticed.**  None if one of them stood in
    the stem.  Inside the code exactly those that the classes of their new
    places permit, if the size divides the distance times the difference of the
    indices; so neighbours are never exchanged unnoticed.  A character of the
    code and the check symbol if the class permits the new character and the
    size divides the next position times the difference. -/
theorem check_swapAt (s : Scheme) (hchecked : s.template.checked = true) (text : String)
    (h : s.check text = .ok ()) (p q : Nat) (x y : Char) (hp : text.toList[p]? = some x)
    (hq : text.toList[q]? = some y) (hlt : p < q) (hne : x ≠ y) :
    (p < s.stem.length → s.check (Text.swapAt text p q) ≠ .ok ()) ∧
    ∃ a b, s.alphabet.index? x = some a ∧ s.alphabet.index? y = some b ∧
      (s.stem.length ≤ p →
        (q + 1 < text.length → (s.check (Text.swapAt text p q) = .ok () ↔
          s.PermitsAt (s.codeOf text).length (p - s.stem.length) y ∧
            s.PermitsAt (s.codeOf text).length (q - s.stem.length) x ∧
            (s.alphabet.size : ℤ) ∣ (q - p) * (a - b))) ∧
        (q + 1 = text.length → (s.check (Text.swapAt text p q) = .ok () ↔
          s.PermitsAt (s.codeOf text).length (p - s.stem.length) y ∧
            (s.alphabet.size : ℤ) ∣ (p + 1 + 1) * (a - b))) ∧
        (q = p + 1 → q + 1 < text.length → s.check (Text.swapAt text p q) ≠ .ok ())) := by
  have haccepted := accepted_of_check hchecked h
  rw [← String.length_toList]
  refine ⟨swapped_stem hchecked h hp hq hlt hne, _, _, haccepted.index?_eq hp,
    haccepted.index?_eq hq, fun hstem => ⟨?_, ?_, ?_⟩⟩
  · intro hlast
    exact swapped_code_iff hchecked h hp hq hlt hstem hlast
  · intro hlast
    exact swapped_check_iff hchecked h hp hq hlt hstem hlast
  · intro hnext hlast hok
    obtain ⟨-, -, hdvd⟩ := (swapped_code_iff hchecked h hp hq hlt hstem hlast).mp hok
    -- neighbours have distance one, so the indices would have to agree
    have hdistance : (q : ℤ) - p = 1 := by omega
    rw [hdistance, one_mul] at hdvd
    have hx := haccepted.mem x (List.mem_of_getElem? hp)
    have hy := haccepted.mem y (List.mem_of_getElem? hq)
    exact hne (Alphabet.eq_of_dvd_sub hx hy hdvd)

/-- In `4.sdddddk` a five and a zero two places further are exchanged unnoticed,
    and so are a two at the fourth position and a zero for check symbol; two
    neighbours are not. -/
theorem decimalSpecimen_swapped :
    decimalSpecimen.check (Text.swapAt "4500004" 1 3) = .ok () ∧
      decimalSpecimen.check (Text.swapAt "4402000" 3 6) = .ok () ∧
      decimalSpecimen.check (Text.swapAt "4500004" 1 2) ≠ .ok () := by
  have hpermits : ∀ c, SymbolClass.decimal.allows decimalSpecimen.alphabet c = true →
      SymbolClass.decimal.Permits decimalSpecimen.alphabet c :=
    fun c => (SymbolClass.allows_iff_permits _ .decimal c).mp
  have hfive : decimalSpecimen.check "4500004" = .ok () := by decide +kernel
  have htwo : decimalSpecimen.check "4402000" = .ok () := by decide +kernel
  refine ⟨?_, ?_, ?_⟩
  · obtain ⟨-, a, b, ha, hb, hcode⟩ := check_swapAt decimalSpecimen rfl _ hfive 1 3 '5' '0'
      (by decide +kernel) (by decide +kernel) (by decide) (by decide)
    have ha' : a = 5 := (Option.some.inj ha).symm
    have hb' : b = 0 := (Option.some.inj hb).symm
    refine ((hcode (by decide +kernel)).1 (by decide +kernel)).mpr ⟨?_, ?_, ?_⟩
    · exact ⟨.decimal, by decide +kernel, hpermits '0' rfl⟩
    · exact ⟨.decimal, by decide +kernel, hpermits '5' rfl⟩
    · rw [ha', hb']
      decide
  · obtain ⟨-, a, b, ha, hb, hcode⟩ := check_swapAt decimalSpecimen rfl _ htwo 3 6 '2' '0'
      (by decide +kernel) (by decide +kernel) (by decide) (by decide)
    have ha' : a = 2 := (Option.some.inj ha).symm
    have hb' : b = 0 := (Option.some.inj hb).symm
    refine ((hcode (by decide +kernel)).2.1 (by decide +kernel)).mpr ⟨?_, ?_⟩
    · exact ⟨.decimal, by decide +kernel, hpermits '0' rfl⟩
    · rw [ha', hb']
      decide
  · obtain ⟨-, a, b, -, -, hcode⟩ := check_swapAt decimalSpecimen rfl _ hfive 1 2 '5' '0'
      (by decide +kernel) (by decide +kernel) (by decide) (by decide)
    exact (hcode (by decide +kernel)).2.2 rfl (by decide +kernel)

end Scheme

end OpaqueId
