import OpaqueId.Scheme.Mint
import OpaqueId.Scheme.Recognition
import OpaqueId.Proofs.Symbols

/-! # Shapes: which codes follow the mask

    A code has the shape of a mask (`Scheme.Shaped`) if its length is one that
    the generator allows, if its last positions follow the mask class by class,
    and if every position in front of them follows the last class.  This is
    what the scheme tests with the class list of the whole code
    (`allowsCode_iff_shaped`), and it fixes the digits of a code: one below
    each base, and no other (`Shaped.exists_digits`, `shaped_map_symbolFor`). -/

namespace OpaqueId.Scheme

open MixedRadix

/-- The last class of the mask, which governs every position in front of it. -/
def lastClass (s : Scheme) : SymbolClass := s.template.mask.getLast s.mask_ne_nil

/-- The mask is not empty, so the default for its last class is never taken. -/
theorem getLast?_getD_mask (s : Scheme) :
    s.template.mask.getLast?.getD .decimal = s.lastClass := by
  rw [List.getLast?_eq_some_getLast s.mask_ne_nil]
  rfl

theorem lastBase_eq (s : Scheme) : s.lastBase = s.lastClass.base s.alphabet := by
  rw [lastBase, getLast?_getD_mask]

/-- Positions in front of the mask have its last class. -/
theorem classesFor_eq (s : Scheme) (length : Nat) :
    s.template.classesFor length =
      List.replicate (length - s.template.width) s.lastClass ++ s.template.mask := by
  rw [Template.classesFor, getLast?_getD_mask]

/-- The bases of a code are those of the mask, behind as many copies of the
    last one as the code is longer than the mask. -/
theorem basesFor_eq (s : Scheme) (length : Nat) :
    s.basesFor length =
      List.replicate (length - s.template.width) s.lastBase ++ s.bases := by
  rw [basesFor, classesFor_eq, List.map_append, List.map_replicate, ← lastBase_eq, bases]

@[simp] theorem basesFor_width (s : Scheme) : s.basesFor s.template.width = s.bases := by
  rw [basesFor_eq, Nat.sub_self]
  rfl

/-- The last base is more than one, so every position in front of the mask makes room. -/
theorem one_lt_lastBase (s : Scheme) : 1 < s.lastBase := by
  have := SymbolClass.ten_le_base s.alphabet s.lastClass
  rw [lastBase_eq]
  omega

/-- All bases are positive, so that there is always room. -/
theorem basesFor_pos (s : Scheme) (length : Nat) : ∀ base ∈ s.basesFor length, 0 < base := by
  intro base hbase
  obtain ⟨k, -, rfl⟩ := List.mem_map.mp hbase
  have := SymbolClass.ten_le_base s.alphabet k
  omega

theorem bases_pos (s : Scheme) : ∀ base ∈ s.bases, 0 < base := by
  rw [← basesFor_width]
  exact s.basesFor_pos _

theorem volume_bases_pos (s : Scheme) : 0 < volume s.bases := volume_pos s.bases_pos

/-- A code of this length fits the mask: it is as long as the mask, or longer
    if the generator is extensible. -/
def Fits (s : Scheme) (length : Nat) : Prop :=
  if s.template.generator.isExtensible then s.template.width ≤ length
  else length = s.template.width

/-- An extensible code is as long as the mask, or longer. -/
theorem fits_of_extensible {s : Scheme} (h : s.template.generator.isExtensible = true)
    (length : Nat) : s.Fits length ↔ s.template.width ≤ length := by
  rw [Fits, if_pos h]

/-- A bounded code is as long as the mask. -/
theorem fits_of_bounded {s : Scheme} (h : s.template.generator.isExtensible = false)
    (length : Nat) : s.Fits length ↔ length = s.template.width := by
  rw [Fits, if_neg (by rw [h]; exact Bool.false_ne_true)]

/-- No code is shorter than the mask. -/
theorem Fits.width_le {s : Scheme} {length : Nat} (h : s.Fits length) :
    s.template.width ≤ length := by
  cases hextensible : s.template.generator.isExtensible with
  | true => exact (fits_of_extensible hextensible length).mp h
  | false => exact ((fits_of_bounded hextensible length).mp h).ge

/-- A code in the shape of the mask. -/
structure Shaped (s : Scheme) (code : List Char) : Prop where
  /-- its length fits the mask -/
  fits : s.Fits code.length
  /-- the last positions follow the mask, class by class -/
  mask : s.alphabet.Follows s.template.mask (code.drop (code.length - s.template.width))
  /-- the positions in front of them follow the last class -/
  front : ∀ c ∈ code.take (code.length - s.template.width), s.lastClass.Permits s.alphabet c

/-! ## The shape, tested class by class -/

/-- Following a list of classes that begins with copies of one class. -/
theorem follows_replicate_append_iff (a : Alphabet) (count : Nat) (k : SymbolClass)
    (classes : List SymbolClass) (code : List Char) (hcount : count ≤ code.length) :
    a.Follows (List.replicate count k ++ classes) code ↔
      (∀ c ∈ code.take count, k.Permits a c) ∧ a.Follows classes (code.drop count) := by
  induction count generalizing code with
  | zero => simp
  | succ count ih =>
      cases code with
      | nil => exact absurd hcount (by simp)
      | cons c code =>
          -- one copy of the class takes one character off the code
          have hrest := ih code (by simpa using hcount)
          rw [List.replicate_succ, List.cons_append, List.take_succ_cons, List.drop_succ_cons,
            List.forall_mem_cons, and_assoc, ← hrest]
          exact List.forall₂_cons

/-- Symbols are allowed one by one. -/
theorem zip_all_allows_iff (a : Alphabet) {classes : List SymbolClass} {code : List Char}
    (hlen : classes.length = code.length) :
    ((classes.zip code).all fun (k, c) => k.allows a c) = true ↔ a.Follows classes code := by
  rw [Alphabet.Follows, List.forall₂_iff_zip, List.all_eq_true]
  constructor
  · intro h
    exact ⟨hlen, fun hmem => (SymbolClass.allows_iff_permits a _ _).mp (h _ hmem)⟩
  · rintro ⟨-, h⟩ ⟨k, c⟩ hmem
    exact (SymbolClass.allows_iff_permits a k c).mpr (h hmem)

/-- A length is allowed exactly if it fits. -/
theorem allowsLength_iff_fits (s : Scheme) (length : Nat) :
    s.allowsLength length = true ↔ s.Fits length := by
  rw [allowsLength, Fits]
  split <;> exact decide_eq_true_iff

theorem length_classesFor (s : Scheme) {length : Nat} (h : s.template.width ≤ length) :
    (s.template.classesFor length).length = length := by
  rw [classesFor_eq, List.length_append, List.length_replicate]
  exact Nat.sub_add_cancel h

/-- The shape of a code is an allowed length and one class list to follow. -/
theorem shaped_iff_follows (s : Scheme) (code : List Char) :
    s.Shaped code ↔
      s.Fits code.length ∧ s.alphabet.Follows (s.template.classesFor code.length) code := by
  rw [classesFor_eq,
    follows_replicate_append_iff _ _ _ _ _ (Nat.sub_le code.length s.template.width)]
  constructor
  · rintro ⟨hfits, hmask, hfront⟩
    exact ⟨hfits, hfront, hmask⟩
  · rintro ⟨hfits, hfront, hmask⟩
    exact ⟨hfits, hmask, hfront⟩

/-- The scheme allows exactly the codes in the shape of its mask. -/
theorem allowsCode_iff_shaped (s : Scheme) (code : List Char) :
    s.allowsCode code = true ↔ s.Shaped code := by
  rw [allowsCode, Bool.and_eq_true, allowsLength_iff_fits, shaped_iff_follows]
  refine and_congr_right fun hfits => ?_
  exact zip_all_allows_iff s.alphabet (s.length_classesFor hfits.width_le)

/-- A code in shape is made of symbols. -/
theorem Shaped.mem {s : Scheme} {code : List Char} (h : s.Shaped code) :
    ∀ c ∈ code, c ∈ s.alphabet.symbols :=
  Alphabet.Follows.mem ((shaped_iff_follows s code).mp h).2

/-- What may stand behind the stem: a shaped code, and behind it one symbol of
    the alphabet if the scheme is checked. -/
def ShapedRest (s : Scheme) (rest : List Char) : Prop :=
  if s.template.checked then
    ∃ code actual, rest = code ++ [actual] ∧ s.Shaped code ∧ actual ∈ s.alphabet.symbols
  else s.Shaped rest

/-! ## The digits of a shaped code -/

/-- A shaped code is written with digits below the bases of its positions. -/
theorem Shaped.exists_digits {s : Scheme} {code : List Char} (h : s.Shaped code) :
    ∃ digits, Within (s.basesFor code.length) digits ∧
      code = digits.map s.alphabet.symbolFor :=
  (s.alphabet.follows_iff_exists_digits _ code).mp ((shaped_iff_follows s code).mp h).2

/-- Digits below the bases of an allowed length are written as a shaped code. -/
theorem shaped_map_symbolFor {s : Scheme} {digits : List Nat}
    (hfits : s.Fits digits.length) (h : Within (s.basesFor digits.length) digits) :
    s.Shaped (digits.map s.alphabet.symbolFor) := by
  rw [shaped_iff_follows, List.length_map]
  exact ⟨hfits, (s.alphabet.follows_iff_exists_digits _ _).mpr ⟨digits, h, rfl⟩⟩

/-- Symbols are read back as their digits. -/
theorem digitsOf?_map_symbolFor {s : Scheme} {length : Nat} {digits : List Nat}
    (h : Within (s.basesFor length) digits) :
    s.digitsOf? (digits.map s.alphabet.symbolFor) = some digits :=
  Alphabet.mapM_index?_symbolFor (Alphabet.lt_size_of_within h)

end OpaqueId.Scheme
