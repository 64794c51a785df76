import Mathlib.Data.List.Forall2
import Mathlib.Data.Nat.Digits.Lemmas
import OpaqueId.MixedRadix

/-! # Mixed radix: one numeral for every number

    Digits that stay below their bases (`Within`) are determined by what they
    stand for.  The route:

    * `split` over bases in two parts runs the back part first and hands what
      is left over to the front part (`split_append`);
    * reading digits `Within` their bases stays below the volume of the bases
      (`value_lt_volume`), so that splitting such a value gives the digits
      back (`split_value`);
    * the bounded reader fails exactly when the exact value is too large
      (`valueBelow?_eq`), since values never shrink while they are read;
    * `length` is the least number of digits that holds a number
      (`length_le_iff`). -/

namespace OpaqueId.MixedRadix

/-- Every digit stays below the base of its position, and there is one digit
    per base. -/
def Within (bases digits : List Nat) : Prop :=
  List.Forall₂ (fun base digit => digit < base) bases digits

/-- There is a digit for each base. -/
theorem Within.length_eq {bases digits : List Nat} (h : Within bases digits) :
    digits.length = bases.length :=
  (List.Forall₂.length_eq h).symm

/-- Digits stay below what no base exceeds. -/
theorem Within.lt_of_le {bases digits : List Nat} (h : Within bases digits) {bound : Nat}
    (hbound : ∀ base ∈ bases, base ≤ bound) : ∀ digit ∈ digits, digit < bound := by
  induction h with
  | nil => exact List.forall_mem_nil _
  | cons hdigit _ ih =>
      obtain ⟨hbase, hrest⟩ := List.forall_mem_cons.mp hbound
      exact List.forall_mem_cons.mpr ⟨hdigit.trans_le hbase, ih hrest⟩

/-! ## Volumes -/

theorem volume_eq_prod (bases : List Nat) : volume bases = bases.prod := by
  induction bases with
  | nil => rfl
  | cons base bases ih => rw [volume, List.prod_cons, ih]

/-- The volumes of two groups of positions are multiplied. -/
theorem volume_append (front back : List Nat) :
    volume (front ++ back) = volume front * volume back := by
  rw [volume_eq_prod, volume_eq_prod, volume_eq_prod, List.prod_append_nat]

/-- Positions of one base have the volume of a power. -/
theorem volume_replicate (count base : Nat) :
    volume (List.replicate count base) = base ^ count := by
  rw [volume_eq_prod, List.prod_replicate_nat]

theorem volume_pos {bases : List Nat} (hpos : ∀ base ∈ bases, 0 < base) :
    0 < volume bases := by
  induction bases with
  | nil => exact Nat.one_pos
  | cons base bases ih =>
      have hbase : 0 < base := hpos base (List.mem_cons_self ..)
      have hrest : 0 < volume bases := ih fun b hb => hpos b (List.mem_cons_of_mem _ hb)
      exact Nat.mul_pos hbase hrest

/-! ## Splitting -/

/-- The back positions are written first; the front positions write what is
    left over from them. -/
theorem split_append (front back : List Nat) (n : Nat) :
    split (front ++ back) n =
      ((split front (split back n).2).1 ++ (split back n).1,
        (split front (split back n).2).2) := by
  induction front with
  | nil => rfl
  | cons base front ih =>
      rw [List.cons_append, split_cons, ih, split_cons]
      rfl

/-- What is left over is the number divided by the volume of the bases. -/
theorem split_snd (bases : List Nat) (n : Nat) :
    (split bases n).2 = n / volume bases := by
  induction bases with
  | nil => exact (Nat.div_one n).symm
  | cons base bases ih =>
      rw [split_cons, volume, ih, Nat.div_div_eq_div_mul, Nat.mul_comm]

/-- The digits that are split off stay below their bases. -/
theorem within_split {bases : List Nat} (hpos : ∀ base ∈ bases, 0 < base) (n : Nat) :
    Within bases (split bases n).1 := by
  induction bases with
  | nil => exact List.Forall₂.nil
  | cons base bases ih =>
      rw [split_cons]
      refine List.Forall₂.cons ?_ ?_
      · exact Nat.mod_lt _ (hpos base (List.mem_cons_self ..))
      · exact ih fun b hb => hpos b (List.mem_cons_of_mem _ hb)

/-! ## Reading back -/

/-- Digits below their bases stand for a number below the volume. -/
theorem value_lt_volume {bases digits : List Nat} (h : Within bases digits) :
    value bases digits < volume bases := by
  induction h with
  | nil => exact Nat.one_pos
  | @cons base digit bases digits hdigit hrest ih =>
      rw [value_cons _ _ _ _ (Within.length_eq hrest), volume]
      calc digit * volume bases + value bases digits
          < digit * volume bases + volume bases := Nat.add_lt_add_left ih _
        _ = (digit + 1) * volume bases := (Nat.succ_mul _ _).symm
        _ ≤ base * volume bases := Nat.mul_le_mul_right _ hdigit

/-- Splitting a value gives back its digits, and leaves over what stood in
    front of them. -/
theorem split_value {bases digits : List Nat} (h : Within bases digits) (left : Nat) :
    split bases (left * volume bases + value bases digits) = (digits, left) := by
  induction h generalizing left with
  | nil => simp [split, volume, value]
  | @cons base digit bases digits hdigit hrest ih =>
      -- the leading digit joins what stands in front of it
      have hjoin : left * volume (base :: bases) + value (base :: bases) (digit :: digits)
          = (left * base + digit) * volume bases + value bases digits := by
        rw [value_cons _ _ _ _ (Within.length_eq hrest), volume]
        ring
      have hmod : (left * base + digit) % base = digit := Nat.mul_add_mod_of_lt hdigit
      have hdiv : (left * base + digit) / base = left := by
        rw [Nat.mul_comm, Nat.mul_add_div (Nat.zero_lt_of_lt hdigit),
          Nat.div_eq_of_lt hdigit, Nat.add_zero]
      rw [hjoin, split_cons, ih, hmod, hdiv]

/-- Digits below their bases are determined by their value. -/
theorem value_injective {bases ds es : List Nat} (hds : Within bases ds)
    (hes : Within bases es) (h : value bases ds = value bases es) : ds = es := by
  have hsplit := split_value hds 0
  rw [h, split_value hes 0] at hsplit
  exact (congrArg Prod.fst hsplit).symm

/-! ## Reading with a bound -/

/-- A number does not shrink while further digits are read. -/
theorem le_foldl_value (pairs : List (Nat × Nat)) (start : Nat)
    (hpos : ∀ pair ∈ pairs, 0 < pair.1) :
    start ≤ pairs.foldl (fun v (base, digit) => v * base + digit) start := by
  induction pairs generalizing start with
  | nil => exact Nat.le_refl start
  | cons pair pairs ih =>
      have hpair : 0 < pair.1 := hpos pair (List.mem_cons_self ..)
      have hstep : start ≤ start * pair.1 + pair.2 :=
        Nat.le_add_right_of_le (Nat.le_mul_of_pos_right start hpair)
      exact hstep.trans (ih _ fun p hp => hpos p (List.mem_cons_of_mem _ hp))

/-- Checking the bound at every step is checking it at the end. -/
theorem foldlM_below (limit : Nat) (pairs : List (Nat × Nat)) (start : Nat)
    (hpos : ∀ pair ∈ pairs, 0 < pair.1) (hstart : start < limit) :
    pairs.foldlM (fun v (base, digit) =>
        if v * base + digit < limit then some (v * base + digit) else none) start
      = if pairs.foldl (fun v (base, digit) => v * base + digit) start < limit
        then some (pairs.foldl (fun v (base, digit) => v * base + digit) start)
        else none := by
  induction pairs generalizing start with
  | nil => exact (if_pos hstart).symm
  | cons pair pairs ih =>
      obtain ⟨base, digit⟩ := pair
      have hrest : ∀ pair ∈ pairs, 0 < pair.1 :=
        fun p hp => hpos p (List.mem_cons_of_mem _ hp)
      rw [List.foldlM_cons, List.foldl_cons]
      dsimp only
      by_cases hstep : start * base + digit < limit
      · rw [if_pos hstep]
        exact ih _ hrest hstep
      · have hend := le_foldl_value pairs (start * base + digit) hrest
        rw [if_neg hstep, if_neg (Nat.not_lt.mpr ((Nat.not_lt.mp hstep).trans hend))]
        rfl

/-- The bounded reader reads exactly the values below the bound. -/
theorem valueBelow?_eq {limit : Nat} (hlimit : 0 < limit) {bases : List Nat}
    (hpos : ∀ base ∈ bases, 0 < base) (digits : List Nat) :
    valueBelow? limit bases digits =
      if value bases digits < limit then some (value bases digits) else none :=
  foldlM_below limit (bases.zip digits) 0
    (fun _ hpair => hpos _ (List.of_mem_zip hpair).1) hlimit

/-! ## Lengths in one base -/

/-- The length of a number is that of its numeral in the base. -/
theorem length_eq_length_digits {base : Nat} (hbase : 1 < base) (n : Nat) :
    length base n = (Nat.digits base n).length := by
  induction n using Nat.strongRecOn with
  | ind n ih =>
      rw [length]
      by_cases hn : n = 0
      · rw [dif_pos (Or.inl hn), hn, Nat.digits_zero, List.length_nil]
      · have hlt : n / base < n := Nat.div_lt_self (Nat.pos_of_ne_zero hn) hbase
        rw [dif_neg (by omega), Nat.digits_def' hbase (Nat.pos_of_ne_zero hn),
          List.length_cons, ih _ hlt]

/-- The length of a number is the least number of digits that can hold it. -/
theorem length_le_iff {base : Nat} (hbase : 1 < base) (n count : Nat) :
    length base n ≤ count ↔ n < base ^ count := by
  rw [length_eq_length_digits hbase, Nat.digits_length_le_iff hbase]

end OpaqueId.MixedRadix
