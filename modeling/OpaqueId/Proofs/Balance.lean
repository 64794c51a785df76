import Mathlib.Data.Int.ModEq
import OpaqueId.Proofs.CheckSymbol

/-! # Balance: the check symbol as one divisibility

    The check symbol closes a sum.  Every character of a text counts its index
    times its position, and the check symbol behind them counts its index once,
    to the other side; the symbol is the right one exactly if the size of the
    alphabet divides what comes out (`checkSymbolOf_eq_ok_iff`).

    So the last character behaves like any other one, with the weight −1
    instead of its position (`balanceWeight`), and an edit changes the balance
    by the weights of the places that it touches: by the weight times the
    change of index where one character is replaced (`balance_set`), and by the
    difference of two weights times the difference of two indices where two
    characters change places (`balance_swap`). -/

namespace OpaqueId.Alphabet

/-- The index of a character; a foreign character counts nothing. -/
def indexOf (a : Alphabet) (c : Char) : Nat := (a.index? c).getD 0

theorem indexOf_of_index? {a : Alphabet} {c : Char} {index : Nat}
    (h : a.index? c = some index) : a.indexOf c = index := by
  rw [indexOf, h]
  rfl

/-- A symbol is found at its index. -/
theorem index?_of_mem {a : Alphabet} {c : Char} (h : c ∈ a.symbols) :
    a.index? c = some (a.indexOf c) := by
  rw [← a.contains_iff_mem, contains, Option.isSome_iff_exists] at h
  obtain ⟨index, hindex⟩ := h
  rw [indexOf_of_index? hindex]
  exact hindex

/-- An index stays below the size even if the symbol is foreign. -/
theorem indexOf_lt_size (a : Alphabet) (c : Char) : a.indexOf c < a.size := by
  cases h : a.index? c with
  | none =>
      rw [indexOf, h]
      exact a.size_pos
  | some index =>
      rw [indexOf_of_index? h]
      exact index?_lt_size h

theorem indexOf_injective {a : Alphabet} {c d : Char} (hc : c ∈ a.symbols)
    (hd : d ∈ a.symbols) (h : a.indexOf c = a.indexOf d) : c = d := by
  have hsame := index?_of_mem hd
  rw [← h] at hsame
  exact (symbolFor_of_index? (index?_of_mem hc)).symm.trans (symbolFor_of_index? hsame)

/-! ## The exact sum -/

/-- The running sum is the exact sum, reduced once at the end. -/
theorem runningSum_eq {a : Alphabet} {text : List Char} (h : ∀ c ∈ text, c ∈ a.symbols)
    (position : Nat) {sum : Nat} (hsum : sum < a.size) :
    a.runningSum text position sum =
      .ok ((sum + weightedSum (text.map a.indexOf) position) % a.size) := by
  induction text generalizing position sum with
  | nil =>
      rw [runningSum, List.map_nil, weightedSum, Nat.add_zero, Nat.mod_eq_of_lt hsum]
  | cons c text ih =>
      obtain ⟨hc, htext⟩ := List.forall_mem_cons.mp h
      rw [runningSum, index?_of_mem hc]
      dsimp only
      rw [ih htext (position + 1) (Nat.mod_lt _ a.size_pos), List.map_cons, weightedSum]
      -- neither the reduced weight nor the reduced sum is felt modulo the size
      have hweight : a.indexOf c * ((position + 1) % a.size)
          ≡ a.indexOf c * (position + 1) [MOD a.size] :=
        (Nat.mod_modEq _ _).mul_left _
      have hstep := (hweight.add_left sum).add_right
        (weightedSum (text.map a.indexOf) (position + 1))
      rw [Nat.mod_add_mod, ← Nat.add_assoc]
      exact congrArg Except.ok hstep

/-- The weighted sum of all characters but the last, less the index of the last. -/
def balance (a : Alphabet) (text : List Char) : ℤ :=
  weightedSum (text.dropLast.map a.indexOf) 0 - (text.getLast?.map a.indexOf).getD 0

/-- The last symbol counts against the weighted sum of those in front of it. -/
theorem balance_concat (a : Alphabet) (body : List Char) (symbol : Char) :
    a.balance (body ++ [symbol]) =
      weightedSum (body.map a.indexOf) 0 - a.indexOf symbol := by
  rw [balance, List.dropLast_concat, List.getLast?_concat]
  rfl

/-- A symbol is the check symbol of a text over the alphabet exactly if the
    size divides the balance of both. -/
theorem checkSymbolOf_eq_ok_iff (a : Alphabet) (body : List Char) (symbol : Char) :
    a.checkSymbolOf body = .ok symbol ↔
      (∀ c ∈ body ++ [symbol], c ∈ a.symbols) ∧
        (a.size : ℤ) ∣ a.balance (body ++ [symbol]) := by
  have hbalance : (a.size : ℤ) ∣ a.balance (body ++ [symbol]) ↔
      a.indexOf symbol ≡ weightedSum (body.map a.indexOf) 0 [MOD a.size] := by
    rw [balance_concat, Nat.modEq_iff_dvd]
  have hsum : (∀ c ∈ body, c ∈ a.symbols) → a.checkSymbolOf body =
      .ok (a.symbolFor (weightedSum (body.map a.indexOf) 0 % a.size)) := by
    intro hbody
    rw [checkSymbolOf, runningSum_eq hbody 0 a.size_pos, Nat.zero_add]
    rfl
  rw [hbalance, List.forall_mem_append, List.forall_mem_singleton]
  constructor
  · intro h
    have hbody := (a.exists_checkSymbolOf_iff body).mp ⟨symbol, h⟩
    refine ⟨⟨hbody, mem_of_checkSymbolOf h⟩, ?_⟩
    rw [hsum hbody] at h
    have hindex := indexOf_of_index? (index?_symbolFor
      (Nat.mod_lt (weightedSum (body.map a.indexOf) 0) a.size_pos))
    rw [← Except.ok.inj h, hindex]
    exact Nat.mod_modEq _ _
  · rintro ⟨⟨hbody, hsymbol⟩, hmod⟩
    -- indices are remainders already
    have hindex : weightedSum (body.map a.indexOf) 0 % a.size = a.indexOf symbol := by
      rw [show weightedSum (body.map a.indexOf) 0 % a.size = a.indexOf symbol % a.size
        from hmod.symm]
      exact Nat.mod_eq_of_lt (a.indexOf_lt_size symbol)
    rw [hsum hbody, hindex, symbolFor_of_index? (index?_of_mem hsymbol)]

/-! ## Edits -/

/-- Another index at one place changes the sum by the difference, as often as the place
    weighs. -/
theorem weightedSum_set {indices : List Nat} {place old : Nat}
    (h : indices[place]? = some old) (new position : Nat) :
    (weightedSum (indices.set place new) position : ℤ) =
      weightedSum indices position + (position + place + 1) * (new - old) := by
  induction indices generalizing place position with
  | nil => exact nomatch h
  | cons index indices ih =>
      -- at the head the position itself is the weight; behind it all positions shift by one
      cases place with
      | zero =>
          have hindex : index = old := Option.some.inj h
          rw [List.set_cons_zero, weightedSum, weightedSum, hindex]
          push_cast
          ring
      | succ place =>
          rw [List.set_cons_succ, weightedSum, weightedSum]
          have hrest := ih h (position + 1)
          push_cast at hrest ⊢
          rw [hrest]
          ring

/-- What a place counts in the balance of a text: its position, and the last
    one −1. -/
def balanceWeight (length place : Nat) : ℤ := if place + 1 < length then place + 1 else -1

/-- One character is replaced. -/
theorem balance_set {a : Alphabet} {text : List Char} {place : Nat} {old : Char}
    (h : text[place]? = some old) (new : Char) :
    a.balance (text.set place new) =
      a.balance text + balanceWeight text.length place * (a.indexOf new - a.indexOf old) := by
  -- the last character has a weight of its own
  rcases List.eq_nil_or_concat text with rfl | ⟨body, symbol, rfl⟩
  · exact nomatch h
  rw [List.concat_eq_append] at h ⊢
  by_cases hplace : place < body.length
  · have hweight : balanceWeight (body ++ [symbol]).length place = place + 1 := by
      rw [balanceWeight, if_pos (by simpa using hplace)]
    have hold : (body.map a.indexOf)[place]? = some (a.indexOf old) := by
      rw [List.getElem?_append_left hplace] at h
      rw [List.getElem?_map, h]
      rfl
    have hset := weightedSum_set hold (a.indexOf new) 0
    rw [List.set_append_left _ _ hplace, balance_concat, balance_concat, List.map_set, hset,
      hweight]
    push_cast
    ring
  · -- only the last place is left, which counts to the other side
    have hlast : place = body.length := by
      have := (List.getElem?_eq_some_iff.mp h).1
      rw [List.length_append, List.length_singleton] at this
      omega
    subst hlast
    have hsymbol : symbol = old := by simpa using h
    have hweight : balanceWeight (body ++ [symbol]).length body.length = -1 := by
      rw [balanceWeight, if_neg (by simp)]
    rw [List.set_append_right _ _ (Nat.le_refl _), Nat.sub_self, List.set_cons_zero,
      balance_concat, balance_concat, hweight, hsymbol]
    ring

/-- Two characters change places. -/
theorem balance_swap {a : Alphabet} {text : List Char} {p q : Nat} {x y : Char}
    (hp : text[p]? = some x) (hq : text[q]? = some y) (hne : p ≠ q) :
    a.balance ((text.set p y).set q x) =
      a.balance text + (balanceWeight text.length q - balanceWeight text.length p)
        * (a.indexOf x - a.indexOf y) := by
  have hq' : (text.set p y)[q]? = some y := by rw [List.getElem?_set_ne hne, hq]
  rw [balance_set hq', balance_set hp, List.length_set]
  ring

end OpaqueId.Alphabet
