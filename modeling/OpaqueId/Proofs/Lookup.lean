import OpaqueId.Proofs.Symbols

/-! # Looking symbols up: which texts are alphabets

    A text is taken for an alphabet in three passes: its symbols are counted,
    then scanned for a repeat, then compared with the digits.  `Fault.Found`
    says for each fault what it is about, whatever else may be wrong with the
    text, and `FirstFault` picks the one that is looked for first.
    `ofText_cases` walks through the passes once: either the text is a row of
    distinct symbols that begins with the digits, or the fault that is named is
    the first one.

    The symbols of an alphabet are distinct, so a symbol can be looked up both
    ways: from its index and, back again, from itself.

    Main statement: `ofText_lookup`. -/

namespace OpaqueId

/-- Of the symbols that repeat an earlier one, this one stands leftmost: what
    stands in front of it has no repeat, and it is one of those. -/
def FirstRepeat (symbols : List Char) (c : Char) : Prop :=
  ∃ front back, symbols = front ++ c :: back ∧ front.Nodup ∧ c ∈ front

/-- The scan stops at the first symbol that stands in front of itself or was
    already seen. -/
theorem firstRepeat_eq_some_iff (symbols seen : List Char) (c : Char) :
    firstRepeat symbols seen = some c ↔
      ∃ front back, symbols = front ++ c :: back ∧ front.Nodup ∧ (∀ d ∈ front, d ∉ seen) ∧
        (c ∈ front ∨ c ∈ seen) := by
  induction symbols generalizing seen with
  | nil => simp [firstRepeat]
  | cons b rest ih =>
      rw [firstRepeat]
      by_cases hb : b ∈ seen
      · rw [if_pos hb, Option.some.injEq]
        constructor
        · rintro rfl
          exact ⟨[], rest, rfl, List.nodup_nil, List.forall_mem_nil _, Or.inr hb⟩
        · rintro ⟨front, back, hsymbols, -, hfresh, -⟩
          cases front with
          | nil => exact (List.cons.inj hsymbols).1
          | cons d front =>
              obtain ⟨rfl, -⟩ := List.cons.inj hsymbols
              exact absurd hb (hfresh b (List.mem_cons_self ..))
      · rw [if_neg hb, ih]
        constructor
        · rintro ⟨front, back, rfl, hnodup, hfresh, hc⟩
          -- the symbol passed over is one more of those seen
          have hbfront : b ∉ front := fun hmem => hfresh b hmem (List.mem_cons_self ..)
          refine ⟨b :: front, back, rfl, List.nodup_cons.mpr ⟨hbfront, hnodup⟩, ?_, ?_⟩
          · refine List.forall_mem_cons.mpr ⟨hb, fun d hd hseen => ?_⟩
            exact hfresh d hd (List.mem_cons_of_mem b hseen)
          · rcases hc with hc | hc
            · exact Or.inl (List.mem_cons_of_mem b hc)
            · rcases List.mem_cons.mp hc with rfl | hc
              · exact Or.inl (List.mem_cons_self ..)
              · exact Or.inr hc
        · rintro ⟨front, back, hsymbols, hnodup, hfresh, hc⟩
          cases front with
          | nil =>
              obtain ⟨rfl, -⟩ := List.cons.inj hsymbols
              exact absurd (hc.resolve_left List.not_mem_nil) hb
          | cons d front =>
              obtain ⟨rfl, rfl⟩ := List.cons.inj hsymbols
              obtain ⟨hbfront, hnodup⟩ := List.nodup_cons.mp hnodup
              refine ⟨front, back, rfl, hnodup, fun d hd hseen => ?_, ?_⟩
              · rcases List.mem_cons.mp hseen with rfl | hseen
                · exact hbfront hd
                · exact hfresh d (List.mem_cons_of_mem b hd) hseen
              · rcases hc with hc | hc
                · rcases List.mem_cons.mp hc with rfl | hc
                  · exact Or.inr (List.mem_cons_self ..)
                  · exact Or.inl hc
                · exact Or.inr (List.mem_cons_of_mem b hc)

/-- The scan finds the first repeat. -/
theorem firstRepeat_nil_eq_some_iff (symbols : List Char) (c : Char) :
    firstRepeat symbols [] = some c ↔ FirstRepeat symbols c := by
  rw [firstRepeat_eq_some_iff, FirstRepeat]
  simp

/-- The scan finds nothing exactly where nothing is repeated. -/
theorem firstRepeat_nil_eq_none_iff (symbols : List Char) :
    firstRepeat symbols [] = none ↔ symbols.Nodup := by
  rw [firstRepeat_eq_none_iff]
  simp

namespace Alphabet

/-! ## Faults -/

/-- What each fault is about, whatever else may be wrong with the symbols. -/
inductive Fault.Found (symbols : List Char) : Fault → Prop where
  | tooFew : symbols.length < 10 → Found symbols (.tooFew symbols.length)
  | repeated {c : Char} : FirstRepeat symbols c → Found symbols (.repeated c)
  | digitsNotFirst : symbols.take 10 ≠ decimalDigits → Found symbols .digitsNotFirst

/-- The order in which faults are looked for. -/
def Fault.rank : Fault → Nat
  | .tooFew _ => 0
  | .repeated _ => 1
  | .digitsNotFirst => 2

/-- The fault is there, and none that is looked for earlier. -/
def FirstFault (symbols : List Char) (fault : Fault) : Prop :=
  fault.Found symbols ∧ ∀ other : Fault, other.Found symbols → fault.rank ≤ other.rank

/-- Among enough symbols the faults are a repeat or the digits. -/
theorem Fault.Found.one_le {symbols : List Char} {fault : Fault} (h : fault.Found symbols)
    (hcount : 10 ≤ symbols.length) : 1 ≤ fault.rank := by
  cases h with
  | tooFew hfew => exact absurd hcount (Nat.not_le.mpr hfew)
  | repeated | digitsNotFirst => simp [Fault.rank]

/-- Among enough distinct symbols the only fault is in the digits. -/
theorem Fault.Found.two_le {symbols : List Char} {fault : Fault} (h : fault.Found symbols)
    (hcount : 10 ≤ symbols.length) (hnodup : symbols.Nodup) : 2 ≤ fault.rank := by
  have hone := h.one_le hcount
  cases h with
  | tooFew => simp [Fault.rank] at hone
  | repeated hrepeat =>
      have hnone := (firstRepeat_nil_eq_none_iff symbols).mpr hnodup
      rw [(firstRepeat_nil_eq_some_iff symbols _).mpr hrepeat] at hnone
      cases hnone
  | digitsNotFirst => simp [Fault.rank]

/-- Enough distinct symbols with the digits first have no fault. -/
theorem Fault.not_found {symbols : List Char} (hcount : 10 ≤ symbols.length)
    (hnodup : symbols.Nodup) (hdigits : symbols.take 10 = decimalDigits) (fault : Fault) :
    ¬ fault.Found symbols := by
  intro hfound
  have htwo := hfound.two_le hcount hnodup
  cases hfound with
  | tooFew | repeated => simp [Fault.rank] at htwo
  | digitsNotFirst hne => exact hne hdigits

/-- No two faults are looked for first. -/
theorem FirstFault.unique {symbols : List Char} {fault fault' : Fault}
    (h : FirstFault symbols fault) (h' : FirstFault symbols fault') : fault = fault' := by
  obtain ⟨hfound, hfirst⟩ := h
  obtain ⟨hfound', hfirst'⟩ := h'
  have hrank : fault.rank = fault'.rank :=
    Nat.le_antisymm (hfirst fault' hfound') (hfirst' fault hfound)
  cases hfound with
  | tooFew =>
      cases hfound' with
      | tooFew => rfl
      | repeated | digitsNotFirst => simp [Fault.rank] at hrank
  | repeated hrepeat =>
      cases hfound' with
      | repeated hrepeat' =>
          -- both are what the scan stops at
          rw [← firstRepeat_nil_eq_some_iff] at hrepeat hrepeat'
          rw [Option.some.inj (hrepeat.symm.trans hrepeat')]
      | tooFew | digitsNotFirst => simp [Fault.rank] at hrank
  | digitsNotFirst =>
      cases hfound' with
      | digitsNotFirst => rfl
      | tooFew | repeated => simp [Fault.rank] at hrank

/-! ## Taking a text for an alphabet -/

/-- Either the text is taken, or its first fault is named. -/
theorem ofText_cases (text : String) :
    (∃ a, ofText text = .ok a ∧ 10 ≤ text.toList.length ∧ text.toList.Nodup ∧
        text.toList.take 10 = decimalDigits) ∨
      ∃ fault, ofText text = .error fault ∧ FirstFault text.toList fault := by
  rw [ofText]
  by_cases hfew : text.toList.length < 10
  · rw [if_pos hfew]
    exact Or.inr ⟨_, rfl, .tooFew hfew, fun _ _ => Nat.zero_le _⟩
  · rw [if_neg hfew]
    have hcount := Nat.not_lt.mp hfew
    split
    · rename_i c hrepeat
      rw [firstRepeat_nil_eq_some_iff] at hrepeat
      exact Or.inr ⟨_, rfl, .repeated hrepeat, fun _ hother => hother.one_le hcount⟩
    · rename_i hnone
      have hnodup := (firstRepeat_nil_eq_none_iff _).mp hnone
      by_cases hdigits : text.toList.take 10 = decimalDigits
      · rw [dif_pos hdigits]
        exact Or.inl ⟨_, rfl, hcount, hnodup, hdigits⟩
      · rw [dif_neg hdigits]
        refine Or.inr ⟨_, rfl, .digitsNotFirst hdigits, fun _ hother => ?_⟩
        exact hother.two_le hcount hnodup

/-- A text is an alphabet if it is long enough, repeats nothing and begins with the
    digits. -/
theorem exists_ofText_eq_ok_iff (text : String) :
    (∃ a, ofText text = .ok a) ↔
      10 ≤ text.toList.length ∧ text.toList.Nodup ∧ text.toList.take 10 = decimalDigits := by
  constructor
  · rintro ⟨a, ha⟩
    rcases ofText_cases text with ⟨-, -, htaken⟩ | ⟨fault, hfault, -⟩
    · exact htaken
    · cases ha.symm.trans hfault
  · rintro ⟨hcount, hnodup, hdigits⟩
    rcases ofText_cases text with ⟨a, ha, -⟩ | ⟨fault, -, hfound, -⟩
    · exact ⟨a, ha⟩
    · exact absurd hfound (Fault.not_found hcount hnodup hdigits fault)

/-- What is reported of a text is its first fault. -/
theorem ofText_eq_error_iff (text : String) (fault : Fault) :
    ofText text = .error fault ↔ FirstFault text.toList fault := by
  constructor
  · intro h
    rcases ofText_cases text with ⟨a, ha, -⟩ | ⟨found, hfound, hfirst⟩
    · cases h.symm.trans ha
    · rw [Except.error.inj (h.symm.trans hfound)]
      exact hfirst
  · intro h
    rcases ofText_cases text with ⟨-, -, hcount, hnodup, hdigits⟩ | ⟨found, hfound, hfirst⟩
    · exact absurd h.1 (Fault.not_found hcount hnodup hdigits fault)
    · rw [hfound, h.unique hfirst]

/-! ## Looking up -/

/-- The text of an alphabet is its symbols, one behind the other. -/
theorem text_eq_join (a : Alphabet) : a.text = String.join (a.symbols.map String.singleton) := by
  rw [text]
  induction a.symbols with
  | nil => rw [List.map_nil, String.join_nil, String.ofList_nil]
  | cons c symbols ih =>
      rw [List.map_cons, String.join_cons, ← ih, String.singleton_eq_ofList,
        ← String.ofList_append, List.singleton_append]

theorem isSome_symbol?_iff (a : Alphabet) (index : Nat) :
    (a.symbol? index).isSome = true ↔ index < a.size := by
  rw [symbol?, isSome_getElem?, size]

/-- The digits have the indices that they stand for. -/
theorem index?_digitChar (a : Alphabet) (digit : Fin 10) :
    a.index? (Nat.digitChar digit) = some digit.val := by
  have hdigits : ∀ d : Fin 10, decimalDigits[d.val]? = some (Nat.digitChar d) := by decide
  rw [index?_eq_some_iff, a.symbol?_of_lt_ten digit.isLt, hdigits]

/-- **Which texts are alphabets, and what can be looked up in one.**  A text is taken if
    and only if it has at least ten symbols, no two of them alike, and begins with the
    digits in order; any other text is answered with its first fault.  An alphabet is
    taken from its own text and from no other, so what follows holds of all that are
    taken, of the default one and of those that are read from a serial form: the text is
    the symbols one behind the other, the symbol at an index has that index and no other
    symbol has it, there is one exactly at the indices below the size, and each decimal
    digit has the index that it stands for. -/
theorem ofText_lookup :
    (∀ text : String, (∃ a, ofText text = .ok a) ↔
      10 ≤ text.length ∧ text.toList.Nodup ∧ text.toList.take 10 = decimalDigits) ∧
    (∀ text fault, ofText text = .error fault ↔ FirstFault text.toList fault) ∧
    (∀ text a, ofText text = .ok a ↔ a.text = text) ∧
    ∀ a : Alphabet, a.text = String.join (a.symbols.map String.singleton) ∧
      (∀ index c, a.symbol? index = some c ↔ a.index? c = some index) ∧
      (∀ index, (a.symbol? index).isSome = true ↔ index < a.size) ∧
      ∀ digit : Fin 10, a.index? (Nat.digitChar digit) = some digit.val := by
  refine ⟨fun text => ?_, ofText_eq_error_iff, ofText_eq_ok_iff, fun a => ?_⟩
  · rw [← String.length_toList]
    exact exists_ofText_eq_ok_iff text
  · refine ⟨a.text_eq_join, fun index c => ?_, a.isSome_symbol?_iff, a.index?_digitChar⟩
    exact (a.index?_eq_some_iff c index).symm

example : ofText "1023456789cabca" = .error (.repeated 'c') := by decide +kernel

end Alphabet

end OpaqueId
