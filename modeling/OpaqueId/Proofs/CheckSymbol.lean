import OpaqueId.Proofs.Symbols

/-! # Check symbols: when there is one

    The check sum walks a text from the left and stops at the first character
    outside the alphabet.  So there is a check symbol exactly for the texts
    over the alphabet (`exists_checkSymbolOf_iff`), and any other text is
    answered with its leftmost foreign character and the number of characters
    in front of it (`checkSymbolOf_eq_error_iff`). -/

namespace OpaqueId.Alphabet

/-- The character is the leftmost of the text outside the alphabet, and the
    position counts the characters in front of it. -/
def LeftmostForeign (a : Alphabet) (text : List Char) (found : ForeignCharacter) : Prop :=
  ∃ front back, text = front ++ found.character :: back ∧ front.length = found.position ∧
    (∀ c ∈ front, c ∈ a.symbols) ∧ found.character ∉ a.symbols

/-- The running sum fails exactly at the leftmost foreign character; its
    position counts on from the characters already summed. -/
theorem runningSum_eq_error_iff (a : Alphabet) (text : List Char) (position sum : Nat)
    (found : ForeignCharacter) :
    a.runningSum text position sum = .error found ↔
      ∃ front back, text = front ++ found.character :: back ∧
        position + front.length = found.position ∧
        (∀ c ∈ front, c ∈ a.symbols) ∧ found.character ∉ a.symbols := by
  -- the sum so far plays no part in whether and where the walk stops
  induction text generalizing position sum with
  | nil =>
      constructor
      · intro h
        exact nomatch h
      · rintro ⟨front, back, htext, -⟩
        exact absurd htext.symm (by simp)
  | cons c rest ih =>
      rw [runningSum]
      cases hc : a.index? c with
      | none =>
          have hforeign : c ∉ a.symbols := (a.index?_eq_none_iff c).mp hc
          constructor
          · intro h
            have hfound : (⟨c, position⟩ : ForeignCharacter) = found := Except.error.inj h
            subst hfound
            exact ⟨[], rest, rfl, rfl, List.forall_mem_nil _, hforeign⟩
          · rintro ⟨front, back, htext, hposition, hfront, -⟩
            cases front with
            | nil =>
                have hcharacter : c = found.character := (List.cons.inj htext).1
                show Except.error ⟨c, position⟩ = Except.error found
                rw [hcharacter, show position = found.position from hposition]
            | cons d front =>
                obtain ⟨rfl, -⟩ := List.cons.inj htext
                exact absurd (hfront c (List.mem_cons_self ..)) hforeign
      | some index =>
          have hmem : c ∈ a.symbols := by
            rw [← a.contains_iff_mem, contains, hc]
            rfl
          dsimp only
          rw [ih]
          constructor
          · rintro ⟨front, back, rfl, hposition, hfront, hfound⟩
            refine ⟨c :: front, back, rfl, ?_, ?_, hfound⟩
            · rw [List.length_cons]
              omega
            · intro d hd
              rcases List.mem_cons.mp hd with rfl | hd
              · exact hmem
              · exact hfront d hd
          · rintro ⟨front, back, htext, hposition, hfront, hfound⟩
            cases front with
            | nil =>
                obtain ⟨rfl, -⟩ := List.cons.inj htext
                exact absurd hmem hfound
            | cons d front =>
                obtain ⟨rfl, rfl⟩ := List.cons.inj htext
                refine ⟨front, back, rfl, ?_, ?_, hfound⟩
                · rw [List.length_cons] at hposition
                  omega
                · exact fun e he => hfront e (List.mem_cons_of_mem _ he)

/-- A text without check symbol is answered with its leftmost foreign
    character. -/
theorem checkSymbolOf_eq_error_iff (a : Alphabet) (text : List Char)
    (found : ForeignCharacter) :
    a.checkSymbolOf text = .error found ↔ a.LeftmostForeign text found := by
  have hsum := a.runningSum_eq_error_iff text 0 0 found
  simp only [Nat.zero_add] at hsum
  rw [LeftmostForeign, ← hsum, checkSymbolOf]
  cases a.runningSum text 0 0 with
  | error e =>
      show (.error e : Except ForeignCharacter Char) = .error found ↔ _
      rw [Except.error.injEq, Except.error.injEq]
  | ok total =>
      constructor
      · intro h
        exact nomatch h
      · intro h
        exact nomatch h

/-- If there is a foreign character there is a leftmost one. -/
theorem exists_leftmostForeign {a : Alphabet} {text : List Char}
    (h : ∃ c ∈ text, c ∉ a.symbols) : ∃ found, a.LeftmostForeign text found := by
  induction text with
  | nil =>
      obtain ⟨c, hc, -⟩ := h
      exact nomatch hc
  | cons c rest ih =>
      by_cases hmem : c ∈ a.symbols
      · obtain ⟨d, hd, hforeign⟩ := h
        have hrest : ∃ d ∈ rest, d ∉ a.symbols := by
          rcases List.mem_cons.mp hd with rfl | hd
          · exact absurd hmem hforeign
          · exact ⟨d, hd, hforeign⟩
        -- what is found in the rest stands one position further right
        obtain ⟨⟨e, position⟩, front, back, rfl, rfl, hfront, he⟩ := ih hrest
        refine ⟨⟨e, front.length + 1⟩, c :: front, back, rfl, rfl, ?_, he⟩
        intro b hb
        rcases List.mem_cons.mp hb with rfl | hb
        · exact hmem
        · exact hfront b hb
      · exact ⟨⟨c, 0⟩, [], rest, rfl, rfl, List.forall_mem_nil _, hmem⟩

theorem LeftmostForeign.exists_mem {a : Alphabet} {text : List Char}
    {found : ForeignCharacter} (h : a.LeftmostForeign text found) :
    ∃ c ∈ text, c ∉ a.symbols := by
  obtain ⟨front, back, rfl, -, -, hfound⟩ := h
  exact ⟨found.character, by simp, hfound⟩

/-- There is a check symbol exactly for the texts over the alphabet. -/
theorem exists_checkSymbolOf_iff (a : Alphabet) (text : List Char) :
    (∃ symbol, a.checkSymbolOf text = .ok symbol) ↔ ∀ c ∈ text, c ∈ a.symbols := by
  constructor
  · rintro ⟨symbol, h⟩ c hc
    by_contra hforeign
    obtain ⟨found, hfound⟩ := exists_leftmostForeign ⟨c, hc, hforeign⟩
    rw [← checkSymbolOf_eq_error_iff, h] at hfound
    exact nomatch hfound
  · intro hall
    cases h : a.checkSymbolOf text with
    | ok symbol => exact ⟨symbol, rfl⟩
    | error found =>
        obtain ⟨c, hc, hforeign⟩ := ((a.checkSymbolOf_eq_error_iff text found).mp h).exists_mem
        exact absurd (hall c hc) hforeign

/-- A check symbol is a symbol of the alphabet. -/
theorem mem_of_checkSymbolOf {a : Alphabet} {text : List Char} {symbol : Char}
    (h : a.checkSymbolOf text = .ok symbol) : symbol ∈ a.symbols := by
  rw [checkSymbolOf] at h
  cases hsum : a.runningSum text 0 0 with
  | error found => rw [hsum] at h; exact nomatch h
  | ok total =>
      rw [hsum] at h
      have hsymbol : a.symbolFor total = symbol := Except.ok.inj h
      rw [← hsymbol]
      exact symbolFor_mem (a.runningSum_lt a.size_pos hsum)

/-- Symbols behind a text do not change its leftmost foreign character. -/
theorem leftmostForeign_append_iff {a : Alphabet} {text back : List Char}
    (hback : ∀ c ∈ back, c ∈ a.symbols) (found : ForeignCharacter) :
    a.LeftmostForeign (text ++ back) found ↔ a.LeftmostForeign text found := by
  constructor
  · rintro ⟨front, tail, htext, hposition, hfront, hfound⟩
    rcases List.append_eq_append_iff.mp htext with ⟨mid, rfl, hmid⟩ | ⟨mid, rfl, hmid⟩
    · -- the foreign character would stand among the symbols
      exact absurd (hback found.character (by rw [hmid]; simp)) hfound
    · cases mid with
      | nil =>
          rw [List.nil_append] at hmid
          exact absurd (hback found.character (by rw [← hmid]; simp)) hfound
      | cons d mid =>
          obtain ⟨rfl, -⟩ := List.cons.inj hmid
          exact ⟨front, mid, rfl, hposition, hfront, hfound⟩
  · rintro ⟨front, tail, rfl, hposition, hfront, hfound⟩
    exact ⟨front, tail ++ back, by simp, hposition, hfront, hfound⟩

end OpaqueId.Alphabet
