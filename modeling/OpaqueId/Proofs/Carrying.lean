import OpaqueId.Proofs.CheckSymbol
import OpaqueId.Proofs.Shape

/-! # Carrying: a text and the code in it

    A text carries a code if it is the stem, the code and, in a checked
    scheme, the check symbol of the two.  A code is carried by at most one
    text (`Carries.text_unique`) and a text carries at most one code
    (`Carries.codeOf_eq`).  There is a text for a code of symbols unless the
    scheme is checked over a stem with foreign characters
    (`exists_carries_iff`).

    Minting puts the code of a value into the text that carries it
    (`mint_eq_ok_iff`). -/

namespace OpaqueId.Scheme

/-- The scheme asks for a check symbol, but its stem has a character outside
    the alphabet. -/
def ForeignStem (s : Scheme) : Prop :=
  s.template.checked = true ∧ ∃ c ∈ s.stem, c ∉ s.alphabet.symbols

/-- A stem is not foreign if nothing is computed from it or all of it is made of symbols. -/
theorem not_foreignStem_iff (s : Scheme) :
    ¬ s.ForeignStem ↔
      s.template.checked = false ∨ ∀ c ∈ s.stem, c ∈ s.alphabet.symbols := by
  rw [ForeignStem, not_and_or, Bool.not_eq_true]
  simp only [not_exists, not_and, not_not]

/-- The text is the stem and the code and, in a checked scheme, their check
    symbol. -/
def Carries (s : Scheme) (text : String) (code : List Char) : Prop :=
  if s.template.checked then
    ∃ symbol, s.alphabet.checkSymbolOf (s.stem ++ code) = .ok symbol ∧
      text.toList = s.stem ++ code ++ [symbol]
  else text.toList = s.stem ++ code

/-- The part of a text in which its code stands: behind as many characters as
    the stem has, and in front of the last one if the scheme is checked. -/
def codeOf (s : Scheme) (text : String) : List Char :=
  if s.template.checked then (text.toList.drop s.stem.length).dropLast
  else text.toList.drop s.stem.length

/-- With a check symbol a text carries a code between the stem and the check symbol of the
    two. -/
theorem carries_of_checked {s : Scheme} (h : s.template.checked = true) (text : String)
    (code : List Char) :
    s.Carries text code ↔
      ∃ symbol, s.alphabet.checkSymbolOf (s.stem ++ code) = .ok symbol ∧
        text.toList = s.stem ++ code ++ [symbol] := by
  rw [Carries, if_pos h]

/-- Without a check symbol a text carries all that is behind the stem. -/
theorem carries_of_unchecked {s : Scheme} (h : s.template.checked = false) (text : String)
    (code : List Char) : s.Carries text code ↔ text.toList = s.stem ++ code := by
  rw [Carries, if_neg (by rw [h]; exact Bool.false_ne_true)]

/-- A code is carried by one text only. -/
theorem Carries.text_unique {s : Scheme} {text text' : String} {code : List Char}
    (h : s.Carries text code) (h' : s.Carries text' code) : text = text' := by
  cases hchecked : s.template.checked with
  | false =>
      rw [carries_of_unchecked hchecked] at h h'
      exact String.toList_injective (h.trans h'.symm)
  | true =>
      obtain ⟨symbol, hsymbol, htext⟩ := (carries_of_checked hchecked text code).mp h
      obtain ⟨symbol', hsymbol', htext'⟩ := (carries_of_checked hchecked text' code).mp h'
      have hsame : symbol = symbol' := Except.ok.inj (hsymbol.symm.trans hsymbol')
      rw [← hsame] at htext'
      exact String.toList_injective (htext.trans htext'.symm)

/-- The code is found again in the text that carries it. -/
theorem Carries.codeOf_eq {s : Scheme} {text : String} {code : List Char}
    (h : s.Carries text code) : s.codeOf text = code := by
  rw [codeOf]
  cases hchecked : s.template.checked with
  | false =>
      rw [carries_of_unchecked hchecked] at h
      rw [if_neg Bool.false_ne_true, h, List.drop_left]
  | true =>
      obtain ⟨symbol, -, htext⟩ := (carries_of_checked hchecked text code).mp h
      rw [if_pos rfl, htext, List.append_assoc, List.drop_left, List.dropLast_concat]

/-- Stem, code and check symbol make up the length of a text. -/
theorem Carries.length_eq {s : Scheme} {text : String} {code : List Char}
    (h : s.Carries text code) :
    text.toList.length = s.stem.length + code.length + if s.template.checked then 1 else 0 := by
  cases hchecked : s.template.checked with
  | false =>
      rw [(carries_of_unchecked hchecked text code).mp h, List.length_append]
      rfl
  | true =>
      obtain ⟨symbol, -, htext⟩ := (carries_of_checked hchecked text code).mp h
      rw [htext, List.length_append, List.length_append, List.length_singleton]
      rfl

/-- A code of symbols is carried by a text, unless a check symbol is asked for
    over a stem with foreign characters. -/
theorem exists_carries_iff {s : Scheme} {code : List Char}
    (hcode : ∀ c ∈ code, c ∈ s.alphabet.symbols) :
    (∃ text, s.Carries text code) ↔ ¬ s.ForeignStem := by
  cases hchecked : s.template.checked with
  | false =>
      constructor
      · rintro - ⟨htrue, -⟩
        exact absurd (hchecked.symm.trans htrue) Bool.false_ne_true
      · intro _
        refine ⟨String.ofList (s.stem ++ code), (carries_of_unchecked hchecked _ _).mpr ?_⟩
        exact String.toList_ofList
  | true =>
      constructor
      · rintro ⟨text, h⟩ ⟨-, c, hc, hforeign⟩
        obtain ⟨symbol, hsymbol, -⟩ := (carries_of_checked hchecked text code).mp h
        have hall := (s.alphabet.exists_checkSymbolOf_iff _).mp ⟨symbol, hsymbol⟩
        exact hforeign (hall c (List.mem_append_left _ hc))
      · -- stem and code are symbols, so they have a check symbol
        intro hstem
        have hall : ∀ c ∈ s.stem ++ code, c ∈ s.alphabet.symbols := by
          intro c hc
          rcases List.mem_append.mp hc with hc | hc
          · by_contra hforeign
            exact hstem ⟨hchecked, c, hc, hforeign⟩
          · exact hcode c hc
        obtain ⟨symbol, hsymbol⟩ := (s.alphabet.exists_checkSymbolOf_iff _).mpr hall
        refine ⟨String.ofList (s.stem ++ code ++ [symbol]),
          (carries_of_checked hchecked _ _).mpr ⟨symbol, hsymbol, ?_⟩⟩
        exact String.toList_ofList

/-! ## Minting -/

theorem addCheckSymbol_of_unchecked {s : Scheme} (h : s.template.checked = false)
    (body : List Char) : s.addCheckSymbol body = .ok body := by
  rw [addCheckSymbol, if_neg (by rw [h]; exact Bool.false_ne_true)]

/-- A body gets its check symbol exactly if some text carries its code. -/
theorem addCheckSymbol_eq_ok_iff (s : Scheme) (code : List Char) (text : String) :
    s.addCheckSymbol (s.stem ++ code) = .ok text.toList ↔ s.Carries text code := by
  cases hchecked : s.template.checked with
  | false =>
      rw [addCheckSymbol_of_unchecked hchecked, carries_of_unchecked hchecked, Except.ok.injEq]
      exact eq_comm
  | true =>
      rw [addCheckSymbol, if_pos hchecked, carries_of_checked hchecked]
      cases hsymbol : s.alphabet.checkSymbolOf (s.stem ++ code) with
      | error found =>
          constructor
          · intro h
            exact nomatch h
          · rintro ⟨_, h, -⟩
            exact nomatch h
      | ok symbol =>
          dsimp only
          rw [Except.ok.injEq]
          constructor
          · intro h
            exact ⟨symbol, rfl, h.symm⟩
          · rintro ⟨symbol', hsame, htext⟩
            rw [htext, Except.ok.inj hsame]

/-- The identifier of a value is the text that carries its code. -/
theorem mint_eq_ok_iff (s : Scheme) (value : Nat) (id : String) :
    s.mint value = .ok id ↔ ∃ code, s.encode value = .ok code ∧ s.Carries id code := by
  rw [mint]
  cases hcode : s.encode value with
  | error refusal =>
      constructor
      · intro h
        exact nomatch h
      · rintro ⟨_, h, -⟩
        exact nomatch h
  | ok code =>
      dsimp only
      constructor
      · intro h
        -- the code is given, so only the body with its check symbol is left to compare
        refine ⟨code, rfl, (s.addCheckSymbol_eq_ok_iff code id).mp ?_⟩
        cases hbody : s.addCheckSymbol (s.stem ++ code) with
        | error refusal => rw [hbody] at h; exact nomatch h
        | ok body =>
            rw [hbody] at h
            have hid : String.ofList body = id := Except.ok.inj h
            rw [← hid, String.toList_ofList]
      · rintro ⟨code', hsame, hcarries⟩
        rw [← Except.ok.inj hsame, ← addCheckSymbol_eq_ok_iff] at hcarries
        rw [hcarries]
        exact congrArg Except.ok String.ofList_toList

end OpaqueId.Scheme
