import OpaqueId.Proofs.Minting

/-! # Check layer: what the check symbol adds to a scheme

    A checked scheme is the scheme without the check symbol
    (`Scheme.unchecked`), and a layer over it.  The two have the same codes,
    and a text of the one carries a code exactly if it is a text of the other
    that carries the code, followed by its check symbol
    (`carries_push_iff`).  Minting, judging and decoding follow from that
    equation, the extensible codes included: though the check symbol could be
    read as one more digit, it is the last character and nothing else.

    Main statement: `check_layer`. -/

namespace OpaqueId.Scheme

/-- The scheme without the check symbol. -/
def unchecked (s : Scheme) : Scheme :=
  ⟨{ s.template with checked := false }, s.alphabet, s.mask_ne_nil⟩

variable {s : Scheme}

/-- The template of a checked scheme has one letter more. -/
theorem render_unchecked (hchecked : s.template.checked = true) :
    s.template.render = s.unchecked.template.render.push 'k' := by
  apply String.toList_injective
  rw [String.toList_push, Template.render, Template.render, String.toList_ofList,
    String.toList_ofList, hchecked, if_pos rfl, unchecked, if_neg Bool.false_ne_true,
    List.append_nil]
  rfl

/-! ## Codes and the texts that carry them -/

/-- The check symbol has no part in the shape of a code. -/
theorem shaped_unchecked_iff {code : List Char} : s.unchecked.Shaped code ↔ s.Shaped code := by
  rw [← allowsCode_iff_shaped, ← allowsCode_iff_shaped]
  exact Iff.rfl

theorem carries_unchecked_iff {body : String} {code : List Char} :
    s.unchecked.Carries body code ↔ body.toList = s.stem ++ code :=
  carries_of_unchecked rfl body code

theorem checkSymbol_eq_ok_iff {body : String} {symbol : Char} :
    s.checkSymbol body = .ok symbol ↔ s.alphabet.checkSymbolOf body.toList = .ok symbol := by
  rw [checkSymbol, Alphabet.checkSymbol]
  cases s.alphabet.checkSymbolOf body.toList with
  | ok found =>
      show (.ok found : Except Refusal Char) = .ok symbol ↔ _
      rw [Except.ok.injEq, Except.ok.injEq]
  | error found =>
      constructor
      · intro h
        exact nomatch h
      · intro h
        exact nomatch h

/-- A text with one more character carries a code if the text does and the
    character is its check symbol. -/
theorem carries_push_iff (hchecked : s.template.checked = true) {body : String}
    {symbol : Char} {code : List Char} :
    s.Carries (body.push symbol) code ↔
      s.unchecked.Carries body code ∧ s.checkSymbol body = .ok symbol := by
  rw [carries_of_checked hchecked, carries_unchecked_iff, checkSymbol_eq_ok_iff,
    String.toList_push]
  constructor
  · rintro ⟨symbol', hsymbol, htext⟩
    obtain ⟨hbody, hlast⟩ := List.append_inj' htext rfl
    rw [List.singleton_inj.mp hlast, hbody]
    exact ⟨rfl, hsymbol⟩
  · rintro ⟨hbody, hsymbol⟩
    rw [hbody] at hsymbol ⊢
    exact ⟨symbol, hsymbol, rfl⟩

/-! ## Minting -/

/-- The check symbol is put behind the body. -/
theorem addCheckSymbol_of_checked (hchecked : s.template.checked = true) (body : String) :
    (s.addCheckSymbol body.toList).map String.ofList =
      (s.checkSymbol body).map body.push := by
  rw [addCheckSymbol, if_pos hchecked, checkSymbol, Alphabet.checkSymbol]
  cases s.alphabet.checkSymbolOf body.toList with
  | error found => rfl
  | ok symbol =>
      refine congrArg Except.ok (String.toList_injective ?_)
      rw [String.toList_ofList, String.toList_push]

/-- Without its check layer a scheme mints the code behind the stem. -/
theorem mint_unchecked (value : Nat) :
    s.unchecked.mint value = (s.encode value).map fun code => String.ofList (s.stem ++ code) := by
  rw [mint, show s.unchecked.encode value = s.encode value from rfl]
  cases s.encode value with
  | error refusal => rfl
  | ok code => rfl

/-- Minting is minting without the check symbol and adding it. -/
theorem mint_eq_unchecked (hchecked : s.template.checked = true) (value : Nat) :
    s.mint value = do
      let body ← s.unchecked.mint value
      let symbol ← s.checkSymbol body
      return body.push symbol := by
  rw [mint_unchecked, mint]
  cases s.encode value with
  | error refusal => rfl
  | ok code =>
      have hlayer := addCheckSymbol_of_checked hchecked (String.ofList (s.stem ++ code))
      rw [String.toList_ofList] at hlayer
      refine hlayer.trans ?_
      simp only [Except.map, bind, Except.bind]
      cases s.checkSymbol (String.ofList (s.stem ++ code)) with
      | error refusal => rfl
      | ok symbol => rfl

/-! ## Judging and decoding -/

/-- The code of a text is that of its body, if the last character is the check symbol of
    that. -/
theorem locate_push_eq_ok_iff (hchecked : s.template.checked = true) {body : String}
    {symbol : Char} {code : List Char} :
    s.locate (body.push symbol) = .ok code ↔
      s.unchecked.locate body = .ok code ∧ s.checkSymbol body = .ok symbol := by
  rw [locate_eq_ok_iff, locate_eq_ok_iff, shaped_unchecked_iff, carries_push_iff hchecked,
    and_assoc]

/-- A body with a symbol is accepted if the body is without its check layer, and the symbol
    is its own. -/
theorem check_push_eq_ok_iff (hchecked : s.template.checked = true) {body : String}
    {symbol : Char} :
    s.check (body.push symbol) = .ok () ↔
      s.unchecked.check body = .ok () ∧ s.checkSymbol body = .ok symbol := by
  simp only [check_eq_ok_iff, ← locate_eq_ok_iff, locate_push_eq_ok_iff hchecked,
    exists_and_right]

/-- The check symbol has no part in the value. -/
theorem decode_push (hchecked : s.template.checked = true) {body : String} {symbol : Char}
    (h : s.check (body.push symbol) = .ok ()) :
    s.decode (body.push symbol) = s.unchecked.decode body := by
  obtain ⟨code, hshaped, hcarries⟩ := (s.check_eq_ok_iff _).mp h
  have hlocate := (s.locate_eq_ok_iff _ code).mpr ⟨hshaped, hcarries⟩
  have hbody := ((locate_push_eq_ok_iff hchecked).mp hlocate).1
  rw [decode, decode, hlocate, hbody]
  rfl

/-- A mismatch is a wrong symbol of the alphabet behind a good text. -/
theorem check_eq_checkMismatch_iff (hchecked : s.template.checked = true) {text : String}
    {expected actual : Char} :
    s.check text = .error (.checkMismatch expected actual) ↔
      ∃ body : String, text = body.push actual ∧ s.unchecked.check body = .ok () ∧
        actual ∈ s.alphabet.symbols ∧ s.checkSymbol body = .ok expected ∧
        expected ≠ actual := by
  rw [check_eq_error_iff]
  simp only [check_eq_ok_iff, shaped_unchecked_iff, carries_unchecked_iff,
    checkSymbol_eq_ok_iff]
  constructor
  · intro h
    cases h with
    | mismatch code _ _ _ htext hshaped hactual hsymbol hne =>
        have hbody : (String.ofList (s.stem ++ code)).toList = s.stem ++ code :=
          String.toList_ofList
        refine ⟨String.ofList (s.stem ++ code), ?_, ⟨code, hshaped, hbody⟩, hactual, ?_, hne⟩
        · apply String.toList_injective
          rw [htext, String.toList_push, hbody, List.append_assoc]
        · rw [hbody]
          exact hsymbol
  · rintro ⟨body, rfl, ⟨code, hshaped, hbody⟩, hactual, hsymbol, hne⟩
    rw [hbody] at hsymbol
    refine .mismatch code expected actual hchecked ?_ hshaped hactual hsymbol hne
    rw [String.toList_push, hbody, List.append_assoc]

/-- Unless the stem is foreign, every good text has a check symbol. -/
theorem exists_checkSymbol_of_check (hchecked : s.template.checked = true)
    (hstem : ¬ s.ForeignStem) {body : String} (h : s.unchecked.check body = .ok ()) :
    ∃ symbol, s.checkSymbol body = .ok symbol := by
  obtain ⟨code, hshaped, hcarries⟩ := (s.unchecked.check_eq_ok_iff body).mp h
  have hmem := (shaped_unchecked_iff.mp hshaped).mem
  obtain ⟨id, hid⟩ := (exists_carries_iff hmem).mpr hstem
  obtain ⟨symbol, hsymbol, -⟩ := (carries_of_checked hchecked id code).mp hid
  rw [← carries_unchecked_iff.mp hcarries] at hsymbol
  exact ⟨symbol, checkSymbol_eq_ok_iff.mpr hsymbol⟩

/-! ## The layer -/

/-- **The check symbol is a layer** over the scheme without it, written with
    one letter less.  Minting mints there and adds the symbol; a text with one
    more character is accepted if the text is accepted there and the character
    is its check symbol, and has the same value then; with another symbol of
    the alphabet, and only then, it is a mismatch.  So over a stem of symbols
    exactly one character completes an accepted text, and always the one that
    a mismatch names as expected. -/
theorem check_layer (s : Scheme) (hchecked : s.template.checked = true) :
    s.template.render = s.unchecked.template.render.push 'k' ∧
    (∀ n : UInt64, s.mint n.toNat = do
      let body ← s.unchecked.mint n.toNat
      let symbol ← s.checkSymbol body
      return body.push symbol) ∧
    (∀ (body : String) symbol, s.check (body.push symbol) = .ok () ↔
      s.unchecked.check body = .ok () ∧ s.checkSymbol body = .ok symbol) ∧
    (∀ (body : String) symbol, s.check (body.push symbol) = .ok () →
      s.decode (body.push symbol) = s.unchecked.decode body) ∧
    (∀ (body : String) symbol expected actual,
      s.check (body.push symbol) = .error (.checkMismatch expected actual) ↔
        s.unchecked.check body = .ok () ∧ actual = symbol ∧ symbol ∈ s.alphabet.symbols ∧
          s.checkSymbol body = .ok expected ∧ expected ≠ symbol) ∧
    ((∀ c ∈ s.stem, c ∈ s.alphabet.symbols) → ∀ body, s.unchecked.check body = .ok () →
      ∃! symbol, s.check (body.push symbol) = .ok ()) ∧
    ∀ text expected actual, s.check text = .error (.checkMismatch expected actual) →
      ∃ body : String, text = body.push actual ∧ s.check (body.push expected) = .ok () := by
  refine ⟨render_unchecked hchecked, fun n => mint_eq_unchecked hchecked n.toNat,
    fun body symbol => check_push_eq_ok_iff hchecked, fun body symbol => decode_push hchecked,
    fun body symbol expected actual => ?_, fun hstem body hbody => ?_,
    fun text expected actual h => ?_⟩
  · -- body and symbol are determined by the text
    rw [check_eq_checkMismatch_iff hchecked]
    constructor
    · rintro ⟨body', htext, hrest⟩
      obtain ⟨rfl, rfl⟩ := String.push_inj.mp htext
      exact ⟨hrest.1, rfl, hrest.2⟩
    · rintro ⟨hbody, rfl, hrest⟩
      exact ⟨body, rfl, hbody, hrest⟩
  · have hforeign := s.not_foreignStem_iff.mpr (Or.inr hstem)
    obtain ⟨symbol, hsymbol⟩ := exists_checkSymbol_of_check hchecked hforeign hbody
    refine ⟨symbol, (check_push_eq_ok_iff hchecked).mpr ⟨hbody, hsymbol⟩, fun symbol' h => ?_⟩
    -- a body has one check symbol
    have hsymbol' := ((check_push_eq_ok_iff hchecked).mp h).2
    exact Except.ok.inj (hsymbol'.symm.trans hsymbol)
  · obtain ⟨body, rfl, hbody, -, hsymbol, -⟩ := (check_eq_checkMismatch_iff hchecked).mp h
    exact ⟨body, rfl, (check_push_eq_ok_iff hchecked).mpr ⟨hbody, hsymbol⟩⟩

/-- The text `bc100` of `bc.zed` is an identifier of `bc.zedk` with `6` behind it, and
    with no other character; the answer to `bc100t` names that `6`. -/
theorem specimen_layers :
    specimen.template.checked = true ∧
      specimen.decode ("bc100".push '6') = specimen.unchecked.decode "bc100" ∧
      (∃! symbol, specimen.check ("bc100".push symbol) = .ok ()) ∧
      ∃ body : String, "bc100t" = body.push 't' ∧ specimen.check (body.push '6') = .ok () := by
  obtain ⟨-, -, hcheck, hdecode, -, hcompleted, hrepair⟩ := check_layer specimen rfl
  have hbody : specimen.unchecked.check "bc100" = .ok () := by decide +kernel
  have hsymbol : specimen.checkSymbol "bc100" = .ok '6' := by decide +kernel
  have hmismatch : specimen.check "bc100t" = .error (.checkMismatch '6' 't') := by decide +kernel
  exact ⟨rfl, hdecode "bc100" '6' ((hcheck "bc100" '6').mpr ⟨hbody, hsymbol⟩),
    hcompleted specimen_stem_mem "bc100" hbody, hrepair "bc100t" '6' 't' hmismatch⟩

end OpaqueId.Scheme
