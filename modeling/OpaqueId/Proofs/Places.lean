import OpaqueId.Proofs.Balance
import OpaqueId.Proofs.Diagnosis

/-! # Places: what may stand where in an identifier

    Whether a text is an identifier of a checked scheme is a matter of its
    length, of each of its characters by itself, and of one number.  A place of
    the stem takes the character of the stem, a place of the code what its
    class permits, and the last place any symbol (`AllowsAt`); beyond that the
    balance has to be a multiple of the size (`check_ofList_eq_ok_iff`).

    So an accepted text stays accepted under an edit that keeps its length
    exactly if the new characters may stand where they stand now and the
    balance is still a multiple (`check_edited_iff`). -/

namespace OpaqueId.Scheme

/-! ## Places of a code -/

/-- The class that governs a place of a code: the last class of the mask in
    front of the mask, and then one class of the mask after the other. -/
def classAt? (s : Scheme) (length place : Nat) : Option SymbolClass :=
  if place < length - s.template.width then some s.lastClass
  else s.template.mask[place - (length - s.template.width)]?

/-- The class that governs a place of a code of the given length permits the
    character. -/
def PermitsAt (s : Scheme) (length place : Nat) (c : Char) : Prop :=
  ∃ k, s.classAt? length place = some k ∧ k.Permits s.alphabet c

/-- What a position permits is a symbol of the alphabet. -/
theorem PermitsAt.mem {s : Scheme} {length place : Nat} {c : Char}
    (h : s.PermitsAt length place c) : c ∈ s.alphabet.symbols := by
  obtain ⟨k, -, hpermits⟩ := h
  exact hpermits.mem

theorem getElem?_classesFor (s : Scheme) (length place : Nat) :
    (s.template.classesFor length)[place]? = s.classAt? length place := by
  rw [classesFor_eq, classAt?, List.getElem?_append, List.length_replicate]
  by_cases hplace : place < length - s.template.width
  · rw [if_pos hplace, if_pos hplace, List.getElem?_replicate, if_pos hplace]
  · rw [if_neg hplace, if_neg hplace]

/-- A code is in shape if its length fits and every place permits what stands
    there. -/
theorem shaped_iff_permitsAt (s : Scheme) (code : List Char) :
    s.Shaped code ↔ s.Fits code.length ∧
      ∀ place c, code[place]? = some c → s.PermitsAt code.length place c := by
  rw [shaped_iff_follows]
  refine and_congr_right fun hfits => ?_
  have hlength := s.length_classesFor hfits.width_le
  rw [Alphabet.Follows, List.forall₂_iff_get]
  constructor
  · rintro ⟨-, hpermits⟩ place c hc
    obtain ⟨hplace, rfl⟩ := List.getElem?_eq_some_iff.mp hc
    refine ⟨(s.template.classesFor code.length)[place], ?_, hpermits place _ hplace⟩
    rw [← getElem?_classesFor]
    exact List.getElem?_eq_getElem (by omega)
  · intro h
    refine ⟨hlength, fun place hclass hplace => ?_⟩
    obtain ⟨k, hk, hpermits⟩ := h place code[place] (List.getElem?_eq_getElem hplace)
    rw [← getElem?_classesFor, List.getElem?_eq_getElem hclass] at hk
    have hsame := Option.some.inj hk
    show ((s.template.classesFor code.length)[place]).Permits s.alphabet code[place]
    rw [hsame]
    exact hpermits

/-! ## Places of a text -/

/-- A character may stand at a place of an identifier of the given length, as
    far as that place by itself is concerned. -/
def AllowsAt (s : Scheme) (length place : Nat) (c : Char) : Prop :=
  if place < s.stem.length then s.stem[place]? = some c
  else if place + 1 < length then
    s.PermitsAt (length - 1 - s.stem.length) (place - s.stem.length) c
  else c ∈ s.alphabet.symbols

/-- Within the stem only the character of the stem is allowed. -/
theorem allowsAt_stem {s : Scheme} {length place : Nat} (h : place < s.stem.length) (c : Char) :
    s.AllowsAt length place c ↔ s.stem[place]? = some c := by
  rw [AllowsAt, if_pos h]

/-- Within the code the class of the position decides. -/
theorem allowsAt_code {s : Scheme} {length place : Nat} (h : s.stem.length ≤ place)
    (hplace : place + 1 < length) (c : Char) :
    s.AllowsAt length place c ↔
      s.PermitsAt (length - 1 - s.stem.length) (place - s.stem.length) c := by
  rw [AllowsAt, if_neg (Nat.not_lt.mpr h), if_pos hplace]

/-- At the end any symbol of the alphabet is allowed. -/
theorem allowsAt_last {s : Scheme} {length place : Nat} (h : s.stem.length ≤ place)
    (hplace : length ≤ place + 1) (c : Char) :
    s.AllowsAt length place c ↔ c ∈ s.alphabet.symbols := by
  rw [AllowsAt, if_neg (Nat.not_lt.mpr h), if_neg (Nat.not_lt.mpr hplace)]

/-- Every character of a text may stand where it stands. -/
def AllowsAll (s : Scheme) (text : List Char) : Prop :=
  ∀ place c, text[place]? = some c → s.AllowsAt text.length place c

/-- Stem, code and check symbol are judged place by place. -/
theorem allowsAll_append_iff (s : Scheme) (code : List Char) (symbol : Char) :
    s.AllowsAll (s.stem ++ code ++ [symbol]) ↔
      (∀ place c, code[place]? = some c → s.PermitsAt code.length place c) ∧
        symbol ∈ s.alphabet.symbols := by
  have hlength : (s.stem ++ code ++ [symbol]).length = s.stem.length + code.length + 1 := by
    rw [List.length_append, List.length_append, List.length_singleton]
  have hcode : s.stem.length + code.length + 1 - 1 - s.stem.length = code.length := by omega
  rw [AllowsAll, hlength]
  constructor
  · intro h
    constructor
    · intro place c hc
      have hplace := (List.getElem?_eq_some_iff.mp hc).1
      have hat : (s.stem ++ code ++ [symbol])[s.stem.length + place]? = some c := by
        rw [List.append_assoc, List.getElem?_append_right (Nat.le_add_right ..),
          Nat.add_sub_cancel_left, List.getElem?_append_left hplace, hc]
      have hallows := h _ c hat
      rw [allowsAt_code (Nat.le_add_right ..) (by omega), hcode, Nat.add_sub_cancel_left]
        at hallows
      exact hallows
    · have hat : (s.stem ++ code ++ [symbol])[s.stem.length + code.length]? = some symbol := by
        rw [← List.length_append, List.getElem?_concat_length]
      have hallows := h _ symbol hat
      rwa [allowsAt_last (Nat.le_add_right ..) (Nat.le_refl _)] at hallows
  · rintro ⟨hpermits, hsymbol⟩ place c hc
    -- a place is in the stem, in the code, or the last one
    by_cases hstem : place < s.stem.length
    · rw [List.append_assoc, List.getElem?_append_left hstem] at hc
      exact (allowsAt_stem hstem c).mpr hc
    · have hle := Nat.not_lt.mp hstem
      rw [List.append_assoc, List.getElem?_append_right hle] at hc
      by_cases hplace : place - s.stem.length < code.length
      · rw [List.getElem?_append_left hplace] at hc
        rw [allowsAt_code hle (by omega), hcode]
        exact hpermits _ c hc
      · rw [List.getElem?_append_right (Nat.not_lt.mp hplace)] at hc
        have hmem := List.mem_of_getElem? hc
        rw [allowsAt_last hle (by omega), List.mem_singleton.mp hmem]
        exact hsymbol

/-! ## Accepted texts -/

/-- A text is accepted by a checked scheme if it consists of stem, shaped code
    and one symbol, all over the alphabet, and its balance is a multiple of the
    size. -/
theorem check_ofList_eq_ok_iff {s : Scheme} (hchecked : s.template.checked = true)
    (text : List Char) :
    s.check (String.ofList text) = .ok () ↔ ¬ s.ForeignStem ∧
      (∃ code symbol, text = s.stem ++ code ++ [symbol] ∧ s.Fits code.length) ∧
      s.AllowsAll text ∧ (s.alphabet.size : ℤ) ∣ s.alphabet.balance text := by
  have hstem : ¬ s.ForeignStem ↔ ∀ c ∈ s.stem, c ∈ s.alphabet.symbols := by
    rw [ForeignStem, not_and_or, not_exists]
    simp [hchecked]
  rw [check_eq_ok_iff, hstem]
  simp only [carries_of_checked hchecked, String.toList_ofList,
    Alphabet.checkSymbolOf_eq_ok_iff]
  constructor
  · rintro ⟨code, hshaped, symbol, ⟨hmem, hbalance⟩, rfl⟩
    obtain ⟨hfits, hpermits⟩ := (s.shaped_iff_permitsAt code).mp hshaped
    refine ⟨fun c hc => hmem c (by simp [hc]), ⟨code, symbol, rfl, hfits⟩, ?_, hbalance⟩
    exact (s.allowsAll_append_iff code symbol).mpr ⟨hpermits, hmem symbol (by simp)⟩
  · rintro ⟨hstem, ⟨code, symbol, rfl, hfits⟩, hallows, hbalance⟩
    obtain ⟨hpermits, hsymbol⟩ := (s.allowsAll_append_iff code symbol).mp hallows
    have hshaped := (s.shaped_iff_permitsAt code).mpr ⟨hfits, hpermits⟩
    refine ⟨code, hshaped, symbol, ⟨fun c hc => ?_, hbalance⟩, rfl⟩
    -- stem, code and symbol are all over the alphabet
    rcases List.mem_append.mp hc with hc | hc
    · rcases List.mem_append.mp hc with hc | hc
      · exact hstem c hc
      · exact hshaped.mem c hc
    · rw [List.mem_singleton.mp hc]
      exact hsymbol

/-- A text that is long enough and allowed place by place begins with the stem. -/
theorem AllowsAll.exists_parts {s : Scheme} {text : List Char} {length : Nat}
    (h : s.AllowsAll text) (hlength : text.length = s.stem.length + length + 1) :
    ∃ code symbol, text = s.stem ++ code ++ [symbol] ∧ code.length = length := by
  rcases List.eq_nil_or_concat text with rfl | ⟨body, symbol, rfl⟩
  · exact nomatch hlength
  rw [List.concat_eq_append] at h hlength ⊢
  rw [List.length_append, List.length_singleton] at hlength
  have hstem : body.take s.stem.length = s.stem := by
    -- place by place: only the character of the stem is allowed there
    apply List.ext_getElem?
    intro place
    by_cases hplace : place < s.stem.length
    · have hbody : place < body.length := by omega
      have hat : (body ++ [symbol])[place]? = some body[place] := by
        rw [List.getElem?_append_left hbody, List.getElem?_eq_getElem hbody]
      have hallows := (allowsAt_stem hplace _).mp (h place _ hat)
      rw [List.getElem?_take_of_lt hplace, List.getElem?_eq_getElem hbody, hallows]
    · rw [List.getElem?_eq_none (by rw [List.length_take]; omega),
        List.getElem?_eq_none (Nat.not_lt.mp hplace)]
  refine ⟨body.drop s.stem.length, symbol, ?_, ?_⟩
  · have hbody := List.take_append_drop s.stem.length body
    rw [hstem] at hbody
    rw [hbody]
  · rw [List.length_drop]
    omega

/-! ## Edited texts -/

/-- An edit that keeps the length of an accepted text is judged by the places
    and the balance alone. -/
theorem check_edited_iff {s : Scheme} (hchecked : s.template.checked = true)
    {text edited : List Char} (h : s.check (String.ofList text) = .ok ())
    (hlength : edited.length = text.length) :
    s.check (String.ofList edited) = .ok () ↔
      s.AllowsAll edited ∧ (s.alphabet.size : ℤ) ∣ s.alphabet.balance edited := by
  obtain ⟨hstem, ⟨code, symbol, rfl, hfits⟩, -, -⟩ := (check_ofList_eq_ok_iff hchecked text).mp h
  rw [check_ofList_eq_ok_iff hchecked]
  constructor
  · rintro ⟨-, -, hedited⟩
    exact hedited
  · intro hedited
    refine ⟨hstem, ?_, hedited⟩
    have hparts : edited.length = s.stem.length + code.length + 1 := by
      rw [hlength, List.length_append, List.length_append, List.length_singleton]
    obtain ⟨code', symbol', rfl, hcode⟩ := hedited.1.exists_parts hparts
    exact ⟨code', symbol', rfl, hcode ▸ hfits⟩

/-- After a replacement only the place of it has to be looked at. -/
theorem AllowsAll.set_iff {s : Scheme} {text : List Char} (h : s.AllowsAll text) {place : Nat}
    (hplace : place < text.length) (c : Char) :
    s.AllowsAll (text.set place c) ↔ s.AllowsAt text.length place c := by
  rw [AllowsAll, List.length_set]
  constructor
  · intro hset
    exact hset place c (List.getElem?_set_self hplace)
  · intro hc other d hd
    by_cases hsame : place = other
    · subst hsame
      rw [List.getElem?_set_self hplace] at hd
      rw [← Option.some.inj hd]
      exact hc
    · rw [List.getElem?_set_ne hsame] at hd
      exact h other d hd

/-- After a swap only the two places of it have to be looked at. -/
theorem AllowsAll.swap_iff {s : Scheme} {text : List Char} (h : s.AllowsAll text) {p q : Nat}
    (hp : p < text.length) (hq : q < text.length) (hne : p ≠ q) (x y : Char) :
    s.AllowsAll ((text.set p y).set q x) ↔
      s.AllowsAt text.length p y ∧ s.AllowsAt text.length q x := by
  have hq' : q < (text.set p y).length := by rwa [List.length_set]
  constructor
  · intro hswap
    rw [AllowsAll, List.length_set, List.length_set] at hswap
    constructor
    · refine hswap p y ?_
      rw [List.getElem?_set_ne (Ne.symm hne), List.getElem?_set_self hp]
    · exact hswap q x (List.getElem?_set_self hq')
  · rintro ⟨hy, hx⟩
    have hset := (h.set_iff hp y).mpr hy
    rw [hset.set_iff hq', List.length_set]
    exact hx

end OpaqueId.Scheme
