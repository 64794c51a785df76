import OpaqueId.Proofs.Diagnosis
import OpaqueId.Proofs.Encoding

/-! # Guards: no operation without an answer

    Minting and decoding divide by bases, look symbols up by the index that they
    computed, and pick the base of a position by its index.  None of this needs to
    have an answer: a divisor may be zero, an index too large, a mask empty, and a
    loop that divides until nothing is left need not end.  Elsewhere such an
    operation is given a value anyway.  Here each of them is guarded: it has an
    answer if it is defined and none otherwise, and whatever rests on an operation
    without an answer has none either.

    What carries the argument is the same in both directions.  A digit is smaller
    than its base and a base is no larger than the alphabet (`takeDigit?_eq`), a base
    is at least ten, so dividing by it gets to zero (`takeDigits?_eq`), the mask is
    not empty (`getLast?_bases`), and a code is no shorter than the mask
    (`baseAt?_eq`).

    Main statement: `guards_hold`, the guarded operations have an answer for every
    scheme, value and text, and it is that of the plain ones. -/

namespace OpaqueId

open MixedRadix

/-- Quotient and remainder, unless the divisor is zero. -/
def divMod? (n divisor : Nat) : Option (Nat × Nat) :=
  if divisor = 0 then none else some (n / divisor, n % divisor)

/-- Division by a positive number has an answer. -/
theorem divMod?_of_pos {divisor : Nat} (h : 0 < divisor) (n : Nat) :
    divMod? n divisor = some (n / divisor, n % divisor) :=
  if_neg (Nat.ne_of_gt h)

theorem MixedRadix.length_zero (base : Nat) : MixedRadix.length base 0 = 0 := by
  rw [MixedRadix.length, dif_pos (Or.inl rfl)]

namespace Alphabet

/-! ## Check symbols -/

/-- The running sum, with its divisions guarded. -/
def sumTo? (a : Alphabet) : (text : List Char) → (position sum : Nat) →
    Option (Except ForeignCharacter Nat)
  | [], _, sum => some (.ok sum)
  | c :: rest, position, sum =>
    match a.index? c with
    | none => some (.error ⟨c, position⟩)
    | some index => do
      let (_, weight) ← divMod? (position + 1) a.size
      let (_, total) ← divMod? (sum + index * weight) a.size
      a.sumTo? rest (position + 1) total

/-- The check symbol, with the divisions and the look-up of the sum guarded. -/
def checkSymbolOf? (a : Alphabet) (text : List Char) : Option (Except ForeignCharacter Char) := do
  match ← a.sumTo? text 0 0 with
  | .error found => return .error found
  | .ok sum => return .ok (← a.symbol? sum)

/-- No symbol is looked up in vain, so the guarded sum has the answer of the other. -/
theorem sumTo?_eq (a : Alphabet) (text : List Char) (position sum : Nat) :
    a.sumTo? text position sum = some (a.runningSum text position sum) := by
  induction text generalizing position sum with
  | nil => rfl
  | cons c rest ih =>
      rw [sumTo?, runningSum]
      cases a.index? c with
      | none => rfl
      | some index =>
          simp only [divMod?_of_pos a.size_pos, Option.bind_eq_bind, Option.bind_some]
          exact ih _ _

/-- The remainder of the sum is the index of a symbol. -/
theorem checkSymbolOf?_eq (a : Alphabet) (text : List Char) :
    a.checkSymbolOf? text = some (a.checkSymbolOf text) := by
  rw [checkSymbolOf?, checkSymbolOf, sumTo?_eq]
  cases hsum : a.runningSum text 0 0 with
  | error found => rfl
  | ok sum =>
      have hlt : sum < a.size := a.runningSum_lt a.size_pos hsum
      show (a.symbol? sum).bind _ = _
      rw [symbol?_eq_some_symbolFor hlt]
      rfl

/-! ## Digits -/

/-- Takes the last digit off what is left and puts its symbol in front of the code. -/
def takeDigit? (a : Alphabet) (base : Nat) : (state : List Char × Nat) → Option (List Char × Nat)
  | (code, left) => do
    let (rest, digit) ← divMod? left base
    return ((← a.symbol? digit) :: code, rest)

/-- Takes digits off until nothing is left.  A round that leaves as much as there was would
    be repeated for ever and has no answer. -/
def takeDigits? (a : Alphabet) (base : Nat) (state : List Char × Nat) : Option (List Char) :=
  if state.2 = 0 then some state.1
  else
    match a.takeDigit? base state with
    | none => none
    | some next => if _h : next.2 < state.2 then a.takeDigits? base next else none
termination_by state.2

/-- A remainder by a base that is no larger than the alphabet is the index of a symbol. -/
theorem takeDigit?_eq {a : Alphabet} {base : Nat} (hpos : 0 < base) (hsize : base ≤ a.size)
    (code : List Char) (left : Nat) :
    a.takeDigit? base (code, left) = some (a.symbolFor (left % base) :: code, left / base) := by
  have hdigit : left % base < a.size := (Nat.mod_lt left hpos).trans_le hsize
  rw [takeDigit?, divMod?_of_pos hpos]
  show (a.symbol? (left % base)).bind _ = _
  rw [symbol?_eq_some_symbolFor hdigit]
  rfl

/-- Digit by digit from the back, the mask writes what `split` does. -/
theorem foldrM_takeDigit?_eq {a : Alphabet} {bases : List Nat}
    (hbases : ∀ base ∈ bases, 0 < base ∧ base ≤ a.size) (n : Nat) :
    bases.foldrM a.takeDigit? ([], n) =
      some ((split bases n).1.map a.symbolFor, (split bases n).2) := by
  induction bases with
  | nil => rfl
  | cons base bases ih =>
      obtain ⟨⟨hpos, hsize⟩, hrest⟩ := List.forall_mem_cons.mp hbases
      rw [List.foldrM_cons, ih hrest]
      exact takeDigit?_eq hpos hsize _ _

/-- Dividing by a base of two or more comes to an end, after as many digits as the
    number has. -/
theorem takeDigits?_eq {a : Alphabet} {base : Nat} (hbase : 1 < base) (hsize : base ≤ a.size)
    (code : List Char) (left : Nat) :
    a.takeDigits? base (code, left) =
      some ((split (List.replicate (MixedRadix.length base left) base) left).1.map a.symbolFor
        ++ code) := by
  induction left using Nat.strongRecOn generalizing code with
  | ind left ih =>
      rw [takeDigits?, MixedRadix.length]
      by_cases hleft : left = 0
      · rw [if_pos hleft, dif_pos (Or.inl hleft)]
        rfl
      · have hlt : left / base < left := Nat.div_lt_self (Nat.pos_of_ne_zero hleft) hbase
        rw [if_neg hleft, dif_neg (by omega), takeDigit?_eq (Nat.zero_lt_of_lt hbase) hsize]
        dsimp only
        rw [dif_pos hlt, ih _ hlt, List.replicate_succ', split_append, List.map_append,
          List.append_assoc]
        rfl

end Alphabet

namespace Scheme

/-! ## Bases -/

/-- Every base is positive, and no larger than the alphabet. -/
theorem basesFor_bounds (s : Scheme) (length : Nat) :
    ∀ base ∈ s.basesFor length, 0 < base ∧ base ≤ s.alphabet.size := by
  intro base hbase
  obtain ⟨k, -, rfl⟩ := List.mem_map.mp hbase
  exact ⟨s.basesFor_pos length _ hbase, k.base_le_size s.alphabet⟩

theorem bases_bounds (s : Scheme) : ∀ base ∈ s.bases, 0 < base ∧ base ≤ s.alphabet.size := by
  rw [← basesFor_width]
  exact s.basesFor_bounds _

theorem lastBase_le_size (s : Scheme) : s.lastBase ≤ s.alphabet.size := by
  rw [lastBase_eq]
  exact s.lastClass.base_le_size s.alphabet

/-- The mask is not empty, so it has a last base. -/
theorem getLast?_bases (s : Scheme) : s.bases.getLast? = some s.lastBase := by
  rw [bases, List.getLast?_map, List.getLast?_eq_some_getLast s.mask_ne_nil, lastBase_eq]
  rfl

theorem length_bases (s : Scheme) : s.bases.length = s.template.width := by
  rw [bases, List.length_map, Template.width]

/-! ## Minting -/

/-- The code of a value, with every operation guarded. -/
def encode? (s : Scheme) (value : Nat) : Option (Except Refusal (List Char)) := do
  let (code, left) ← s.bases.foldrM s.alphabet.takeDigit? ([], value)
  if left = 0 then return .ok code
  match s.capacity with
  | .unbounded =>
    let base ← s.bases.getLast?
    return .ok (← s.alphabet.takeDigits? base (code, left))
  | .bounded count => return .error (.beyondCapacity value count)

/-- The identifier of a value, with every operation guarded. -/
def mint? (s : Scheme) (value : Nat) : Option (Except Refusal String) := do
  match ← s.encode? value with
  | .error refusal => return .error refusal
  | .ok code =>
    if s.template.checked then
      match ← s.alphabet.checkSymbolOf? (s.stem ++ code) with
      | .ok symbol => return .ok (String.ofList (s.stem ++ code ++ [symbol]))
      | .error found => return .error (.foreign found)
    else return .ok (String.ofList (s.stem ++ code))

/-- The digits of a value are those of the mask, behind those of what is left over. -/
theorem digits_eq_append (s : Scheme) (value : Nat) :
    s.digits value =
      (split (List.replicate (s.extension value) s.lastBase) (split s.bases value).2).1
        ++ (split s.bases value).1 := by
  rw [digits, basesFor_eq, Nat.add_sub_cancel_left, split_append]

/-- Encoding always has an answer, with all guards in place. -/
theorem encode?_eq (s : Scheme) (value : Nat) : s.encode? value = some (s.encode value) := by
  rw [encode?, Alphabet.foldrM_takeDigit?_eq s.bases_bounds, encode, digits_eq_append, extension]
  simp only [Option.bind_eq_bind, Option.bind_some]
  generalize split s.bases value = state
  obtain ⟨code, left⟩ := state
  dsimp only
  by_cases hleft : left = 0
  · -- nothing is left over, and the digits are those of the mask
    rw [if_pos hleft, hleft, length_zero]
    cases s.capacity <;> rfl
  · rw [if_neg hleft]
    cases s.capacity with
    | bounded count =>
        dsimp only
        rw [if_neg hleft]
        rfl
    | unbounded =>
        dsimp only
        rw [getLast?_bases, Option.bind_some, Alphabet.takeDigits?_eq s.one_lt_lastBase
          s.lastBase_le_size, List.map_append]
        rfl

theorem mint?_eq (s : Scheme) (value : Nat) : s.mint? value = some (s.mint value) := by
  rw [mint?, encode?_eq, mint]
  cases s.encode value with
  | error refusal => rfl
  | ok code =>
      simp only [Option.bind_eq_bind, Option.bind_some, addCheckSymbol, Alphabet.checkSymbolOf?_eq]
      cases s.template.checked with
      | false => rfl
      | true =>
          cases s.alphabet.checkSymbolOf (s.stem ++ code) <;> rfl

/-! ## Decoding -/

/-- The symbol behind stem and code compared with a guarded check symbol. -/
def verifyCheckSymbol? (s : Scheme) (code : List Char) (actual : Char) :
    Option (Except Rejection (List Char)) := do
  match ← s.alphabet.checkSymbolOf? (s.stem ++ code) with
  | .error _ => return .error .malformed
  | .ok expected =>
    return if expected = actual then .ok code else .error (.checkMismatch expected actual)

/-- The code in a text, with every operation guarded. -/
def locate? (s : Scheme) (text : String) : Option (Except Rejection (List Char)) :=
  match Text.afterStart? s.stem text.toList with
  | none => some (.error (.wrongStem s.template.stem))
  | some rest =>
    if s.template.checked then
      match rest.getLast? with
      | none => some (.error .malformed)
      | some actual =>
        if s.allowsCode rest.dropLast && s.alphabet.contains actual then
          s.verifyCheckSymbol? rest.dropLast actual
        else some (.error .malformed)
    else if s.allowsCode rest then some (.ok rest)
    else some (.error .malformed)

/-- The base of a position, of which as many as given stand in front of the mask. -/
def baseAt? (s : Scheme) (front lastBase position : Nat) : Option Nat :=
  if position < front then some lastBase else s.bases[position - front]?

/-- Reads a code from a position on, on top of a value. -/
def readFrom? (s : Scheme) (front lastBase : Nat) : (code : List Char) → (position value : Nat) →
    Option (Except Rejection Nat)
  | [], _, value => some (.ok value)
  | c :: code, position, value => do
    let base ← s.baseAt? front lastBase position
    match s.alphabet.index? c with
    | none => return .error .malformed
    | some digit =>
      if value * base + digit < valueLimit then
        s.readFrom? front lastBase code (position + 1) (value * base + digit)
      else return .error .overflow

/-- The value of a text, with every operation guarded. -/
def decode? (s : Scheme) (text : String) : Option (Except Rejection Nat) := do
  match ← s.locate? text with
  | .error rejection => return .error rejection
  | .ok code =>
    let lastBase ← s.bases.getLast?
    s.readFrom? (code.length - s.bases.length) lastBase code 0 0

/-- Verifying a check symbol has an answer. -/
theorem verifyCheckSymbol?_eq (s : Scheme) (code : List Char) (actual : Char) :
    s.verifyCheckSymbol? code actual = some (s.verifyCheckSymbol code actual) := by
  rw [verifyCheckSymbol?, verifyCheckSymbol, Alphabet.checkSymbolOf?_eq]
  cases s.alphabet.checkSymbolOf (s.stem ++ code) <;> rfl

/-- Locating a code has an answer: a rest is only taken behind a stem that the text begins
    with. -/
theorem locate?_eq (s : Scheme) (text : String) : s.locate? text = some (s.locate text) := by
  rw [locate?, locate]
  cases Text.afterStart? s.stem text.toList with
  | none => rfl
  | some rest =>
      dsimp only
      rw [locateCode]
      cases s.template.checked with
      | false => cases s.allowsCode rest <;> rfl
      | true =>
          cases rest.getLast? with
          | none => rfl
          | some actual =>
              simp only [if_true, verifyCheckSymbol?_eq]
              cases s.allowsCode rest.dropLast && s.alphabet.contains actual <;> rfl

/-- A position has the base that the list of all bases has there. -/
theorem baseAt?_eq (s : Scheme) (length position : Nat) :
    s.baseAt? (length - s.bases.length) s.lastBase position = (s.basesFor length)[position]? := by
  rw [baseAt?, basesFor_eq, List.getElem?_append, List.length_replicate, length_bases]
  by_cases hfront : position < length - s.template.width
  · rw [if_pos hfront, if_pos hfront, List.getElem?_replicate, if_pos hfront]
  · rw [if_neg hfront, if_neg hfront]

/-- Reading from a position on asks for the bases that are left, and for no other. -/
theorem readFrom?_eq (s : Scheme) (length position : Nat) {digits : List Nat}
    (h : Within ((s.basesFor length).drop position) digits) (value : Nat) :
    s.readFrom? (length - s.bases.length) s.lastBase (digits.map s.alphabet.symbolFor)
        position value =
      some (match (((s.basesFor length).drop position).zip digits).foldlM
          (fun v (base, digit) =>
            if v * base + digit < valueLimit then some (v * base + digit) else none) value with
        | none => .error .overflow
        | some value => .ok value) := by
  induction digits generalizing position value with
  | nil =>
      rw [Within, List.forall₂_nil_right_iff] at h
      rw [h]
      rfl
  | cons digit digits ih =>
      obtain ⟨base, rest, hdigit, hrest, hdrop⟩ := List.forall₂_cons_right_iff.mp h
      -- the first of the bases that are left is the one of this position
      have hbase : (s.basesFor length)[position]? = some base := by
        rw [← List.head?_drop, hdrop, List.head?_cons]
      have hnext : (s.basesFor length).drop (position + 1) = rest := by
        rw [← List.tail_drop, hdrop, List.tail_cons]
      have hsize := (s.basesFor_bounds length base (List.mem_of_getElem? hbase)).2
      have hindex := Alphabet.index?_symbolFor (hdigit.trans_le hsize)
      rw [List.map_cons, readFrom?, baseAt?_eq, hbase, hindex, hdrop, List.zip_cons_cons,
        List.foldlM_cons]
      by_cases hlimit : value * base + digit < valueLimit
      · simp only [Option.bind_eq_bind, Option.bind_some, if_pos hlimit]
        rw [ih _ (hnext ▸ hrest), hnext]
      · simp only [Option.bind_eq_bind, Option.bind_some, if_neg hlimit, Option.bind_none]
        rfl

/-- Decoding always has an answer, with all guards in place. -/
theorem decode?_eq (s : Scheme) (text : String) : s.decode? text = some (s.decode text) := by
  rw [decode?, locate?_eq, decode]
  cases hlocate : s.locate text with
  | error rejection => rfl
  | ok code =>
      obtain ⟨hshaped, -⟩ := (s.locate_eq_ok_iff text code).mp hlocate
      obtain ⟨digits, hnumeral, rfl⟩ := hshaped.exists_numeral
      have hread := s.readFrom?_eq digits.length 0 hnumeral.within 0
      simp only [Option.bind_eq_bind, Option.bind_some, getLast?_bases, List.length_map, hread]
      rw [decodeCode, digitsOf?_map_symbolFor hnumeral.within, List.length_map]
      rfl

/-- **The guards hold.**  Check symbols of all texts, identifiers of all values and values of
    all texts are computed without a division by zero, without an index that is too large,
    without a base in place of that of an empty mask, and without a loop that does not end;
    and with every operation guarded they are what they are without. -/
theorem guards_hold :
    (∀ (a : Alphabet) (text : String),
      a.checkSymbolOf? text.toList = some (a.checkSymbol text)) ∧
    ∀ s : Scheme, (∀ value, s.mint? value = some (s.mint value)) ∧
      ∀ text, s.decode? text = some (s.decode text) :=
  ⟨fun a text => a.checkSymbolOf?_eq text.toList, fun s => ⟨s.mint?_eq, s.decode?_eq⟩⟩

end Scheme

end OpaqueId
