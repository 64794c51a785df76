import OpaqueId.Settings

/-! # Saved text: settings read back as they were saved

    A record of texts is laid out field by field, and each field comes back as
    three tokens: its name, a colon and its value (`tokensFrom_fields`).  Blanks
    and line breaks between them are dropped, and inside a literal nothing is
    read as anything else, because quoting escapes what would end it.

    The fields of the record are then found again in order
    (`members?_fields`), and each setting is the value of the one field of its
    name.  Main statement: `Settings.read?_render`. -/

namespace OpaqueId

namespace Json

/-! ## Tokens -/

/-- Blanks in front of a token are dropped. -/
theorem tokensFrom_eq (text : List Char) (done : List Token) :
    tokensFrom text done =
      match text.dropWhile isBlank with
      | [] => some done.reverse
      | c :: rest =>
        match Token.next? c rest with
        | none => none
        | some (t, rest) => tokensFrom rest (t :: done) := by
  rw [tokensFrom]
  split
  · rename_i hblank
    rw [hblank]
  · rename_i c rest hblank
    rw [hblank]
    split
    · rename_i hnext
      simp [hnext]
    · rename_i t rest' hnext
      simp [hnext]

/-- A blank between tokens is skipped. -/
theorem tokensFrom_blank {c : Char} (h : isBlank c = true) (text : List Char)
    (done : List Token) : tokensFrom (c :: text) done = tokensFrom text done := by
  rw [tokensFrom_eq, tokensFrom_eq text, List.dropWhile_cons_of_pos h]

/-- A token is read from the character that it begins with. -/
theorem tokensFrom_next {c : Char} (h : isBlank c = false) {text rest : List Char} {t : Token}
    (hnext : Token.next? c text = some (t, rest)) (done : List Token) :
    tokensFrom (c :: text) done = tokensFrom rest (t :: done) := by
  rw [tokensFrom_eq, List.dropWhile_cons_of_neg (by rw [h]; exact Bool.false_ne_true)]
  simp [hnext]

/-- A literal is one token. -/
theorem tokensFrom_quote (text rest : List Char) (done : List Token) :
    tokensFrom (quote text ++ rest) done =
      tokensFrom rest (.string (text.map Piece.char) :: done) := by
  have hquote : quote text ++ rest = '"' :: ((quote text).tail ++ rest) := rfl
  have hnext : Token.next? '"' ((quote text).tail ++ rest) =
      some (.string (text.map Piece.char), rest) := by
    show (readBody ((quote text).tail ++ rest) []).map _ = _
    rw [readBody_quote]
    rfl
  rw [hquote, tokensFrom_next rfl hnext]

/-- A field of a record of texts, as it is laid out. -/
def fieldText (field : String × String) : List Char :=
  [' ', ' '] ++ (quote field.1.toList ++ ([':', ' '] ++ quote field.2.toList))

/-- The tokens of a field. -/
def fieldTokens (field : String × String) : List Token :=
  [.string (field.1.toList.map Piece.char), .colon, .string (field.2.toList.map Piece.char)]

/-- A field is read as its tokens: a name, a colon and a text. -/
theorem tokensFrom_field (field : String × String) (rest : List Char) (done : List Token) :
    tokensFrom (fieldText field ++ rest) done =
      tokensFrom rest ((fieldTokens field).reverse ++ done) := by
  have hcolon : Token.next? ':' (' ' :: (quote field.2.toList ++ rest)) =
      some (.colon, ' ' :: (quote field.2.toList ++ rest)) := rfl
  rw [fieldText]
  simp only [List.append_assoc, List.cons_append, List.nil_append]
  rw [tokensFrom_blank rfl, tokensFrom_blank rfl, tokensFrom_quote, tokensFrom_next rfl hcolon,
    tokensFrom_blank rfl, tokensFrom_quote]
  rfl

/-- Fields one a line are read as their tokens with a comma between them. -/
theorem tokensFrom_fields (fields : List (String × String)) (rest : List Char)
    (done : List Token) :
    tokensFrom ([',', '\n'].intercalate (fields.map fieldText) ++ rest) done =
      tokensFrom rest (([Token.comma].intercalate (fields.map fieldTokens)).reverse ++ done) := by
  induction fields generalizing done with
  | nil => rfl
  | cons field fields ih =>
      cases fields with
      | nil =>
          simp only [List.map_cons, List.map_nil, List.intercalate_singleton]
          exact tokensFrom_field field rest done
      | cons field' fields =>
          -- two fields are separated by a comma and a line break, of which only the comma is read
          have hcomma : ∀ text, Token.next? ',' text = some (.comma, text) := fun _ => rfl
          simp only [List.map_cons, List.intercalate_cons_cons, List.append_assoc] at ih ⊢
          rw [tokensFrom_field, List.cons_append, tokensFrom_next rfl (hcomma _),
            List.singleton_append, tokensFrom_blank rfl, ih]
          simp

/-! ## Records of texts -/

/-- A record whose values are all texts. -/
def textRecord (fields : List (String × String)) : Record :=
  fields.map fun field => (field.1, .text field.2)

/-- A record of texts is written field by field between braces. -/
theorem toList_render_textRecord {fields : List (String × String)} (h : fields ≠ []) :
    (Record.render 0 (textRecord fields)).toList =
      '\x7b' :: '\n' :: ([',', '\n'].intercalate (fields.map fieldText) ++ ['\n', '\x7d']) := by
  have hitem : ∀ field : String × String,
      (indent (0 + 1) ++ (literal field.1 ++ ": " ++ literal field.2)).toList =
        fieldText field := by
    intro field
    simp [indent, literal, fieldText, List.replicate]
  have hempty : (textRecord fields).isEmpty = false := by
    cases fields with
    | nil => exact absurd rfl h
    | cons field fields => rfl
  rw [Record.render, layOut, List.isEmpty_map, hempty, if_neg Bool.false_ne_true]
  simp only [textRecord, List.map_map, String.toList_append, String.toList_intercalate]
  have hitems : fields.map (String.toList ∘ (fun item => indent (0 + 1) ++ item) ∘
      (fun x : String × Value => literal x.1 ++ ": " ++ x.2.render (0 + 1)) ∘
        fun field => (field.1, Value.text field.2)) = fields.map fieldText :=
    List.map_congr_left fun field _ => hitem field
  rw [hitems]
  simp [indent]

/-- The tokens of a record of texts. -/
theorem tokens_render_textRecord (fields : List (String × String)) :
    tokens (Record.render 0 (textRecord fields)).toList =
      some (.opening .brace :: ([Token.comma].intercalate (fields.map fieldTokens)
        ++ [.closing .brace])) := by
  have hopen : ∀ text, Token.next? '\x7b' text = some (.opening .brace, text) := fun _ => rfl
  have hclose : ∀ text, Token.next? '\x7d' text = some (.closing .brace, text) := fun _ => rfl
  have hend : ∀ done, tokensFrom [] done = some done.reverse := fun done => tokensFrom_eq [] done
  by_cases h : fields = []
  · subst h
    -- without fields the braces stand on one line
    have hrender : (Record.render 0 (textRecord [])).toList = ['\x7b', '\x7d'] := by decide
    rw [hrender, tokens, tokensFrom_next rfl (hopen _), tokensFrom_next rfl (hclose _), hend]
    rfl
  · rw [toList_render_textRecord h, tokens, tokensFrom_next rfl (hopen _), tokensFrom_blank rfl,
      tokensFrom_fields, tokensFrom_blank rfl, tokensFrom_next rfl (hclose _), hend]
    simp

/-! ## Fields -/

/-- A field of an object that holds a text. -/
def textMember (field : String × String) : Member :=
  (field.1.toList.map Piece.char, .string (field.2.toList.map Piece.char))

theorem membersFrom_comma (name text : List Piece) (rest : List Token) (done : List Member) :
    membersFrom done (.string name :: .colon :: .string text :: .comma :: rest) =
      membersFrom ((name, .string text) :: done) rest := by
  rw [membersFrom]
  rfl

theorem membersFrom_end (name text : List Piece) (done : List Member) :
    membersFrom done [.string name, .colon, .string text, .closing .brace] =
      some ((name, .string text) :: done).reverse := by
  rw [membersFrom]
  rfl

/-- The tokens of the fields are read as their members. -/
theorem membersFrom_fields {fields : List (String × String)} (h : fields ≠ [])
    (done : List Member) :
    membersFrom done ([Token.comma].intercalate (fields.map fieldTokens) ++ [.closing .brace]) =
      some (done.reverse ++ fields.map textMember) := by
  induction fields generalizing done with
  | nil => exact absurd rfl h
  | cons field fields ih =>
      cases fields with
      | nil =>
          rw [List.map_cons, List.map_nil, List.intercalate_singleton]
          exact (membersFrom_end _ _ done).trans (by simp [textMember])
      | cons field' fields =>
          -- a comma asks for one more field, so the rest is not empty
          have hrest := ih (List.cons_ne_nil _ _) (textMember field :: done)
          simp only [List.map_cons, List.intercalate_cons_cons, List.append_assoc,
            List.singleton_append] at hrest ⊢
          refine (membersFrom_comma _ _ _ done).trans (hrest.trans ?_)
          simp

theorem members?_fields (fields : List (String × String)) :
    members? ([Token.comma].intercalate (fields.map fieldTokens) ++ [.closing .brace]) =
      some (fields.map textMember) := by
  cases fields with
  | nil => rfl
  | cons field fields =>
      have hfields := membersFrom_fields (List.cons_ne_nil field fields) []
      rw [List.reverse_nil, List.nil_append] at hfields
      rw [← hfields]
      cases fields with
      | nil => rfl
      | cons field' fields => rfl

end Json

namespace Settings

open Json (Shallow Piece textMember textRecord)

/-! ## Settings -/

/-- The settings that are there, by name. -/
def present (s : Settings) : List (String × String) :=
  (s.template.map ("template", ·)).toList ++ (s.alphabet.map ("alphabet", ·)).toList

/-- Only the settings that are present are written. -/
theorem fields_eq_textRecord (s : Settings) : s.fields = textRecord s.present := by
  obtain ⟨template, alphabet⟩ := s
  cases template <;> cases alphabet <;> rfl

/-- A text as it stands in a field. -/
def heldText (text : String) : Shallow := .string (text.toList.map Piece.char)

theorem textOf?_heldText (text : String) : textOf? (heldText text) = some (some text) := by
  rw [heldText, textOf?, Json.join_chars, Option.map_some, String.ofList_toList]

theorem named?_textMember (field : String × String) :
    named? (textMember field) = some (field.1.toList, heldText field.2) := by
  rw [textMember, named?, Json.join_chars]
  rfl

theorem mapM_named?_textMember (fields : List (String × String)) :
    (fields.map textMember).mapM named? =
      some (fields.map fun field => (field.1.toList, heldText field.2)) := by
  induction fields with
  | nil => rfl
  | cons field fields ih =>
      rw [List.map_cons, List.mapM_cons, named?_textMember, ih]
      rfl

/-- A setting is found under its name, and nothing is found of an absent one. -/
theorem setting?_present (s : Settings) :
    let members := s.present.map fun field => (field.1.toList, heldText field.2)
    setting? members "template" = some s.template ∧
      setting? members "alphabet" = some s.alphabet := by
  obtain ⟨template, alphabet⟩ := s
  cases template <;> cases alphabet <;> constructor <;>
    simp [present, setting?, textOf?_heldText]

/-- The members of what is present give the settings back. -/
theorem ofMembers?_present (s : Settings) : ofMembers? (s.present.map textMember) = some s := by
  obtain ⟨htemplate, halphabet⟩ := setting?_present s
  rw [ofMembers?, mapM_named?_textMember]
  show (setting? _ "template").bind _ = _
  rw [htemplate]
  show (setting? _ "alphabet").bind _ = _
  rw [halphabet]
  rfl

/-- What was saved is read back, whatever characters it holds. -/
theorem read?_render (s : Settings) : read? s.render = some s := by
  rw [read?, render, fields_eq_textRecord, Json.tokens_render_textRecord]
  show (Json.members? _).bind ofMembers? = some s
  rw [Json.members?_fields]
  exact ofMembers?_present s

end Settings

end OpaqueId
