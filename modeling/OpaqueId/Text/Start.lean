/-! # Starts: what a text begins with

    Main statement: `afterStart?_eq_some_iff`, the text is its start followed
    by what comes after it. -/

namespace OpaqueId.Text

/-- What comes after the given start of a text, if the text begins with it. -/
def afterStart? (start text : List Char) : Option (List Char) :=
  if start.isPrefixOf text then some (text.drop start.length) else none

/-- What is behind a start makes up the text with it. -/
theorem afterStart?_eq_some_iff (start text rest : List Char) :
    afterStart? start text = some rest ↔ text = start ++ rest := by
  unfold afterStart?
  constructor
  · intro h
    split at h
    · rename_i hstart
      obtain ⟨tail, htail⟩ := List.isPrefixOf_iff_prefix.mp hstart
      subst htail
      rw [List.drop_left] at h
      rw [Option.some.inj h]
    · cases h
  · rintro rfl
    rw [if_pos (List.isPrefixOf_iff_prefix.mpr (List.prefix_append start rest)),
      List.drop_left]

end OpaqueId.Text
