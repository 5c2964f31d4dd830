import FrontPage.Store.Objects

/-!
# Documents in the store

What a store holds as the UTF-8 of a text is read as that text (`decodeText_toUTF8`), and as the document that the text
writes (`ObjectStore.getJson?_of_text`).
-/

namespace FrontPage

theorem decodeText_toUTF8 (text : String) : decodeText text.toUTF8 = .ok text := by
  have h : String.fromUTF8? text.toUTF8 = some text := by
    rw [String.fromUTF8?, String.toUTF8_eq_toByteArray, dif_pos text.isValidUTF8]
    rfl
  rw [decodeText, h]

/-- A text that is written in three parts has the characters of the parts. -/
theorem ofList_append_append {a b c : List Char} :
    String.ofList a ++ String.ofList b ++ String.ofList c = String.ofList (a ++ b ++ c) := by
  rw [String.ofList_append, String.ofList_append]

theorem Json.read_of_chars {levels : Nat} {text : String} {chars : List Char} {value : Value}
    (htext : text = String.ofList chars) (h : (readWhole levels chars).toOption = some value) :
    read levels text = .ok value := by
  rw [read, htext, String.toList_ofList]
  cases hread : readWhole levels chars with
  | error flaw =>
    rw [hread] at h
    cases h
  | ok read =>
    rw [hread] at h
    cases h
    rfl

/-- A document that is stored as a text is read if there is room for its levels. -/
theorem ObjectStore.getJson?_of_text {store : ObjectStore} {key text : String} {path : Path} {document : Value}
    (hpath : store.path? key = .ok path) (hfile : store.file? path = some text.toUTF8)
    (hread : Json.read (store.room - readingSteps) text = .ok document) : store.getJson? key = .ok (some document) := by
  have htext : store.getText? key = .ok (some text) := by
    have hget : store.get? key = .ok (some text.toUTF8) := by
      rw [get?, hpath, ← hfile]
      rfl
    rw [getText?, hget]
    show some <$> decodeText text.toUTF8 = _
    rw [decodeText_toUTF8]
    rfl
  rw [getJson?, htext]
  show some <$> readDocument store.room text = _
  rw [readDocument, hread]
  rfl

end FrontPage
