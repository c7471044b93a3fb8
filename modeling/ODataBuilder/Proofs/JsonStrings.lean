import ODataBuilder.Json.Decode
/-!
# Reading back written strings

Every character the writer puts between quotes, plain or escaped, reads back as itself, so a
written string is read whole and the cursor stops just past its closing quote.
-/
namespace ODataBuilder.Json

namespace Cursor

theorem peek_of_rest {c : Cursor} {ch : Char} {more : List Char} (h : c.rest = ch :: more) :
    c.peek = some ch := by
  simp [peek,h]

theorem advance_rest {c : Cursor} {ch : Char} {more : List Char} (h : c.rest = ch :: more) :
    c.advance.rest = more := by
  by_cases line : ch = '\n' <;> simp [advance,h,line]

theorem skipBlank_of_rest {c : Cursor} {ch : Char} {more : List Char} (h : c.rest = ch :: more)
    (notBlank : ch ∉ [' ','\n','\t','\r']) : c.skipBlank = c := by
  simp only [List.mem_cons,List.not_mem_nil,or_false,not_or] at notBlank
  obtain ⟨notSpace,notLine,notTab,notReturn⟩ := notBlank
  simp [skipBlank,fuel,h,skipBlankFor,peek,notSpace,notLine,notTab,notReturn]

theorem nextKey_quote {c : Cursor} {more : List Char} (h : c.rest = '"' :: more) :
    c.nextKey true = .ok (some c) := by
  simp [nextKey,skipBlank_of_rest h (by decide),peek_of_rest h]

theorem nextKey_close {c : Cursor} {more : List Char} (first : Bool) (h : c.rest = '\x7d' :: more) :
    c.nextKey first = .ok none := by
  simp [nextKey,skipBlank_of_rest h (by decide),peek_of_rest h]

theorem readColon_colon {c : Cursor} {more : List Char} (h : c.rest = ':' :: more) :
    c.readColon = .ok c.advance := by
  simp [readColon,skipBlank_of_rest h (by decide),peek_of_rest h]

theorem readText_quote {c : Cursor} {more : List Char} (expected : String)
    (h : c.rest = '"' :: more) : c.readText expected = readString c.advance := by
  simp [readText,skipBlank_of_rest h (by decide),peek_of_rest h]

theorem closeObject_close {c : Cursor} {more : List Char} (h : c.rest = '\x7d' :: more) :
    c.closeObject = (c.advance,none) := by
  simp [closeObject,skipBlank_of_rest h (by decide),peek_of_rest h]

theorem finish_nil {c : Cursor} (h : c.rest = []) : c.finish = .ok () := by
  simp [finish,skipBlank,skipBlankFor,fuel,peek,h]

end Cursor

theorem hexValue_hexDigit : ∀ n < 16, hexValue? (hexDigit n) = some n := by decide

theorem utf8Size_hexDigit : ∀ n < 16, (hexDigit n).utf8Size = 1 := by decide

theorem readHex4_digits {c : Cursor} {a b d e : Char} {more : List Char}
    (h : c.rest = a :: b :: d :: e :: more) {va vb vd ve : Nat}
    (ha : hexValue? a = some va) (hb : hexValue? b = some vb) (hd : hexValue? d = some vd)
    (he : hexValue? e = some ve)
    (bytes : a.utf8Size + (b.utf8Size + (d.utf8Size + e.utf8Size)) = 4) :
    readHex4 c = .ok (((va * 16 + vb) * 16 + vd) * 16 + ve, c.advance.advance.advance.advance) := by
  simp [readHex4,h,bytes,ha,hb,hd,he]

/-- How a character is written inside a JSON string: as itself, as a backslash and one letter
that reads back as it, or as a `\u00xx` escape. -/
theorem escapeChar_cases (x : Char) :
    (escapeChar x = [x] ∧ x ≠ '"' ∧ x ≠ '\\' ∧ ¬ x.toNat < 0x20) ∨
    (∃ e, escapeChar x = ['\\',e] ∧
      ∀ (d : Cursor) (more : List Char), d.rest = e :: more → readEscape d = .ok (x,d.advance)) ∨
    (x.toNat < 32 ∧
      escapeChar x = ['\\','u','0','0',hexDigit (x.toNat / 16),hexDigit (x.toNat % 16)]) := by
  -- a control character reads back from its code
  have coded : ∀ n, x.toNat = n → x = Char.ofNat n := fun n same => same ▸ (Char.ofNat_toNat x).symm
  unfold escapeChar
  split
  · subst_vars
    exact .inr (.inl ⟨'"',rfl,fun d more h => by simp [readEscape,Cursor.peek_of_rest h]⟩)
  split
  · subst_vars
    exact .inr (.inl ⟨'\\',rfl,fun d more h => by simp [readEscape,Cursor.peek_of_rest h]⟩)
  split
  · exact .inr (.inl ⟨'b',rfl,fun d more h => by
      simp [readEscape,Cursor.peek_of_rest h,coded 8 ‹_›]⟩)
  split
  · exact .inr (.inl ⟨'t',rfl,fun d more h => by
      simp [readEscape,Cursor.peek_of_rest h,coded 9 ‹_›]⟩)
  split
  · exact .inr (.inl ⟨'n',rfl,fun d more h => by
      simp [readEscape,Cursor.peek_of_rest h,coded 10 ‹_›]⟩)
  split
  · exact .inr (.inl ⟨'f',rfl,fun d more h => by
      simp [readEscape,Cursor.peek_of_rest h,coded 12 ‹_›]⟩)
  split
  · exact .inr (.inl ⟨'r',rfl,fun d more h => by
      simp [readEscape,Cursor.peek_of_rest h,coded 13 ‹_›]⟩)
  split
  · exact .inr (.inr ⟨‹_›,rfl⟩)
  · exact .inl ⟨rfl,‹_›,‹_›,‹_›⟩

theorem readEscape_control {d : Cursor} {x : Char} {more : List Char} (control : x.toNat < 32)
    (h : d.rest = 'u' :: '0' :: '0' :: hexDigit (x.toNat / 16) :: hexDigit (x.toNat % 16) :: more) :
    ∃ d', d'.rest = more ∧ readEscape d = .ok (x,d') := by
  have digits := Cursor.advance_rest h
  have hi := hexValue_hexDigit (x.toNat / 16) (by omega)
  have lo := hexValue_hexDigit (x.toNat % 16) (by omega)
  have bytes : '0'.utf8Size + ('0'.utf8Size + ((hexDigit (x.toNat / 16)).utf8Size +
      (hexDigit (x.toNat % 16)).utf8Size)) = 4 := by
    simp [utf8Size_hexDigit (x.toNat / 16) (by omega),utf8Size_hexDigit (x.toNat % 16) (by omega)]
    decide
  have zero : hexValue? '0' = some 0 := by decide
  have read := readHex4_digits digits zero zero hi lo bytes
  -- the four digits spell the code of the character, which is no surrogate
  have code : ((0 * 16 + 0) * 16 + x.toNat / 16) * 16 + x.toNat % 16 = x.toNat := by omega
  rw [code] at read
  have rest := Cursor.advance_rest (Cursor.advance_rest (Cursor.advance_rest
    (Cursor.advance_rest digits)))
  refine ⟨_,rest,?_⟩
  have notLow : ¬ (0xDC00 ≤ x.toNat ∧ x.toNat ≤ 0xDFFF) := by omega
  have below : x.toNat < 0xD800 := by omega
  simp [readEscape,Cursor.peek_of_rest h,readUnicodeEscape,read,notLow,below,bind,Except.bind,
    Char.ofNat_toNat]

theorem readStringFor_escapeChar (fuel : Nat) {c : Cursor} (acc : List Char) (x : Char)
    {more : List Char} (h : c.rest = escapeChar x ++ more) :
    ∃ c', c'.rest = more ∧ readStringFor (fuel + 1) c acc = readStringFor fuel c' (x :: acc) := by
  rcases escapeChar_cases x with ⟨plain,notQuote,notSlash,printable⟩ | ⟨e,short,reads⟩ |
    ⟨control,coded⟩
  · rw [plain,List.singleton_append] at h
    refine ⟨c.advance,Cursor.advance_rest h,?_⟩
    simp [readStringFor,Cursor.peek_of_rest h,printable]
  · rw [short] at h
    refine ⟨c.advance.advance,Cursor.advance_rest (Cursor.advance_rest h),?_⟩
    simp [readStringFor,Cursor.peek_of_rest h,reads c.advance more (Cursor.advance_rest h)]
  · rw [coded] at h
    obtain ⟨d,rest,read⟩ := readEscape_control control (Cursor.advance_rest h)
    exact ⟨d,rest,by simp [readStringFor,Cursor.peek_of_rest h,read]⟩

theorem escapeChar_ne_nil (x : Char) : escapeChar x ≠ [] := by
  rcases escapeChar_cases x with ⟨plain,-⟩ | ⟨e,short,-⟩ | ⟨-,coded⟩
  · simp [plain]
  · simp [short]
  · simp [coded]

theorem length_le_flatMap_escapeChar (cs : List Char) :
    cs.length ≤ (cs.flatMap escapeChar).length := by
  induction cs with
  | nil => simp
  | cons x rest ih =>
    have written := List.length_pos_iff.mpr (escapeChar_ne_nil x)
    simp only [List.flatMap_cons,List.length_append,List.length_cons]
    omega

/-- The written body of a string and its closing quote read back as the string, from any
number of characters already read, leaving what follows. -/
theorem readStringFor_quoted (s : List Char) :
    ∀ (fuel : Nat) (c : Cursor) (acc after : List Char),
      c.rest = s.flatMap escapeChar ++ '"' :: after → s.length < fuel →
      ∃ c', c'.rest = after ∧
        readStringFor fuel c acc = .ok (String.ofList (acc.reverse ++ s),c') := by
  induction s with
  | nil =>
    intro fuel c acc after h enough
    obtain ⟨fuel,rfl⟩ : ∃ k, fuel = k + 1 := ⟨fuel - 1,by simp at enough; omega⟩
    have h : c.rest = '"' :: after := by simpa using h
    exact ⟨c.advance,Cursor.advance_rest h,by simp [readStringFor,Cursor.peek_of_rest h]⟩
  | cons x rest ih =>
    intro fuel c acc after h enough
    obtain ⟨fuel,rfl⟩ : ∃ k, fuel = k + 1 := ⟨fuel - 1,by simp at enough; omega⟩
    obtain ⟨c',rest',step⟩ := readStringFor_escapeChar fuel acc x (by simpa using h)
    obtain ⟨c'',after',read⟩ := ih fuel c' (x :: acc) after rest' (by simp at enough; omega)
    exact ⟨c'',after',by simp [step,read]⟩

theorem readString_quoted (s : String) {c : Cursor} {after : List Char}
    (h : c.rest = s.toList.flatMap escapeChar ++ '"' :: after) :
    ∃ c', c'.rest = after ∧ readString c = .ok (s,c') := by
  have enough : s.toList.length < c.fuel := by
    have := length_le_flatMap_escapeChar s.toList
    simp only [Cursor.fuel,h,List.length_append,List.length_cons]
    omega
  obtain ⟨c',after',read⟩ := readStringFor_quoted s.toList c.fuel c [] after h enough
  exact ⟨c',after',by simpa [readString] using read⟩

end ODataBuilder.Json

