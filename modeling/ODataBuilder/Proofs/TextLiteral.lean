import ODataBuilder.Value.Literal

/-! Text literals read back. The literal of a text is the text between quotes with each quote
written twice; `Quoted.decode` reads a literal from the front of a character list, taking two
quotes for one and a lone quote for the end. Whatever follows the literal is left unread, as long
as it does not start with a quote (which would make the closing quote a doubled one), so literals
can stand anywhere in a filter and different texts have different literals. -/
namespace ODataBuilder

namespace Quoted

theorem escape_eq_flatMap (s : List Char) :
    escape s = s.flatMap fun c => if c = '\'' then ['\'','\''] else [c] := by
  induction s with
  | nil => rfl
  | cons c rest ih =>
    by_cases quote : c = '\'' <;> simp [escape,quote,ih]

theorem decodeBody_quote_cons {c : Char} {rest : List Char} (notQuote : c ≠ '\'') :
    decodeBody ('\'' :: c :: rest) = some ([], c :: rest) := by
  simp [decodeBody,notQuote]

theorem decodeBody_cons {c : Char} (rest : List Char) (notQuote : c ≠ '\'') :
    decodeBody (c :: rest) = (decodeBody rest).map fun (s, after) => (c :: s, after) := by
  cases rest <;> simp [decodeBody,notQuote]

theorem decodeBody_close (after : List Char) (stop : after.head? ≠ some '\'') :
    decodeBody ('\'' :: after) = some ([], after) := by
  cases after with
  | nil => rfl
  | cons c rest =>
    have notQuote : c ≠ '\'' := by simpa using stop
    exact decodeBody_quote_cons notQuote

theorem decodeBody_escape (s after : List Char) (stop : after.head? ≠ some '\'') :
    decodeBody (escape s ++ '\'' :: after) = some (s, after) := by
  induction s with
  | nil => exact decodeBody_close after stop
  | cons c rest ih =>
    by_cases quote : c = '\''
    · subst quote
      simp [escape,decodeBody,ih]
    · rw [escape,if_neg quote,List.cons_append,decodeBody_cons _ quote,ih]
      rfl

theorem decode_encode_append (s after : List Char) (stop : after.head? ≠ some '\'') :
    decode (encode s ++ after) = some (s, after) := by
  simpa [encode,decode] using decodeBody_escape s after stop

end Quoted

/-- The literal of a text is the text between quotes with every quote doubled and every other
character kept; the literal lexer reads it back from the front of any continuation that does not
start with a quote, consuming exactly the literal; so two texts with one literal are equal. -/
theorem text_literal_reads_back (s : String) :
    (Value.text s).literal.toList =
      '\'' :: s.toList.flatMap (fun c => if c = '\'' then ['\'','\''] else [c]) ++ ['\''] ∧
    (∀ after : List Char, after.head? ≠ some '\'' →
      Quoted.decode ((Value.text s).literal.toList ++ after) = some (s.toList, after)) ∧
    ∀ other : String, (Value.text other).literal = (Value.text s).literal → other = s := by
  have written (t : String) : (Value.text t).literal.toList = Quoted.encode t.toList := by
    simp [Value.literal,Quoted.quote]
  refine ⟨?_,?_,?_⟩
  · rw [written,Quoted.encode,Quoted.escape_eq_flatMap]
    rfl
  · intro after stop
    rw [written]
    exact Quoted.decode_encode_append s.toList after stop
  · intro other same
    have read := Quoted.decode_encode_append other.toList [] (by simp)
    rw [← written,same,written,Quoted.decode_encode_append s.toList [] (by simp)] at read
    have chars : s.toList = other.toList := by simpa using read
    exact (String.toList_inj.mp chars).symm

theorem quoted_name_reads_back :
    " eq Name".toList.head? ≠ some '\'' ∧
    Quoted.decode ((Value.text "O'Neil").literal.toList ++ " eq Name".toList) =
      some ("O'Neil".toList, " eq Name".toList) :=
  ⟨by decide,(text_literal_reads_back "O'Neil").2.1 _ (by decide)⟩

example : (Value.text "it''s").literal = "'it''''s'" := by decide

end ODataBuilder
