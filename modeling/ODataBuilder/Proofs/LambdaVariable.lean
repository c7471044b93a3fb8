import ODataBuilder.Proofs.JsonStrings
import ODataBuilder.Client.ConfigReader
import ODataBuilder.Expr.Serializer
/-!
# Which lambda variables are accepted

Both the JSON reader and `withLambdaVariable` check a lambda variable with `isIdentifier`,
which lets any number follow the first character. `isStrictIdentifier` is the check as
described, with decimal digits only; the two differ exactly on the other numbers.
-/
namespace ODataBuilder.RangeTable

theorem contains_of_covered {small large : List (Nat × Nat)}
    (covered : ∀ r ∈ small, ∃ s ∈ large, s.1 ≤ r.1 ∧ r.2 ≤ s.2) {n : Nat}
    (h : contains small n = true) : contains large n = true := by
  simp only [contains,List.any_eq_true,Bool.and_eq_true,decide_eq_true_eq] at h ⊢
  obtain ⟨⟨lo,hi⟩,member,low,high⟩ := h
  obtain ⟨⟨lo',hi'⟩,member',below,above⟩ := covered (lo,hi) member
  dsimp only at below above
  exact ⟨_,member',by omega,by omega⟩

end ODataBuilder.RangeTable

namespace ODataBuilder.Unicode

/-- The decimal digits (general category Nd) as of Unicode 17.0, as inclusive pairs of code
points in increasing order. -/
def decimalDigitTable : List (Nat × Nat) := [
  (0x30,0x39),(0x660,0x669),(0x6F0,0x6F9),(0x7C0,0x7C9),(0x966,0x96F),(0x9E6,0x9EF),(0xA66,0xA6F),
  (0xAE6,0xAEF),(0xB66,0xB6F),(0xBE6,0xBEF),(0xC66,0xC6F),(0xCE6,0xCEF),(0xD66,0xD6F),
  (0xDE6,0xDEF),(0xE50,0xE59),(0xED0,0xED9),(0xF20,0xF29),(0x1040,0x1049),(0x1090,0x1099),
  (0x17E0,0x17E9),(0x1810,0x1819),(0x1946,0x194F),(0x19D0,0x19D9),(0x1A80,0x1A89),(0x1A90,0x1A99),
  (0x1B50,0x1B59),(0x1BB0,0x1BB9),(0x1C40,0x1C49),(0x1C50,0x1C59),(0xA620,0xA629),(0xA8D0,0xA8D9),
  (0xA900,0xA909),(0xA9D0,0xA9D9),(0xA9F0,0xA9F9),(0xAA50,0xAA59),(0xABF0,0xABF9),(0xFF10,0xFF19),
  (0x104A0,0x104A9),(0x10D30,0x10D39),(0x10D40,0x10D49),(0x11066,0x1106F),(0x110F0,0x110F9),
  (0x11136,0x1113F),(0x111D0,0x111D9),(0x112F0,0x112F9),(0x11450,0x11459),(0x114D0,0x114D9),
  (0x11650,0x11659),(0x116C0,0x116C9),(0x116D0,0x116E3),(0x11730,0x11739),(0x118E0,0x118E9),
  (0x11950,0x11959),(0x11BF0,0x11BF9),(0x11C50,0x11C59),(0x11D50,0x11D59),(0x11DA0,0x11DA9),
  (0x11DE0,0x11DE9),(0x11F50,0x11F59),(0x16130,0x16139),(0x16A60,0x16A69),(0x16AC0,0x16AC9),
  (0x16B50,0x16B59),(0x16D70,0x16D79),(0x1CCF0,0x1CCF9),(0x1D7CE,0x1D7FF),(0x1E140,0x1E149),
  (0x1E2F0,0x1E2F9),(0x1E4F0,0x1E4F9),(0x1E5F1,0x1E5FA),(0x1E950,0x1E959),(0x1FBF0,0x1FBF9)]

def isDecimalDigit (c : Char) : Bool := RangeTable.contains decimalDigitTable c.toNat

/-- A number that is neither a letter nor a decimal digit: a superscript or subscript digit, a
vulgar fraction, a circled or parenthesised number, and the like. -/
def isOtherNumber (c : Char) : Bool := isNumeric c && !isAlphabetic c && !isDecimalDigit c

theorem isNumeric_of_isDecimalDigit {c : Char} (h : isDecimalDigit c = true) :
    isNumeric c = true :=
  RangeTable.contains_of_covered (by decide +kernel) h

theorem isDecimalDigit_of_isDigit {c : Char} (h : c.isDigit = true) : isDecimalDigit c = true := by
  have ascii : 48 ≤ c.toNat ∧ c.toNat ≤ 57 := Char.isDigit_iff_toNat.1 h
  obtain ⟨others,lead⟩ : ∃ others, decimalDigitTable = (0x30,0x39) :: others := ⟨_,rfl⟩
  simp [isDecimalDigit,lead,RangeTable.contains,ascii]

end ODataBuilder.Unicode

namespace ODataBuilder.ClientConfig

open Json

/-- The configuration document that sets only the lambda variable, as JSON writes it. -/
def variableDocument (name : String) : String :=
  (Json.object [("lambda_variable",.string name)]).render

theorem variableDocument_toList (name : String) :
    (variableDocument name).toList = '\x7b' :: '"' :: ("lambda_variable".toList ++ '"' :: ':' ::
      '"' :: (name.toList.flatMap escapeChar ++ '"' :: ['\x7d'])) := by
  simp [variableDocument,Json.render,Json.renderMembers,Json.quote,escapeChar]

/-- Reading the document that sets only the lambda variable gives the default configuration with
that variable when it is an identifier, and otherwise fails with the variable's message. -/
theorem ofJson_variableDocument (name : String) :
    (isIdentifier name = true → ofJson (variableDocument name) = .ok { lambdaVariable := name }) ∧
    (isIdentifier name = false → ∃ position,
      ofJson (variableDocument name) =
        .error (.parse ⟨(ConfigError.lambdaVariable name).message,some position⟩)) := by
  -- walk the cursor over the document, one token at a time
  obtain ⟨c0,hc0⟩ : ∃ c0, Cursor.start (variableDocument name) = c0 := ⟨_,rfl⟩
  have start : c0.rest = (variableDocument name).toList := by simp [← hc0,Cursor.start]
  rw [variableDocument_toList] at start
  have skipped : c0.skipBlank = c0 := Cursor.skipBlank_of_rest start (by decide)
  have h1 := Cursor.advance_rest start
  obtain ⟨c2,h2,key⟩ := readString_quoted "lambda_variable" (c := c0.advance.advance)
    (Cursor.advance_rest h1)
  have h3 := Cursor.advance_rest h2
  obtain ⟨c4,h4,value⟩ := readString_quoted name (c := c2.advance.advance)
    (Cursor.advance_rest h3)
  -- the object has room for its one member and the look for a second
  obtain ⟨fuel,hf⟩ : ∃ fuel, c0.fuel = fuel + 2 :=
    ⟨c0.rest.length - 1,by simp [Cursor.fuel,start]⟩
  have members : readMembers c0.fuel c0.advance true {} =
      if isIdentifier name then .ok ({ lambda := some name },c4)
      else .error (ReadError.custom (ConfigError.lambdaVariable name).message,c4) := by
    by_cases ident : isIdentifier name <;>
    simp [hf,readMembers,Cursor.nextKey_quote h1,key,readMember,Cursor.readColon_colon h2,
      readVariable,Except.map,Cursor.readText_quote _ h3,value,Cursor.nextKey_close _ h4,ident]
  constructor
  · intro ident
    simp [ofJson,hc0,skipped,Cursor.peek_of_rest start,members,ident,closed,
      Cursor.closeObject_close h4,Cursor.finish_nil (Cursor.advance_rest h4),Members.config]
  · intro notIdent
    refine ⟨c4.advance.position,?_⟩
    simp [ofJson,hc0,skipped,Cursor.peek_of_rest start,members,notIdent,closed,
      Cursor.closeObject_close h4,ReadError.custom,ReadError.placeAt]

end ODataBuilder.ClientConfig

namespace ODataBuilder

/-- An identifier as the variable check describes it: a letter or `_`, then letters, decimal
digits or `_`. -/
def isStrictIdentifier (s : String) : Bool :=
  match s.toList with
  | [] => false
  | first :: rest => (Unicode.isAlphabetic first || first == '_') &&
      rest.all fun c => Unicode.isAlphabetic c || Unicode.isDecimalDigit c || c == '_'

/-- A character may follow the first one of a strict identifier exactly when the check lets it
and it is not a number other than a decimal digit. -/
theorem laterChar_strict (c : Char) :
    (Unicode.isAlphabetic c || Unicode.isDecimalDigit c || c == '_') =
      ((Unicode.isAlphabetic c || Unicode.isNumeric c || c == '_') &&
        !Unicode.isOtherNumber c) := by
  by_cases underscore : c = '_'
  · subst underscore
    decide +kernel
  · have digit := @Unicode.isNumeric_of_isDecimalDigit c
    cases alpha : Unicode.isAlphabetic c <;> cases number : Unicode.isNumeric c <;>
      cases decimal : Unicode.isDecimalDigit c <;> simp_all [Unicode.isOtherNumber]

theorem isStrictIdentifier_iff (s : String) :
    isStrictIdentifier s = true ↔
      isIdentifier s = true ∧ ∀ c ∈ s.toList.drop 1, Unicode.isOtherNumber c = false := by
  unfold isStrictIdentifier isIdentifier
  cases s.toList with
  | nil => simp
  | cons first rest =>
    simp only [laterChar_strict,List.drop_succ_cons,List.drop_zero,Bool.and_eq_true,
      List.all_eq_true,Bool.not_eq_true']
    constructor
    · rintro ⟨head,later⟩
      exact ⟨⟨head,fun c member => (later c member).1⟩,fun c member => (later c member).2⟩
    · rintro ⟨⟨head,later⟩,plain⟩
      exact ⟨head,fun c member => ⟨later c member,plain c member⟩⟩

theorem isStrictIdentifier_lambdaVariable {pre : String} (h : isStrictIdentifier pre = true)
    (depth : Nat) : isStrictIdentifier (lambdaVariable pre depth) = true := by
  unfold lambdaVariable
  split
  · exact h
  · have digits : ∀ c ∈ (toString depth).toList, Unicode.isDecimalDigit c = true := by
      intro c member
      rw [Nat.toString_eq_repr,Nat.toList_repr] at member
      exact Unicode.isDecimalDigit_of_isDigit (Nat.isDigit_of_mem_toDigits (by decide) (by decide)
        member)
    unfold isStrictIdentifier at h ⊢
    rw [String.toList_append]
    revert h
    cases pre.toList with
    | nil => simp
    | cons first rest =>
      simp only [List.cons_append,List.all_append,Bool.and_eq_true,List.all_eq_true]
      exact fun h => ⟨h.1,h.2,fun c member => by simp [digits c member]⟩

/-- The lambda variable can be set from a JSON document or on a configuration, and both ways
accept the same names and give the same configuration. They meet the identifiers of the check's
description, so that every variable the serializer names from the prefix (`x`, `x1`, `x2`, …) is
one, exactly when the name is refused anyway or no character after its first is a number other
than a decimal digit. -/
theorem lambda_variable_strict_iff (s : String) :
    ((ClientConfig.ofJson (ClientConfig.variableDocument s)).toOption =
        (({} : ClientConfig).withLambdaVariable s).toOption ∧
      ((({} : ClientConfig).withLambdaVariable s).isOk = true ↔ isStrictIdentifier s = true) ∧
      ∀ config ∈ (({} : ClientConfig).withLambdaVariable s).toOption, ∀ depth,
        isStrictIdentifier (lambdaVariable config.lambdaVariable depth) = true) ↔
    ¬ (isIdentifier s = true ∧ ∃ c ∈ s.toList.drop 1, Unicode.isOtherNumber c = true) := by
  have read := ClientConfig.ofJson_variableDocument s
  -- both entry points turn on the one check, `isIdentifier`
  have agree : (ClientConfig.ofJson (ClientConfig.variableDocument s)).toOption =
      (({} : ClientConfig).withLambdaVariable s).toOption := by
    cases ident : isIdentifier s
    · obtain ⟨position,refused⟩ := read.2 ident
      simp [refused,ClientConfig.withLambdaVariable,ident,Except.toOption]
    · simp [read.1 ident,ClientConfig.withLambdaVariable,ident,Except.toOption]
  have accepted : (({} : ClientConfig).withLambdaVariable s).isOk = isIdentifier s := by
    unfold ClientConfig.withLambdaVariable
    split <;> simp_all [Except.isOk,Except.toBool]
  rw [accepted,isStrictIdentifier_iff]
  constructor
  · rintro ⟨-,strict,-⟩ ⟨ident,c,member,other⟩
    simp [(strict.1 ident).2 c member] at other
  · intro plain
    have strict : isIdentifier s = true → isStrictIdentifier s = true := fun ident =>
      (isStrictIdentifier_iff s).2
        ⟨ident,fun c member => by simpa using fun other => plain ⟨ident,c,member,other⟩⟩
    refine ⟨agree,⟨fun ident => (isStrictIdentifier_iff s).1 (strict ident),And.left⟩,?_⟩
    intro config member depth
    unfold ClientConfig.withLambdaVariable at member
    split at member
    · cases member
      exact isStrictIdentifier_lambdaVariable (strict ‹_›) depth
    · cases member

/-- The check lets `x²` through, from a document and on a configuration alike, though its
superscript two is no decimal digit; the serializer then names nested variables `x²1`, … -/
theorem superscript_variable_accepted :
    ClientConfig.ofJson (ClientConfig.variableDocument "x²") = .ok { lambdaVariable := "x²" } ∧
    ({} : ClientConfig).withLambdaVariable "x²" = .ok { lambdaVariable := "x²" } ∧
    isStrictIdentifier "x²" = false ∧ lambdaVariable "x²" 1 = "x²1" ∧
    isStrictIdentifier "x²1" = false := by
  have ident : isIdentifier "x²" = true := by decide +kernel
  refine ⟨(ClientConfig.ofJson_variableDocument "x²").1 ident,?_,by decide +kernel,
    by decide +kernel,by decide +kernel⟩
  simp [ClientConfig.withLambdaVariable,ident]

end ODataBuilder
