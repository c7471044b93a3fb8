import ODataBuilder.Query.Params
import ODataBuilder.Url.Encode

/-! Reading a query string back. Turning every `%20` of the joined text into `+` is the same as
writing each space byte as `+` in place (`QueryParams.encode_eq_form`), and form decoding then
gives back the options present, in order. -/
namespace ODataBuilder

theorem byteArray_toList_loop (bs : ByteArray) (i : Nat) (r : List UInt8) :
    ByteArray.toList.loop bs i r = r.reverse ++ bs.data.toList.drop i := by
  fun_induction ByteArray.toList.loop bs i r with
  | case1 i r inside ih =>
    have bound : i < bs.data.toList.length := by rw [Array.length_toList]; exact inside
    have byte : bs.get! i = bs.data.toList[i] := by simp [ByteArray.get!,inside]
    rw [ih,List.drop_eq_getElem_cons bound,byte]
    simp
  | case2 i r outside =>
    have past : bs.data.toList.length ≤ i := by
      rw [Array.length_toList]
      exact Nat.le_of_not_lt outside
    rw [List.drop_eq_nil_of_le past,List.append_nil]

theorem byteArray_toList (bs : ByteArray) : bs.toList = bs.data.toList := by
  simp [ByteArray.toList,byteArray_toList_loop]

theorem utf8_toList_ofList (cs : List Char) :
    (String.ofList cs).toUTF8.toList = cs.flatMap String.utf8EncodeChar := by
  rw [String.toUTF8_eq_toByteArray,String.toByteArray_ofList,byteArray_toList,List.utf8Encode,
    List.toList_data_toByteArray]

theorem fromUTF8_toUTF8 (s : String) :
    String.fromUTF8? (ByteArray.mk s.toUTF8.toList.toArray) = some s := by
  rw [byteArray_toList,Array.toArray_toList,String.toUTF8_eq_toByteArray]
  simp [String.fromUTF8?,s.isValidUTF8]
  rfl

namespace Percent

/-- A byte as a form value writes it: a space as `+`, any other byte as percent-encoding does. -/
def formByte (b : UInt8) : List Char := if b = 32 then ['+'] else encodeByte b

def formEncode (s : String) : String := String.ofList (s.toUTF8.toList.flatMap formByte)

def spaceForPlus (c : Char) : Char := if c = '+' then ' ' else c

theorem hexUpper_plain : ∀ n, n < 16 →
    hexUpper n ≠ '%' ∧ hexUpper n ≠ '+' ∧ hexUpper n ≠ '&' ∧ hexUpper n ≠ '=' := by
  decide

theorem hexUpper_utf8 : ∀ n, n < 16 →
    String.utf8EncodeChar (hexUpper n) = [(hexUpper n).toNat.toUInt8] := by
  decide

theorem hexByte_hexUpper : ∀ n, n < 16 → PercentDecode.hexByte? (hexUpper n).toNat.toUInt8 = some n := by
  decide

theorem hexUpper_inj : ∀ n, n < 16 → ∀ m, m < 16 → hexUpper n = hexUpper m → n = m := by
  decide

set_option maxRecDepth 4000 in
theorem unreserved_char : ∀ n, n < 256 → isUnreserved n.toUInt8 = true →
    (Char.ofNat n ≠ '%' ∧ Char.ofNat n ≠ '+' ∧ Char.ofNat n ≠ '&' ∧ Char.ofNat n ≠ '=') ∧
      String.utf8EncodeChar (Char.ofNat n) = [n.toUInt8] ∧ n.toUInt8 ≠ 32 ∧ n.toUInt8 ≠ 37 := by
  decide

theorem unreserved_byte (b : UInt8) (unreserved : isUnreserved b = true) :
    (Char.ofNat b.toNat ≠ '%' ∧ Char.ofNat b.toNat ≠ '+' ∧ Char.ofNat b.toNat ≠ '&' ∧
      Char.ofNat b.toNat ≠ '=') ∧ String.utf8EncodeChar (Char.ofNat b.toNat) = [b] ∧ b ≠ 32 ∧
      b ≠ 37 := by
  have same : b.toNat.toUInt8 = b := by simp
  have facts := unreserved_char b.toNat (UInt8.toNat_lt_size b) (by rwa [same])
  rwa [same] at facts

theorem escape_twenty (b : UInt8) (notSpace : b ≠ 32) :
    ¬(hexUpper (b.toNat / 16) = '2' ∧ hexUpper (b.toNat % 16) = '0') := by
  rintro ⟨high,low⟩
  have byteBound : b.toNat < 256 := UInt8.toNat_lt_size b
  have two : b.toNat / 16 = 2 := hexUpper_inj _ (by omega) 2 (by omega) high
  have zero : b.toNat % 16 = 0 := hexUpper_inj _ (by omega) 0 (by omega) low
  have thirtyTwo : b.toNat = 32 := by omega
  exact notSpace (UInt8.toNat_inj.mp thirtyTwo)

theorem not_mem_formByte (b : UInt8) : '&' ∉ formByte b ∧ '=' ∉ formByte b := by
  have byteBound : b.toNat < 256 := UInt8.toNat_lt_size b
  obtain ⟨-,-,highAmp,highEq⟩ := hexUpper_plain (b.toNat / 16) (by omega)
  obtain ⟨-,-,lowAmp,lowEq⟩ := hexUpper_plain (b.toNat % 16) (by omega)
  unfold formByte encodeByte escapeByte
  split
  · decide
  split
  · obtain ⟨⟨-,-,plainAmp,plainEq⟩,-⟩ := unreserved_byte b ‹_›
    simp [Ne.symm plainAmp,Ne.symm plainEq]
  · simp [Ne.symm highAmp,Ne.symm highEq,Ne.symm lowAmp,Ne.symm lowEq]

end Percent

namespace QueryParams

theorem plusForSpace_cons (c : Char) (rest : List Char) (notPercent : c ≠ '%') :
    plusForSpace (c :: rest) = c :: plusForSpace rest :=
  plusForSpace.eq_2 c rest fun _ percent _ => notPercent percent

theorem plusForSpace_escape (high low : Char) (rest : List Char) (highDigit : high ≠ '%')
    (lowDigit : low ≠ '%') (notTwenty : ¬(high = '2' ∧ low = '0')) :
    plusForSpace ('%' :: high :: low :: rest) = '%' :: high :: low :: plusForSpace rest := by
  have percentFirst : plusForSpace ('%' :: high :: low :: rest) =
      '%' :: plusForSpace (high :: low :: rest) :=
    plusForSpace.eq_2 '%' _ fun _ _ twenty => notTwenty (by simp_all)
  rw [percentFirst,plusForSpace_cons high _ highDigit,plusForSpace_cons low _ lowDigit]

theorem plusForSpace_encodeByte (b : UInt8) (rest : List Char) :
    plusForSpace (Percent.encodeByte b ++ rest) = Percent.formByte b ++ plusForSpace rest := by
  unfold Percent.formByte
  split
  · rename_i space
    subst space
    rfl
  · rename_i notSpace
    unfold Percent.encodeByte
    split
    · exact plusForSpace_cons _ rest (Percent.unreserved_byte b ‹_›).1.1
    · have byteBound : b.toNat < 256 := UInt8.toNat_lt_size b
      have high := Percent.hexUpper_plain (b.toNat / 16) (by omega)
      have low := Percent.hexUpper_plain (b.toNat % 16) (by omega)
      exact plusForSpace_escape _ _ rest high.1 low.1 (Percent.escape_twenty b notSpace)

theorem plusForSpace_encodeBytes (bytes : List UInt8) (rest : List Char) :
    plusForSpace (bytes.flatMap Percent.encodeByte ++ rest) =
      bytes.flatMap Percent.formByte ++ plusForSpace rest := by
  induction bytes with
  | nil => rfl
  | cons b more ih => rw [List.flatMap_cons,List.append_assoc,plusForSpace_encodeByte,ih,
      List.flatMap_cons,List.append_assoc]

def pairChars (write : UInt8 → List Char) (pair : List UInt8 × List UInt8) : List Char :=
  pair.1.flatMap write ++ '=' :: pair.2.flatMap write

theorem plusForSpace_pair (pair : List UInt8 × List UInt8) (rest : List Char) :
    plusForSpace (pairChars Percent.encodeByte pair ++ rest) =
      pairChars Percent.formByte pair ++ plusForSpace rest := by
  rw [pairChars,List.append_assoc,plusForSpace_encodeBytes,List.cons_append,
    plusForSpace_cons _ _ (by decide),plusForSpace_encodeBytes,pairChars]
  simp

theorem plusForSpace_joined (pairs : List (List UInt8 × List UInt8)) :
    plusForSpace (['&'].intercalate (pairs.map (pairChars Percent.encodeByte))) =
      ['&'].intercalate (pairs.map (pairChars Percent.formByte)) := by
  induction pairs with
  | nil => rfl
  | cons first rest ih =>
    cases rest with
    | nil => simpa [plusForSpace.eq_3] using plusForSpace_pair first []
    | cons second more =>
      rw [List.map_cons,List.map_cons,List.intercalate_cons_cons,List.append_assoc,plusForSpace_pair,
        List.singleton_append,plusForSpace_cons _ _ (by decide),← List.map_cons,ih]
      simp [List.intercalate_cons_cons]

theorem encode_eq_form (p : QueryParams) :
    p.encode = "&".intercalate (p.entries.map fun (o, v) =>
      Percent.formEncode o.key ++ "=" ++ Percent.formEncode v) := by
  conv => rhs; rw [← String.ofList_toList (s := "&".intercalate _)]
  rw [encode]
  congr 1
  have joined := plusForSpace_joined (p.entries.map fun (o, v) => (o.key.toUTF8.toList, v.toUTF8.toList))
  simpa [pairChars,Percent.encode,Percent.formEncode,List.map_map,Function.comp_def,
    String.toList_append] using joined

/-- Form decoding of a key or a value: `+` is a space, then the escapes are decoded. -/
def decodeText (cs : List Char) : Option String := PercentDecode.text? (cs.map Percent.spaceForPlus)

def decodePair (piece : List Char) : Option (String × String) := do
  let key ← decodeText (piece.takeWhile (· != '='))
  let value ← decodeText ((piece.dropWhile (· != '=')).drop 1)
  pure (key, value)

/-- Form decoding of a query string: split on `&`, skip empty pieces, split each piece at its
first `=` and decode both sides. -/
def decode (query : String) : Option (List (String × String)) :=
  ((query.toList.splitOn '&').filter (!·.isEmpty)).mapM decodePair

end QueryParams

namespace PercentDecode

theorem bytes_cons (b : UInt8) (rest : List UInt8) (notPercent : b ≠ 37) :
    bytes (b :: rest) = b :: bytes rest := by
  match rest with
  | [] => rfl
  | [_] => rfl
  | _ :: _ :: more => simp [bytes,notPercent]

theorem bytes_escape (high low : UInt8) (h l : Nat) (rest : List UInt8)
    (highDigit : hexByte? high = some h) (lowDigit : hexByte? low = some l) :
    bytes (37 :: high :: low :: rest) = UInt8.ofNat (16 * h + l) :: bytes rest := by
  simp [bytes,highDigit,lowDigit]

theorem bytes_formByte (b : UInt8) (rest : List UInt8) :
    bytes (((Percent.formByte b).map Percent.spaceForPlus).flatMap String.utf8EncodeChar ++ rest) =
      b :: bytes rest := by
  unfold Percent.formByte
  split
  · rename_i space
    subst space
    exact bytes_cons 32 rest (by decide)
  · unfold Percent.encodeByte
    split
    · obtain ⟨⟨-,notPlus,-,-⟩,utf8,-,notPercent⟩ := Percent.unreserved_byte b ‹_›
      simp [Percent.spaceForPlus,notPlus,utf8,bytes_cons b rest notPercent]
    · have byteBound : b.toNat < 256 := UInt8.toNat_lt_size b
      obtain ⟨-,highPlus,-,-⟩ := Percent.hexUpper_plain (b.toNat / 16) (by omega)
      obtain ⟨-,lowPlus,-,-⟩ := Percent.hexUpper_plain (b.toNat % 16) (by omega)
      have escaped := bytes_escape _ _ _ _ rest (Percent.hexByte_hexUpper (b.toNat / 16) (by omega))
        (Percent.hexByte_hexUpper (b.toNat % 16) (by omega))
      have whole : UInt8.ofNat (16 * (b.toNat / 16) + b.toNat % 16) = b := by
        rw [Nat.div_add_mod]
        simp
      simp [Percent.escapeByte,Percent.spaceForPlus,highPlus,lowPlus,
        Percent.hexUpper_utf8 (b.toNat / 16) (by omega),Percent.hexUpper_utf8 (b.toNat % 16) (by omega)]
      rw [show String.utf8EncodeChar '%' = [37] by decide]
      simpa [whole] using escaped

theorem bytes_formBytes (bs rest : List UInt8) :
    bytes ((bs.flatMap fun b => ((Percent.formByte b).map Percent.spaceForPlus).flatMap
      String.utf8EncodeChar) ++ rest) = bs ++ bytes rest := by
  induction bs with
  | nil => rfl
  | cons b more ih => rw [List.flatMap_cons,List.append_assoc,bytes_formByte,ih,List.cons_append]

end PercentDecode

namespace QueryParams

theorem decodeText_form (s : String) : decodeText (Percent.formEncode s).toList = some s := by
  have decoded := PercentDecode.bytes_formBytes s.toUTF8.toList []
  rw [List.append_nil,show PercentDecode.bytes [] = [] from rfl,List.append_nil] at decoded
  rw [decodeText,Percent.formEncode,String.toList_ofList,PercentDecode.text?,utf8_toList_ofList,
    List.map_flatMap,List.flatMap_assoc,decoded,fromUTF8_toUTF8]

theorem not_mem_form (s : String) :
    '&' ∉ (Percent.formEncode s).toList ∧ '=' ∉ (Percent.formEncode s).toList := by
  simp only [Percent.formEncode,String.toList_ofList,List.mem_flatMap,not_exists,not_and]
  exact ⟨fun b _ => (Percent.not_mem_formByte b).1,fun b _ => (Percent.not_mem_formByte b).2⟩

def formPair (pair : String × String) : List Char :=
  (Percent.formEncode pair.1).toList ++ '=' :: (Percent.formEncode pair.2).toList

theorem decodePair_form (pair : String × String) : decodePair (formPair pair) = some pair := by
  have keyPlain : ∀ c ∈ (Percent.formEncode pair.1).toList, (c != '=') = true := by
    intro c member
    have notEq := (not_mem_form pair.1).2
    simp only [bne_iff_ne,ne_eq]
    rintro rfl
    exact notEq member
  simp [decodePair,formPair,List.takeWhile_append_of_pos keyPlain,
    List.dropWhile_append_of_pos keyPlain,decodeText_form]

theorem decode_joined (pairs : List (String × String)) :
    (((['&'].intercalate (pairs.map formPair)).splitOn '&').filter (!·.isEmpty)).mapM decodePair =
      some pairs := by
  by_cases empty : pairs = []
  · subst empty
    rfl
  have noAmp : ∀ piece ∈ pairs.map formPair, '&' ∉ piece := by
    simp only [List.mem_map,formPair]
    rintro _ ⟨pair,-,rfl⟩ member
    rw [List.mem_append,List.mem_cons] at member
    obtain inKey | isEq | inValue := member
    · exact (not_mem_form pair.1).1 inKey
    · exact absurd isEq (by decide)
    · exact (not_mem_form pair.2).1 inValue
  have nonEmpty : ∀ piece ∈ pairs.map formPair, (!piece.isEmpty) = true := by
    simp only [List.mem_map,formPair]
    rintro _ ⟨pair,-,rfl⟩
    simp
  rw [List.splitOn_intercalate '&' noAmp (by simpa using empty),List.filter_eq_self.mpr nonEmpty,
    List.mapM_map]
  have pointwise : decodePair ∘ formPair = fun pair => pure pair := funext decodePair_form
  rw [pointwise,List.mapM_pure,List.map_id']
  rfl

end QueryParams

/-- Form decoding reads back what the query string encodes: the options present with their values,
in canonical order, for any values at all. The `%20` rewrite on the joined text is the same as
writing each space byte as `+` in place, and no options give the empty text. -/
theorem query_string_reads_back (p : QueryParams) :
    p.encode = "&".intercalate (p.entries.map fun (o, v) =>
      Percent.formEncode o.key ++ "=" ++ Percent.formEncode v) ∧
    QueryParams.decode p.encode = some (p.entries.map fun (o, v) => (o.key, v)) ∧
    ({} : QueryParams).encode = "" := by
  refine ⟨QueryParams.encode_eq_form p,?_,rfl⟩
  have joined := QueryParams.decode_joined (p.entries.map fun (o, v) => (o.key, v))
  rw [QueryParams.encode_eq_form,QueryParams.decode]
  simpa [String.toList_intercalate,List.map_map,Function.comp_def,QueryParams.formPair,
    String.toList_append] using joined

example : ({ search := some "a b%20+&=" } : QueryParams).encode = "%24search=a+b%2520%2B%26%3D" := by
  decide +kernel

end ODataBuilder
