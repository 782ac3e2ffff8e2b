import RecordTypes.Json.OfBytes
import RecordTypes.Proofs.Json.RoundTrip

/-! JSON values read back from the bytes of their texts. An object begins with two ASCII characters,
which show that its bytes are neither of a wider encoding nor a byte order mark. -/

namespace RecordTypes

/-! ## Bytes and characters -/

theorem fromUTF8?_toUTF8 (s : String) : String.fromUTF8? s.toUTF8 = some s :=
  dif_pos s.isValidUTF8

theorem toList_loop (bytes : ByteArray) (i : Nat) (read : List UInt8) :
    ByteArray.toList.loop bytes i read = read.reverse ++ bytes.data.toList.drop i := by
  induction hn : bytes.size - i generalizing i read with
  | zero =>
    have hle : bytes.data.toList.length ≤ i := by
      change bytes.size ≤ i
      omega
    rw [ByteArray.toList.loop, if_neg (by omega), List.drop_eq_nil_of_le hle, List.append_nil]
  | succ n ih =>
    have hlt : i < bytes.data.toList.length := by
      change i < bytes.size
      omega
    have hget : bytes.get! i = bytes.data.toList[i] := getElem!_pos bytes.data i hlt
    rw [ByteArray.toList.loop, if_pos (by omega), ih (i + 1) _ (by omega),
      List.drop_eq_getElem_cons hlt, hget, List.reverse_cons, List.append_assoc]
    rfl

theorem toList_eq (bytes : ByteArray) : bytes.toList = bytes.data.toList := by
  rw [ByteArray.toList, toList_loop]
  rfl

theorem toByteArray_toList (bytes : ByteArray) : bytes.toList.toByteArray = bytes := by
  rw [toList_eq]
  exact ByteArray.ext (by rw [List.data_toByteArray])

theorem toList_toUTF8 (s : List Char) :
    (String.ofList s).toUTF8.toList = s.flatMap String.utf8EncodeChar := by
  rw [toList_eq]
  change (List.utf8Encode s).data.toList = _
  rw [List.utf8Encode, List.data_toByteArray]

/-! ## The encoding of an object -/

theorem ofBytes_of_ne_zero {a b : UInt8} (ha : a ≠ 0) (hb : b ≠ 0) (bytes : List UInt8) :
    TextEncoding.ofBytes (a :: b :: bytes) = .bytes := by
  match bytes with
  | [] => simp [TextEncoding.ofBytes, ha, hb]
  | [_] => rfl
  | _ :: _ :: _ => simp [TextEncoding.ofBytes, ha, hb]

theorem textOfBytes_toUTF8 {s : List Char} {b : UInt8} {bytes : List UInt8}
    (hbytes : (String.ofList s).toUTF8.toList = 0x7b :: b :: bytes) (hb : b ≠ 0) :
    textOfBytes? (String.ofList s).toUTF8.toList = some s := by
  have hencoding : TextEncoding.ofBytes (String.ofList s).toUTF8.toList = .bytes := by
    rw [hbytes]
    exact ofBytes_of_ne_zero (by decide) hb bytes
  have hmark : withoutByteOrderMark (String.ofList s).toUTF8.toList =
      (String.ofList s).toUTF8.toList := by
    rw [hbytes]
    rfl
  rw [textOfBytes?, hencoding]
  dsimp only
  rw [hmark, toByteArray_toList, fromUTF8?_toUTF8, Option.map_some, String.toList_ofList]

theorem Json.ofBytes_text {members : Members} (h : (Json.obj members).Writable) :
    Json.ofBytes? (String.ofList (Json.obj members).text).toUTF8.toList = some (.obj members) := by
  have htext : textOfBytes? (String.ofList (Json.obj members).text).toUTF8.toList =
      some (Json.obj members).text := by
    cases members with
    | nil => exact textOfBytes_toUTF8 (b := 0x7d) (toList_toUTF8 _) (by decide)
    | cons member members =>
      exact textOfBytes_toUTF8 (b := 0x22) (toList_toUTF8 _) (by decide)
  rw [Json.ofBytes?, htext]
  exact Json.ofText_text h

end RecordTypes
