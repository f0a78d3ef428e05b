import Mathlib.Data.List.TakeWhile
import SessionKeeper.Credentials.File
import SessionKeeper.Proofs.Json.RoundTrip

/-!
# The payload of the credential file

The text that is written for some entries loads as these entries (`entriesOfText_prettyDictionary`), and
the bytes of a text, put behind one another, are read as that text.
-/

namespace SessionKeeper

/-! ## Entries -/

theorem insertMembers_texts (es : List (String × String)) (d : Dictionary String) :
    Json.Decoder.text.insertMembers d (es.map fun e => (some e.1, .text (some e.2))) =
      .ok (es.foldl (fun d e => d.insert e.1 e.2) d) := by
  induction es generalizing d with
  | nil => rfl
  | cons e es ih => exact ih (d.insert e.1 e.2)

theorem decode_prettyDictionary (d : Dictionary String) :
    Json.decode Json.Decoder.text.dictionary (Json.prettyDictionary d) = .ok d := by
  rw [Json.decode, (Json.writes_prettyDictionary d).read?_eq]
  simp only [Json.Decoder.dictionary, insertMembers_texts]
  exact congrArg Except.ok (Dictionary.ofList_toList d)

namespace CredentialFile

theorem trim_isEmpty_of_cons {c : Char} (hc : Text.isBlank c = false) (cs : List Char) :
    (Text.trim (String.ofList (c :: cs))).isEmpty = false := by
  have hstart : Text.trimStart (c :: cs) = c :: cs := List.dropWhile_cons_of_neg (by simp [hc])
  have hend : (c :: cs).reverse.dropWhile Text.isBlank ≠ [] := fun h => by
    have := List.dropWhile_eq_nil_iff.1 h c (by simp)
    rw [hc] at this
    cases this
  rw [Text.trim, String.toList_ofList, Text.trimChars, hstart]
  simpa [Text.trimEnd, String.isEmpty_iff] using hend

/-- A payload loads as the entries it was made from. -/
theorem entriesOfText_prettyDictionary (es : Entries) :
    entriesOfText (Json.prettyDictionary es) = .ok es := by
  have htrim : (Text.trim (Json.prettyDictionary es)).isEmpty = false := by
    rw [Json.prettyDictionary]
    split <;> exact trim_isEmpty_of_cons (by decide) _
  rw [entriesOfText, htrim, decode_prettyDictionary]
  rfl

end CredentialFile

/-! ## Bytes -/

theorem toList_loop (bs : ByteArray) (i : Nat) (r : List UInt8) :
    ByteArray.toList.loop bs i r = r.reverse ++ bs.data.toList.drop i := by
  fun_induction ByteArray.toList.loop bs i r with
  | case1 i r hi ih =>
    have hsize : i < bs.data.size := by simpa using hi
    have hget : bs.get! i = bs.data.toList[i] := by
      change bs.data[i]! = _
      rw [getElem!_pos bs.data i hsize, Array.getElem_toList]
    have hdrop : bs.data.toList.drop i = bs.data.toList[i] :: bs.data.toList.drop (i + 1) :=
      List.drop_eq_getElem_cons _
    rw [ih, hdrop, hget, List.reverse_cons, List.append_assoc]
    rfl
  | case2 i r hi =>
    have : bs.data.toList.length ≤ i := by simpa using hi
    rw [List.drop_eq_nil_of_le this, List.append_nil]

theorem toByteArray_toList (bs : ByteArray) : bs.toList.toByteArray = bs := by
  have h : bs.toList = bs.data.toList := by simp [ByteArray.toList, toList_loop]
  apply ByteArray.ext
  rw [← Array.toList_inj, List.toList_data_toByteArray, h]

theorem append_toByteArray_cons (old : ByteArray) (b : UInt8) (bs : List UInt8) :
    old ++ (b :: bs).toByteArray = old ++ ByteArray.empty.push b ++ bs.toByteArray := by
  rw [← List.singleton_append, List.toByteArray_append, ByteArray.append_assoc]
  rfl

theorem fromUTF8?_toUTF8 (s : String) : String.fromUTF8? s.toUTF8 = some s := by
  simp [String.fromUTF8?, String.toUTF8, s.isValidUTF8, String.fromUTF8]

end SessionKeeper
