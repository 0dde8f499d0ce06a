import CodeSurvey.Proofs.Report.JsonText
import CodeSurvey.Text.Utf8

/-!
# Reading ASCII texts

A text of ASCII characters is encoded with one byte for each character (`Text.encode_of_isAscii`),
and read back as it was (`Text.decode?_encode`).
-/

namespace CodeSurvey

namespace Text

theorem byteArray_toList_loop (bytes : ByteArray) (i : Nat) (before : List UInt8) :
    ByteArray.toList.loop bytes i before = before.reverse ++ bytes.data.toList.drop i := by
  fun_induction ByteArray.toList.loop bytes i before with
  | case1 i before hi ih =>
    have hi' : i < bytes.data.toList.length := hi
    have hget : bytes.get! i = bytes.data.toList[i] := by
      simp [ByteArray.get!, getElem!_pos bytes.data i hi]
    rw [ih, List.drop_eq_getElem_cons hi', hget]
    simp
  | case2 i before hi =>
    have hi' : bytes.data.toList.length ≤ i := Nat.le_of_not_lt hi
    rw [List.drop_eq_nil_of_le hi', List.append_nil]

theorem encode_eq (text : String) :
    encode text = text.toList.flatMap String.utf8EncodeChar := by
  rw [encode, String.toUTF8, ← String.utf8Encode_toList, ByteArray.toList, byteArray_toList_loop,
    List.utf8Encode, List.data_toByteArray]
  rfl

/-- A character below 128 is a byte of its own. -/
theorem utf8EncodeChar_of_lt {c : Char} (h : c.toNat < 128) :
    String.utf8EncodeChar c = [UInt8.ofNat c.toNat] := by
  rw [String.utf8EncodeChar]
  exact if_pos (Nat.le_of_lt_succ h)

/-- **A text of ASCII characters has one byte for each of them.** -/
theorem encode_of_isAscii {text : String} (h : Json.IsAscii text.toList) :
    encode text = text.toList.map fun c => UInt8.ofNat c.toNat := by
  rw [encode_eq]
  generalize text.toList = cs at h
  induction cs with
  | nil => rfl
  | cons c rest ih =>
    obtain ⟨hc, hrest⟩ := List.forall_mem_cons.1 h
    rw [List.flatMap_cons, utf8EncodeChar_of_lt hc, List.singleton_append, ih hrest, List.map_cons]

/-- A byte below 128 is a character of its own. -/
theorem firstPiece_of_lt {b : UInt8} (h : b.toNat < 128) (rest : List UInt8) :
    firstPiece b rest = (.scalar (Char.ofNat b.toNat), 0) := by
  have hlead : Lead.ofByte? b.toNat = some { follow := 0, payload := b.toNat } := by
    rw [Lead.ofByte?, if_pos h]
  rw [firstPiece, hlead]
  cases rest <;> rfl

theorem pieces_encoded {cs : List Char} (h : Json.IsAscii cs) :
    pieces (cs.flatMap String.utf8EncodeChar) = cs.map .scalar := by
  induction cs with
  | nil => simp [pieces, measuredPieces]
  | cons c rest ih =>
    obtain ⟨hc, hrest⟩ := List.forall_mem_cons.1 h
    have hnat : (UInt8.ofNat c.toNat).toNat = c.toNat := by
      rw [UInt8.toNat_ofNat']
      omega
    have hpiece := firstPiece_of_lt (b := UInt8.ofNat c.toNat) (by rw [hnat]; exact hc)
    rw [List.flatMap_cons, utf8EncodeChar_of_lt hc, List.singleton_append, pieces, measuredPieces,
      hpiece, hnat]
    simp only [List.drop_zero, List.map_cons]
    rw [← pieces, ih hrest, Char.ofNat_toNat]

/-- **A text of ASCII characters is read back from its bytes.** -/
theorem decode?_encode {text : String} (h : Json.IsAscii text.toList) :
    decode? (encode text) = some text := by
  have hpieces := pieces_encoded h
  rw [← encode_eq] at hpieces
  have hall : (pieces (encode text)).all (· != .invalid) = true := by
    rw [hpieces, List.all_map, List.all_eq_true]
    intro c _
    rfl
  rw [decode?, if_pos hall, decode, hpieces, List.map_map]
  have hid : Piece.char ∘ Piece.scalar = id := rfl
  rw [hid, List.map_id, String.ofList_toList]

end Text

end CodeSurvey
