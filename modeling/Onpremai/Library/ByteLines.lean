import Mathlib.Data.List.Basic

/-!
# Lines of encoded text

A text is encoded byte by byte, and its lines can be told from the bytes alone: the bytes that
end a line occur in no other character.  So an encoded text can be decoded exactly when each
of its lines can.
-/

namespace Onpremai.Library

def encodeUtf8 (text : List Char) : List UInt8 := text.flatMap String.utf8EncodeChar

/-- The text of bytes; none where they are no encoding. -/
def decodeUtf8 (bytes : List UInt8) : Option (List Char) :=
  bytes.toByteArray.utf8Decode?.map Array.toList

@[simp] theorem encodeUtf8_nil : encodeUtf8 [] = [] := rfl

theorem encodeUtf8_cons (char : Char) (rest : List Char) :
    encodeUtf8 (char :: rest) = String.utf8EncodeChar char ++ encodeUtf8 rest := rfl

theorem encodeUtf8_append (first second : List Char) :
    encodeUtf8 (first ++ second) = encodeUtf8 first ++ encodeUtf8 second :=
  List.flatMap_append

theorem toByteArray_encodeUtf8 (text : List Char) :
    (encodeUtf8 text).toByteArray = text.utf8Encode := rfl

@[simp] theorem decodeUtf8_encodeUtf8 (text : List Char) :
    decodeUtf8 (encodeUtf8 text) = some text := by
  rw [decodeUtf8, toByteArray_encodeUtf8, List.utf8Decode?_utf8Encode]
  rfl

theorem decodeUtf8_eq_some_iff {bytes : List UInt8} {text : List Char} :
    decodeUtf8 bytes = some text ↔ encodeUtf8 text = bytes := by
  constructor
  · intro decoded
    have readable : bytes.toByteArray.utf8Decode?.isSome := by
      rw [← Option.isSome_map, ← decodeUtf8, decoded]
      rfl
    obtain ⟨chars, encoded⟩ := ByteArray.isSome_utf8Decode?_iff.mp readable
    have same : encodeUtf8 chars = bytes := by
      rw [← List.toByteArray_inj, toByteArray_encodeUtf8, encoded]
    rw [← same, decodeUtf8_encodeUtf8] at decoded
    rw [← same, Option.some.inj decoded]
  · intro encoded
    rw [← encoded, decodeUtf8_encodeUtf8]

/-! ## Lines -/

def endsLine (char : Char) : Bool := char == '\n' || char == '\r'

def byteEndsLine (byte : UInt8) : Bool := byte == 10 || byte == 13

def textLines (text : List Char) : List (List Char) := text.splitOnP endsLine

def byteLines (bytes : List UInt8) : List (List UInt8) := bytes.splitOnP byteEndsLine

theorem utf8EncodeChar_of_endsLine {char : Char} (ends : endsLine char = true) :
    ∃ byte, String.utf8EncodeChar char = [byte] ∧ byteEndsLine byte = true := by
  rw [endsLine, Bool.or_eq_true, beq_iff_eq, beq_iff_eq] at ends
  rcases ends with newline | carriage
  · exact ⟨10, newline ▸ rfl, rfl⟩
  · exact ⟨13, carriage ▸ rfl, rfl⟩

theorem byteEndsLine_ofNat {value : Nat} (newline : value % 256 ≠ 10)
    (carriage : value % 256 ≠ 13) : byteEndsLine (UInt8.ofNat value) = false := by
  rw [byteEndsLine, Bool.or_eq_false_iff, beq_eq_false_iff_ne, beq_eq_false_iff_ne]
  constructor
  · exact fun same => newline (congrArg UInt8.toNat same)
  · exact fun same => carriage (congrArg UInt8.toNat same)

theorem byteEndsLine_of_not_endsLine {char : Char} (inner : endsLine char = false)
    {byte : UInt8} (member : byte ∈ String.utf8EncodeChar char) :
    byteEndsLine byte = false := by
  rw [String.utf8EncodeChar.eq_def] at member
  dsimp only at member
  split at member
  next low =>
    rw [endsLine, Bool.or_eq_false_iff, beq_eq_false_iff_ne, beq_eq_false_iff_ne] at inner
    have small : char.val.toNat % 256 = char.val.toNat := Nat.mod_eq_of_lt (by omega)
    rw [List.mem_singleton.mp member]
    apply byteEndsLine_ofNat
    · intro same
      exact inner.1 (Char.ext (UInt32.toNat_inj.mp (small.symm.trans same)))
    · intro same
      exact inner.2 (Char.ext (UInt32.toNat_inj.mp (small.symm.trans same)))
  next =>
    split at member
    · simp only [List.mem_cons, List.not_mem_nil, or_false] at member
      rcases member with rfl | rfl <;> exact byteEndsLine_ofNat (by omega) (by omega)
    · split at member
      · simp only [List.mem_cons, List.not_mem_nil, or_false] at member
        rcases member with rfl | rfl | rfl <;> exact byteEndsLine_ofNat (by omega) (by omega)
      · simp only [List.mem_cons, List.not_mem_nil, or_false] at member
        rcases member with rfl | rfl | rfl | rfl <;>
          exact byteEndsLine_ofNat (by omega) (by omega)

theorem splitOnP_append_of_forall {α : Type} {splits : α → Bool} {start : List α}
    (whole : ∀ item ∈ start, splits item = false) (rest : List α) :
    (start ++ rest).splitOnP splits = (rest.splitOnP splits).modifyHead (start ++ ·) := by
  induction start with
  | nil => exact (congrFun List.modifyHead_id _).symm
  | cons item start ih =>
    rw [List.forall_mem_cons] at whole
    rw [List.cons_append, List.splitOnP_cons_eq_if_modifyHead, whole.1, ih whole.2,
      if_neg Bool.false_ne_true, List.modifyHead_modifyHead]
    rfl

theorem byteLines_encodeUtf8 (text : List Char) :
    byteLines (encodeUtf8 text) = (textLines text).map encodeUtf8 := by
  induction text with
  | nil => rfl
  | cons char rest ih =>
    rw [byteLines] at ih
    rw [byteLines, textLines, encodeUtf8_cons, List.splitOnP_cons_eq_if_modifyHead]
    by_cases ends : endsLine char = true
    · obtain ⟨byte, encoded, breaks⟩ := utf8EncodeChar_of_endsLine ends
      rw [if_pos ends, encoded, List.singleton_append, List.splitOnP_cons_eq_if_modifyHead,
        if_pos breaks, ih]
      rfl
    · have inner := Bool.eq_false_iff.mpr ends
      rw [if_neg ends, splitOnP_append_of_forall
        (fun _ => byteEndsLine_of_not_endsLine inner), ih, textLines]
      cases rest.splitOnP endsLine with
      | nil => rfl
      | cons first others => rfl

def IsEncoded (bytes : List UInt8) : Prop := ∃ text, encodeUtf8 text = bytes

theorem IsEncoded.append {first second : List UInt8} (start : IsEncoded first)
    (rest : IsEncoded second) : IsEncoded (first ++ second) := by
  obtain ⟨text, encoded⟩ := start
  obtain ⟨other, encodedOther⟩ := rest
  exact ⟨text ++ other, by rw [encodeUtf8_append, encoded, encodedOther]⟩

theorem isEncoded_of_byteEndsLine {byte : UInt8} (ends : byteEndsLine byte = true) :
    IsEncoded [byte] := by
  rw [byteEndsLine, Bool.or_eq_true, beq_iff_eq, beq_iff_eq] at ends
  rcases ends with newline | carriage
  · exact ⟨['\n'], newline ▸ rfl⟩
  · exact ⟨['\r'], carriage ▸ rfl⟩

theorem isEncoded_flatten_zipWith {parts ends : List (List UInt8)}
    (encoded : ∀ part ∈ parts, IsEncoded part) (ended : ∀ part ∈ ends, IsEncoded part) :
    IsEncoded (List.zipWith (· ++ ·) parts ends).flatten := by
  induction parts generalizing ends with
  | nil => exact ⟨[], rfl⟩
  | cons part parts ih =>
    cases ends with
    | nil => exact ⟨[], rfl⟩
    | cons last ends =>
      rw [List.forall_mem_cons] at encoded ended
      rw [List.zipWith_cons_cons, List.flatten_cons]
      exact (encoded.1.append ended.1).append (ih encoded.2 ended.2)

section

variable {bytes : List UInt8}

theorem isEncoded_of_byteLines
    (encoded : ∀ line ∈ byteLines bytes, IsEncoded line) : IsEncoded bytes := by
  rw [← @List.splitOnP_spec _ byteEndsLine bytes]
  apply isEncoded_flatten_zipWith encoded
  intro part member
  rw [List.mem_append, List.mem_map, List.mem_singleton] at member
  rcases member with ⟨byte, kept, rfl⟩ | rfl
  · exact isEncoded_of_byteEndsLine (List.mem_filter.mp kept).2
  · exact ⟨[], rfl⟩

theorem byteLines_of_decodeUtf8 {text : List Char} (decoded : decodeUtf8 bytes = some text) :
    byteLines bytes = (textLines text).map encodeUtf8 := by
  rw [← decodeUtf8_eq_some_iff.mp decoded, byteLines_encodeUtf8]

theorem exists_undecodable_line (undecodable : decodeUtf8 bytes = none) :
    ∃ line ∈ byteLines bytes, decodeUtf8 line = none := by
  by_contra every
  have encoded : IsEncoded bytes := by
    apply isEncoded_of_byteLines
    intro line member
    obtain ⟨text, decoded⟩ := Option.ne_none_iff_exists'.mp fun none =>
      every ⟨line, member, none⟩
    exact ⟨text, decodeUtf8_eq_some_iff.mp decoded⟩
  obtain ⟨text, encoded⟩ := encoded
  rw [decodeUtf8_eq_some_iff.mpr encoded] at undecodable
  cases undecodable

end

def completeLines (bytes : List UInt8) : List (List UInt8) := (byteLines bytes).dropLast

def openLine (bytes : List UInt8) : List UInt8 := (byteLines bytes).getLastD []

theorem byteLines_eq_append (bytes : List UInt8) :
    byteLines bytes = completeLines bytes ++ [openLine bytes] := by
  have some : byteLines bytes ≠ [] := List.splitOnP_ne_nil byteEndsLine bytes
  rw [completeLines, openLine, List.getLastD_eq_getLast?, List.getLast?_eq_some_getLast some,
    Option.getD_some, List.dropLast_append_getLast some]

section

variable {bytes last : List UInt8} {complete : List (List UInt8)}

theorem completeLines_of_byteLines
    (split : byteLines bytes = complete ++ [last]) : completeLines bytes = complete := by
  rw [completeLines, split, List.dropLast_concat]

theorem openLine_of_byteLines
    (split : byteLines bytes = complete ++ [last]) : openLine bytes = last := by
  rw [openLine, split, List.getLastD_concat]

end

section

variable (first second : List UInt8)

theorem byteLines_append : byteLines (first ++ second) =
      completeLines first ++ byteLines (openLine first ++ second) := by
  induction first with
  | nil => rfl
  | cons byte rest ih =>
    have split := byteLines_eq_append rest
    have next := @List.splitOnP_cons_eq_if_modifyHead _ byteEndsLine byte (rest ++ second)
    have here := @List.splitOnP_cons_eq_if_modifyHead _ byteEndsLine byte rest
    rw [← byteLines, ← byteLines, ih] at next
    rw [← byteLines, ← byteLines, split] at here
    by_cases ends : byteEndsLine byte = true
    · rw [if_pos ends] at next here
      have ended : byteLines (byte :: rest) = ([] :: completeLines rest) ++ [openLine rest] := here
      rw [completeLines_of_byteLines ended, openLine_of_byteLines ended]
      exact next
    · rw [if_neg ends] at next here
      cases complete : completeLines rest with
      | nil =>
        rw [complete] at next here
        have alone : byteLines (byte :: rest) = [] ++ [byte :: openLine rest] := here
        rw [completeLines_of_byteLines alone, openLine_of_byteLines alone]
        have goesOn := @List.splitOnP_cons_eq_if_modifyHead _ byteEndsLine byte
          (openLine rest ++ second)
        rw [if_neg ends] at goesOn
        exact next.trans goesOn.symm
      | cons line lines =>
        rw [complete] at next here
        have more : byteLines (byte :: rest) = ((byte :: line) :: lines) ++ [openLine rest] := here
        rw [completeLines_of_byteLines more, openLine_of_byteLines more]
        exact next

theorem completeLines_append : completeLines (first ++ second) =
      completeLines first ++ completeLines (openLine first ++ second) := by
  have split := byteLines_append first second
  rw [byteLines_eq_append (openLine first ++ second), ← List.append_assoc] at split
  exact completeLines_of_byteLines split

theorem openLine_append : openLine (first ++ second) = openLine (openLine first ++ second) := by
  have split := byteLines_append first second
  rw [byteLines_eq_append (openLine first ++ second), ← List.append_assoc] at split
  exact openLine_of_byteLines split

end

end Onpremai.Library
