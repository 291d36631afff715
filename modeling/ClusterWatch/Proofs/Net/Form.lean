import ClusterWatch.Net.Form
import ClusterWatch.Proofs.Text.Split

namespace ClusterWatch

namespace Text.Utf8

theorem utf8EncodeChar_of_ascii {c : Char} (ascii : c.toNat < 0x80) :
    String.utf8EncodeChar c = [UInt8.ofNat c.toNat] := by
  have small : c.val.toNat ≤ 0x7F := by
    rw [Char.toNat] at ascii
    omega
  simp only [String.utf8EncodeChar, small, if_true]
  rfl

theorem next?_of_ascii {b : UInt8} (ascii : b.toNat < 0x80) (bs : List UInt8) :
    next? (b :: bs) = some (Char.ofNat b.toNat, bs) := by
  simp only [next?, ascii, if_true]

theorem decodeLossy_cons {bs rest : List UInt8} {c : Char} (first : next? bs = some (c, rest)) :
    decodeLossy bs = c :: decodeLossy rest := by
  rw [decodeLossy]
  split
  · rename_i d others same
    rw [first] at same
    cases same
    rfl
  · rename_i none
    rw [first] at none
    cases none

end Text.Utf8

namespace Net.Form

def IsLiteral (c : Char) : Prop := c.toNat < 0x80 ∧ c ≠ '%' ∧ c ≠ '+'

instance (c : Char) : Decidable (IsLiteral c) := inferInstanceAs (Decidable (_ ∧ _ ∧ _))

variable {cs name value : List Char}

theorem decodeLossy_decode (literal : ∀ c ∈ cs, IsLiteral c) : Text.Utf8.decodeLossy (Percent.decode cs) = cs := by
  induction cs with
  | nil =>
    rw [Percent.decode, Text.Utf8.decodeLossy]
    rfl
  | cons c rest ih =>
    obtain ⟨ascii, percent, -⟩ := literal c List.mem_cons_self
    have byte : (UInt8.ofNat c.toNat).toNat = c.toNat := by
      rw [UInt8.toNat_ofNat']
      omega
    have first : Percent.decode (c :: rest) = UInt8.ofNat c.toNat :: Percent.decode rest := by
      rw [Percent.decode]
      · rw [Text.Utf8.encode, List.flatMap_singleton, Text.Utf8.utf8EncodeChar_of_ascii ascii]
        rfl
      · intro a b others sign
        exact absurd sign percent
    have next := Text.Utf8.next?_of_ascii (byte.symm ▸ ascii) (Percent.decode rest)
    rw [byte, Char.ofNat_toNat] at next
    rw [first, Text.Utf8.decodeLossy_cons next, ih fun d member => literal d (List.mem_cons_of_mem c member)]

theorem decodeText_of_literal (literal : ∀ c ∈ cs, IsLiteral c) : decodeText cs = String.ofList cs := by
  have same : (cs.map fun c => if c = '+' then ' ' else c) = cs := by
    rw [List.map_congr_left (g := id), List.map_id]
    intro c member
    exact if_neg (literal c member).2.2
  rw [decodeText, same, decodeLossy_decode literal]

theorem decodePair_of_literal (literalName : ∀ c ∈ name, IsLiteral c) (literalValue : ∀ c ∈ value, IsLiteral c)
    (whole : '=' ∉ name) : decodePair (name ++ '=' :: value) = (String.ofList name, String.ofList value) := by
  simp only [decodePair, Text.splitFirst?_of_not_mem whole, decodeText_of_literal literalName,
    decodeText_of_literal literalValue]

theorem decode_of_whole (whole : '&' ∉ cs) (some : cs ≠ []) : decode (String.ofList cs) = [decodePair cs] := by
  rw [decode, String.toList_ofList, Text.splitAll_of_not_mem whole, List.filter_cons_of_pos (by simpa using some)]
  rfl

theorem decode_append (whole : '&' ∉ cs) (some : cs ≠ []) (rest : List Char) :
    decode (String.ofList (cs ++ '&' :: rest)) = decodePair cs :: decode (String.ofList rest) := by
  rw [decode, String.toList_ofList, Text.splitAll_append whole, List.filter_cons_of_pos (by simpa using some),
    List.map_cons, decode, String.toList_ofList]

end Net.Form

end ClusterWatch
