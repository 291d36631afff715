import ClusterWatch.Uuid
import Mathlib.Algebra.Group.Nat.Defs

namespace ClusterWatch

namespace Sha1

theorem length_digest (message : List UInt8) : (digest message).length = 20 :=
  rfl

end Sha1

namespace Uuid

def message (space : Uuid) (name : String) : List UInt8 :=
  ((List.range 16).map fun i => UInt8.ofNat (space.bits.toNat >>> (8 * (15 - i)))) ++ name.toUTF8.toList

def keptBits (i : Nat) (b : UInt8) : UInt8 :=
  if i = 6 then b &&& 0x0F else if i = 8 then b &&& 0x3F else b

def mark (i : Nat) (b : UInt8) : UInt8 :=
  if i = 6 then (b &&& 0x0F) ||| 0x50 else if i = 8 then (b &&& 0x3F) ||| 0x80 else b

/-- What an id keeps of a digest, which are 122 of its bits. -/
def kept (digest : List UInt8) : List UInt8 :=
  (digest.take 16).mapIdx keptBits

/-- Two different messages whose digests agree in all that an id keeps. -/
def Collide (m m' : List UInt8) : Prop :=
  m ≠ m' ∧ kept (Sha1.digest m) = kept (Sha1.digest m')

theorem ofName_eq (space : Uuid) (name : String) :
    ofName space name = ofBytes (((Sha1.digest (message space name)).take 16).mapIdx mark) := by
  rw [List.mapIdx_eq_zipIdx_map]
  rfl

theorem keptBits_mark (i : Nat) (b : UInt8) : keptBits i (mark i b) = keptBits i b := by
  have masked (mask flags : UInt8) (apart : flags &&& mask = 0) : ((b &&& mask) ||| flags) &&& mask = b &&& mask := by
    apply UInt8.toNat_inj.1
    rw [UInt8.toNat_and, UInt8.toNat_or, Nat.and_or_distrib_right, ← UInt8.toNat_and, ← UInt8.toNat_and, apart,
      UInt8.and_assoc, UInt8.and_self, UInt8.toNat_zero, Nat.or_zero]
  simp only [keptBits, mark]
  split
  · exact masked _ _ rfl
  · split
    · exact masked _ _ rfl
    · rfl

theorem kept_eq_of_marked {digest digest' : List UInt8}
    (same : (digest.take 16).mapIdx mark = (digest'.take 16).mapIdx mark) : kept digest = kept digest' := by
  have again := congrArg (List.mapIdx keptBits) same
  have unmarked : ∀ ds : List UInt8, (ds.mapIdx mark).mapIdx keptBits = ds.mapIdx keptBits := by
    intro ds
    rw [List.mapIdx_mapIdx]
    congr 1
    funext i b
    exact keptBits_mark i b
  rwa [unmarked, unmarked] at again

theorem number_lt (bytes : List UInt8) (n : Nat) :
    bytes.foldl (fun n b => n * 256 + b.toNat) n < (n + 1) * 256 ^ bytes.length := by
  induction bytes generalizing n with
  | nil => simp
  | cons b rest ih =>
    have small := b.toNat_lt
    have more : (n * 256 + b.toNat + 1) * 256 ^ rest.length ≤ (n + 1) * 256 * 256 ^ rest.length := by
      apply Nat.mul_le_mul_right
      omega
    rw [List.foldl_cons, List.length_cons, Nat.pow_succ', ← Nat.mul_assoc]
    exact Nat.lt_of_lt_of_le (ih _) more

theorem bytes_eq_of_number {bytes others : List UInt8} {m n : Nat} (length : bytes.length = others.length)
    (same : bytes.foldl (fun n b => n * 256 + b.toNat) m = others.foldl (fun n b => n * 256 + b.toNat) n) :
    m = n ∧ bytes = others := by
  induction bytes generalizing others m n with
  | nil =>
    cases List.eq_nil_of_length_eq_zero length.symm
    exact ⟨same, rfl⟩
  | cons b rest ih =>
    cases others with
    | nil => cases length
    | cons c others =>
      obtain ⟨front, back⟩ := ih (Nat.succ.inj length) same
      have left := b.toNat_lt
      have right := c.toNat_lt
      dsimp only at front
      have first : b = c := UInt8.toNat_inj.1 (by omega)
      exact ⟨by omega, by rw [first, back]⟩

theorem ofBytes_inj {bytes others : List UInt8} (sixteen : bytes.length = 16) (sixteen' : others.length = 16)
    (same : ofBytes bytes = ofBytes others) : bytes = others := by
  have small := number_lt bytes 0
  have small' := number_lt others 0
  rw [sixteen] at small
  rw [sixteen'] at small'
  have numbers := congrArg (fun u : Uuid => u.bits.toNat) same
  simp only [ofBytes, BitVec.toNat_ofNat] at numbers
  rw [Nat.mod_eq_of_lt (by omega), Nat.mod_eq_of_lt (by omega)] at numbers
  exact (bytes_eq_of_number (sixteen.trans sixteen'.symm) numbers).2

theorem toList_loop (bytes : ByteArray) (i : Nat) (read : List UInt8) :
    ByteArray.toList.loop bytes i read = read.reverse ++ bytes.data.toList.drop i := by
  fun_induction ByteArray.toList.loop bytes i read with
  | case1 i read inside ih =>
    have there : i < bytes.data.toList.length := by simpa using inside
    have first : bytes.get! i = bytes.data.toList[i] := by
      simp [ByteArray.get!]
      rw [getElem!_pos]
    rw [ih, List.reverse_cons, List.append_assoc, List.singleton_append, List.drop_eq_getElem_cons there, first]
  | case2 i read outside =>
    rw [List.drop_of_length_le, List.append_nil]
    simpa using outside

theorem message_inj {space : Uuid} {name other : String} (same : message space name = message space other) :
    name = other := by
  have bytes := List.append_cancel_left same
  rw [ByteArray.toList, ByteArray.toList, toList_loop, toList_loop] at bytes
  have arrays : name.toUTF8 = other.toUTF8 := ByteArray.ext (Array.toList_inj.1 bytes)
  rwa [String.toUTF8_eq_toByteArray, String.toUTF8_eq_toByteArray, String.toByteArray_inj] at arrays

theorem ofName_eq_cases {space : Uuid} {name other : String} (same : ofName space name = ofName space other) :
    name = other ∨ Collide (message space name) (message space other) := by
  by_cases equal : name = other
  · exact Or.inl equal
  · refine Or.inr ⟨fun messages => equal (message_inj messages), ?_⟩
    rw [ofName_eq, ofName_eq] at same
    have length : ∀ m, (((Sha1.digest m).take 16).mapIdx mark).length = 16 := by
      intro m
      rw [List.length_mapIdx, List.length_take, Sha1.length_digest]
      rfl
    exact kept_eq_of_marked (ofBytes_inj (length _) (length _) same)

theorem hexValue?_digitChar : ∀ d : Fin 16, Text.hexValue? (Nat.digitChar d) = some d.val := by
  decide

theorem mapM_hexValue?_append {cs es : List Char} {vs ws : List Nat} (front : cs.mapM Text.hexValue? = some vs)
    (back : es.mapM Text.hexValue? = some ws) : (cs ++ es).mapM Text.hexValue? = some (vs ++ ws) := by
  rw [List.mapM_append, front, Option.bind_eq_bind, Option.bind_some, back]
  rfl

def hexNumber (ds : List Nat) : Nat := ds.foldl (fun n d => n * 16 + d) 0

theorem exists_values_toDigits (n : Nat) :
    ∃ vs, (Nat.toDigits 16 n).mapM Text.hexValue? = some vs ∧ hexNumber vs = n := by
  induction n using Nat.strongRecOn with
  | ind n ih =>
    by_cases small : n < 16
    · have digit := hexValue?_digitChar ⟨n, small⟩
      rw [Nat.toDigits_of_lt_base small]
      exact ⟨[n], by simp [digit], by simp [hexNumber]⟩
    · obtain ⟨vs, read, value⟩ := ih (n / 16) (by omega)
      have last := hexValue?_digitChar ⟨n % 16, by omega⟩
      rw [Nat.toDigits_of_base_le (by decide) (by omega)]
      refine ⟨vs ++ [n % 16], mapM_hexValue?_append read (by simp [last]), ?_⟩
      rw [hexNumber, List.foldl_append, ← hexNumber, value, List.foldl_cons, List.foldl_nil]
      omega

theorem mapM_replicate_zero (count : Nat) :
    (List.replicate count '0').mapM Text.hexValue? = some (List.replicate count 0) := by
  induction count with
  | zero => rfl
  | succ count ih =>
    rw [List.replicate_succ, List.mapM_cons, ih]
    rfl

theorem hexNumber_zeros (count : Nat) (ds : List Nat) : hexNumber (List.replicate count 0 ++ ds) = hexNumber ds := by
  rw [hexNumber, List.foldl_append]
  congr 1
  induction count with
  | zero => rfl
  | succ count ih => rwa [List.replicate_succ, List.foldl_cons]

theorem length_hexDigits (u : Uuid) : u.hexDigits.length = 32 := by
  have few := (Nat.length_toDigits_le_iff (b := 16) (k := 32) (by decide) (by decide)).2 u.bits.isLt
  rw [hexDigits, List.length_append, List.length_replicate]
  omega

theorem ofHexDigits?_hexDigits (u : Uuid) : ofHexDigits? u.hexDigits = some u := by
  obtain ⟨vs, read, value⟩ := exists_values_toDigits u.bits.toNat
  have digits := mapM_hexValue?_append (mapM_replicate_zero (32 - (Nat.toDigits 16 u.bits.toNat).length)) read
  have number : hexNumber (List.replicate (32 - (Nat.toDigits 16 u.bits.toNat).length) 0 ++ vs) = u.bits.toNat := by
    rw [hexNumber_zeros, value]
  rw [ofHexDigits?, if_pos u.length_hexDigits, hexDigits, digits, Option.map_some]
  congr 1
  show Uuid.mk (BitVec.ofNat 128 (hexNumber _)) = u
  rw [number, BitVec.ofNat_toNat, BitVec.setWidth_eq]

theorem ofHyphenated?_groups {a b c d e : List Char} (first : a.length = 8) (second : b.length = 4)
    (third : c.length = 4) (fourth : d.length = 4) (fifth : e.length = 12) :
    ofHyphenated? (a ++ '-' :: (b ++ '-' :: (c ++ '-' :: (d ++ '-' :: e)))) =
      ofHexDigits? (a ++ (b ++ (c ++ (d ++ e)))) := by
  generalize whole : a ++ '-' :: (b ++ '-' :: (c ++ '-' :: (d ++ '-' :: e))) = cs
  have marks : (cs.length = 36 && [8, 13, 18, 23].all fun i => cs[i]? = some '-') = true := by
    simp [← whole, List.getElem?_append, first, second, third, fourth, fifth]
  have kept : cs.take 8 ++ (cs.drop 9).take 4 ++ (cs.drop 14).take 4 ++ (cs.drop 19).take 4 ++ cs.drop 24 =
      a ++ (b ++ (c ++ (d ++ e))) := by
    simp (disch := omega) [← whole, List.drop_append, List.drop_of_length_le, first, second, third, fourth]
  rw [ofHyphenated?, if_pos marks, kept]

theorem take_append_take_drop {α : Type} {start size stop : Nat} (same : start + size = stop) (items : List α) :
    (items.drop start).take size ++ items.drop stop = items.drop start := by
  rw [← same, ← List.drop_drop, List.take_append_drop]

theorem ofText?_text (u : Uuid) : ofText? u.text = some u := by
  have length := u.length_hexDigits
  have last : (u.hexDigits.drop 20).take 12 = u.hexDigits.drop 20 := List.take_of_length_le (by simp [length])
  have all : u.text.toList.length = 36 := by simp [text, length]
  have groups : ofHyphenated? u.text.toList = ofHexDigits? u.hexDigits := by
    rw [text, String.toList_ofList, ofHyphenated?_groups]
    · dsimp only
      rw [last, take_append_take_drop (by decide), take_append_take_drop (by decide), take_append_take_drop (by decide),
        List.drop_zero, List.take_append_drop]
    all_goals simp [length]
  simp only [ofText?, all, Nat.reduceEqDiff, if_false, if_true, groups, ofHexDigits?_hexDigits]

end Uuid

end ClusterWatch
