namespace ClusterWatch.Text.Utf8

def encode (cs : List Char) : List UInt8 :=
  cs.flatMap String.utf8EncodeChar

def continued : Nat → Nat → List UInt8 → Option (Nat × List UInt8)
  | 0, n, bs => some (n, bs)
  | count + 1, n, b :: bs =>
    if b.toNat / 64 = 2 then continued count (n * 64 + b.toNat % 64) bs else none
  | _ + 1, _, [] => none

/-- A character of several bytes is refused when fewer would do. -/
def wide? (count least start : Nat) (bs : List UInt8) : Option (Char × List UInt8) :=
  match continued count start bs with
  | some (n, rest) => if least ≤ n ∧ n.isValidChar then some (Char.ofNat n, rest) else none
  | none => none

def next? : List UInt8 → Option (Char × List UInt8)
  | [] => none
  | b :: bs =>
    let n := b.toNat
    if n < 0x80 then some (Char.ofNat n, bs)
    else if n < 0xC0 then none
    else if n < 0xE0 then wide? 1 0x80 (n % 32) bs
    else if n < 0xF0 then wide? 2 0x800 (n % 16) bs
    else if n < 0xF8 then wide? 3 0x10000 (n % 8) bs
    else none

theorem length_le_of_continued :
    ∀ {count n m : Nat} {bs rest : List UInt8}, continued count n bs = some (m, rest) →
      rest.length ≤ bs.length
  | 0, _, _, _, _, h => by simp_all [continued]
  | _ + 1, _, _, [], _, h => by simp [continued] at h
  | count + 1, n, m, b :: bs, rest, h => by
    simp only [continued] at h
    split at h
    · exact Nat.le_succ_of_le (length_le_of_continued h)
    · simp at h

theorem length_le_of_wide? {count least start : Nat} {bs rest : List UInt8} {c : Char}
    (h : wide? count least start bs = some (c, rest)) : rest.length ≤ bs.length := by
  unfold wide? at h
  split at h
  · rename_i n r hr
    split at h
    · obtain ⟨-, rfl⟩ := Prod.mk.inj (Option.some.inj h)
      exact length_le_of_continued hr
    · simp at h
  · simp at h

theorem length_lt_of_next? {bs rest : List UInt8} {c : Char} (h : next? bs = some (c, rest)) :
    rest.length < bs.length := by
  cases bs with
  | nil => simp [next?] at h
  | cons b bs =>
    simp only [next?] at h
    split at h
    · obtain ⟨-, rfl⟩ := Prod.mk.inj (Option.some.inj h)
      simp
    · split at h
      · simp at h
      · have bound : rest.length ≤ bs.length := by
          split at h
          · exact length_le_of_wide? h
          · split at h
            · exact length_le_of_wide? h
            · split at h
              · exact length_le_of_wide? h
              · simp at h
        simp only [List.length_cons]
        omega

def decode? (bs : List UInt8) : Option (List Char) :=
  match h : next? bs with
  | some (c, rest) =>
    have := length_lt_of_next? h
    (decode? rest).map (c :: ·)
  | none => if bs.isEmpty then some [] else none
termination_by bs.length

/-- Text out of bytes where each byte that is no part of a character is replaced. -/
def decodeLossy (bs : List UInt8) : List Char :=
  match h : next? bs with
  | some (c, rest) =>
    have := length_lt_of_next? h
    c :: decodeLossy rest
  | none =>
    match bs with
    | [] => []
    | _ :: rest => '\uFFFD' :: decodeLossy rest
termination_by bs.length

end ClusterWatch.Text.Utf8
