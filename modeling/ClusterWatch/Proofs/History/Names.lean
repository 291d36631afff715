import ClusterWatch.Proofs.History.Columns
import ClusterWatch.Proofs.Instant.Texts
import ClusterWatch.Proofs.Uuid

namespace ClusterWatch.History

open Instant

theorem hasPlainYear_of_fits {t : Instant} (fits : t.FitsColumn) : t.HasPlainYear := by
  obtain ⟨low, high⟩ := fits
  have small := t.fits
  simp only [nanosSinceEpoch] at low high
  apply Date.year_ofDays <;> simp only [secondsPerDay] <;> omega

def lastDigits (cs : List Char) : List Char :=
  (cs.reverse.drop 1).takeWhile Char.isDigit

theorem lastDigits_append (front : List Char) {c : Char} {digits : List Char} (z : Char) (stop : c.isDigit = false)
    (all : ∀ d ∈ digits, d.isDigit) : lastDigits (front ++ c :: (digits ++ [z])) = digits.reverse := by
  have backwards : (front ++ c :: (digits ++ [z])).reverse = z :: (digits.reverse ++ c :: front.reverse) := by
    simp
  have digit : ∀ d ∈ digits.reverse, d.isDigit := fun d member => all d (List.mem_reverse.1 member)
  rw [lastDigits, backwards, List.drop_one, List.tail_cons, List.takeWhile_append_of_pos digit,
    List.takeWhile_cons_of_neg (by simp [stop]), List.append_nil]

theorem length_of_lastDigits (front : List Char) {t : Instant} (plain : t.HasPlainYear) :
    t.text.toList.length = lengthByDigits (lastDigits (front ++ t.text.toList)).length := by
  obtain ⟨before, c, digits, whole, stop, all, length⟩ := exists_digits_of_text plain
  rw [length, whole, ← List.append_assoc, lastDigits_append (front ++ before) 'Z' stop all, List.length_reverse]

theorem name_inj {a b : String} {s t : Instant} (plain : s.HasPlainYear) (plain' : t.HasPlainYear)
    (same : Entry.name a s = Entry.name b t) : a = b ∧ s = t := by
  have chars : a.toList ++ s.text.toList = b.toList ++ t.text.toList := by
    rw [← String.toList_append, ← String.toList_append]
    exact congrArg String.toList same
  have lengths : s.text.toList.length = t.text.toList.length := by
    rw [length_of_lastDigits a.toList plain, length_of_lastDigits b.toList plain', chars]
  obtain ⟨clusters, times⟩ := List.append_inj' chars lengths
  have texts := congrArg ofText? (String.toList_inj.1 times)
  rw [ofText?_text plain, ofText?_text plain'] at texts
  exact ⟨String.toList_inj.1 clusters, Option.some.inj texts⟩

end ClusterWatch.History
