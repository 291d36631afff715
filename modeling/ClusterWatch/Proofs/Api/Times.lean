import ClusterWatch.Proofs.Api.Responses
import ClusterWatch.Proofs.History.Columns
import ClusterWatch.Proofs.Instant.Spans
import ClusterWatch.Proofs.Instant.Texts
import ClusterWatch.Proofs.Net.Form
import ClusterWatch.Proofs.Roster.Lookup

namespace ClusterWatch

namespace Instant

theorem between_self_iff {t u : Instant} : t ≤ u ∧ u ≤ t ↔ u = t := by
  constructor
  · rintro ⟨after, before⟩
    exact le_antisymm before after
  · rintro rfl
    exact ⟨le_refl u, le_refl u⟩

theorem forall_mem_text {P : Char → Prop} (digit : ∀ c : Char, c.isDigit → P c)
    (mark : ∀ c ∈ ['-', 'T', ':', '.', 'Z'], P c) {t : Instant} (plain : t.HasPlainYear) : ∀ c ∈ t.text.toList, P c := by
  have digits (places n : Nat) : ∀ c ∈ padded places n, P c := fun c member => digit c (isDigit_of_mem_padded member)
  have fraction : ∀ c ∈ fractionChars t.fields.nanos, P c := by
    rcases fractionChars_cases (fitWidths_fields plain).nanos with ⟨-, none⟩ | ⟨places, n, -, -, -, same⟩
    · rw [none]
      exact List.forall_mem_nil P
    · rw [same]
      exact List.forall_mem_cons.2 ⟨mark '.' (by decide), digits places n⟩
  have dash := mark '-' (by decide)
  have colon := mark ':' (by decide)
  rw [toList_text plain, Fields.minuteChars]
  simp only [List.forall_mem_append, List.forall_mem_cons]
  exact ⟨⟨digits 4 _, dash, digits 2 _, dash, digits 2 _, mark 'T' (by decide), digits 2 _, colon, digits 2 _⟩,
    colon, digits 2 _, fraction, mark 'Z' (by decide), List.forall_mem_nil P⟩

end Instant

namespace History

theorem mem_entries_at {h : History} {cluster : String} {since till : Instant} {e : Entry}
    (listed : e ∈ h.entries cluster since till) {d : Entry} :
    d ∈ h.entries cluster e.time e.time ↔ d ∈ h.heldEntries ∧ d.cluster = cluster ∧ d.time = e.time := by
  cases h with
  | ring r =>
    simp only [entries, Ring.list, heldEntries, List.mem_mergeSort, List.mem_filter, Bool.and_eq_true,
      decide_eq_true_eq, and_assoc, Instant.between_self_iff]
  | documents t =>
    obtain ⟨held, -⟩ := (mem_entries_documents cluster since till).1 listed
    obtain ⟨r, -, rfl⟩ := List.mem_map.1 held
    have column : r.entry.time.clamped = r.entry.time := Instant.clamped_of_column (Instant.isColumnTime_ofNanos r.nanos)
    rw [mem_entries_documents, column, Instant.between_self_iff]

theorem held_of_listed {h : History} {cluster : String} {since till : Instant} {e : Entry}
    (listed : e ∈ h.entries cluster since till) : e ∈ h.heldEntries ∧ e.cluster = cluster := by
  cases h with
  | ring r =>
    simp only [entries, Ring.list, List.mem_mergeSort, List.mem_filter, Bool.and_eq_true, decide_eq_true_eq] at listed
    exact ⟨listed.1, listed.2.1.1⟩
  | documents t =>
    obtain ⟨held, same, -⟩ := (mem_entries_documents cluster since till).1 listed
    exact ⟨held, same⟩

namespace Window

theorem resolve?_of_texts {t u : Instant} (plain : t.HasPlainYear) (plain' : u.HasPlainYear) (now : Instant) :
    resolve? ⟨some t.text, some u.text⟩ now = (now.minusSeconds? usualSpan).map fun _ => (t, u) := by
  simp only [resolve?, Option.bind_some, Instant.ofText?_text plain, Instant.ofText?_text plain', Option.getD_some]

theorem exists_dayBefore {now : Instant} (since : .epoch ≤ now) :
    ∃ dayBefore, now.minusSeconds? usualSpan = some dayBefore := by
  apply Option.ne_none_iff_exists'.1
  rw [Instant.minusSeconds?, Ne, Instant.minus?_eq_none_iff_of_far (by decide), not_lt]
  have late := Instant.nanosSinceEpoch_nonneg since
  have early : Instant.firstSecond * 1000000000 + usualSpan * 1000000000 ≤ 0 := by decide
  omega

end Window

end History

namespace Api

open History

theorem isLiteral_of_mem_text {t : Instant} (plain : t.HasPlainYear) :
    ∀ c ∈ t.text.toList, Net.Form.IsLiteral c ∧ c ≠ '&' := by
  refine Instant.forall_mem_text (P := fun c => Net.Form.IsLiteral c ∧ c ≠ '&') ?_ (by simp [Net.Form.IsLiteral]) plain
  intro c digit
  have apart {d : Char} (other : d.isDigit = false) : c ≠ d := by
    rintro rfl
    rw [digit] at other
    cases other
  have ascii : c.toNat < 0x80 := Nat.lt_of_le_of_lt (Char.isDigit_iff_toNat.1 digit).2 (by decide)
  exact ⟨⟨ascii, apart rfl, apart rfl⟩, apart rfl⟩

section Pairs

variable {t : Instant} (plain : t.HasPlainYear) {name : List Char}
include plain

theorem decodePair_of_time (literal : ∀ c ∈ name, Net.Form.IsLiteral c) (whole : '=' ∉ name) :
    Net.Form.decodePair (name ++ '=' :: t.text.toList) = (String.ofList name, t.text) := by
  have value := fun c member => (isLiteral_of_mem_text plain c member).1
  rw [Net.Form.decodePair_of_literal literal value whole, String.ofList_toList]

theorem whole_pair_of_time (whole : '&' ∉ name) : '&' ∉ name ++ '=' :: t.text.toList := by
  intro member
  rcases List.mem_append.1 member with inside | inside
  · exact whole inside
  · rcases List.mem_cons.1 inside with mark | inside
    · exact absurd mark (by decide)
    · exact (isLiteral_of_mem_text plain '&' inside).2 rfl

end Pairs

theorem windowOf_of_texts {t u : Instant} (plain : t.HasPlainYear) (plain' : u.HasPlainYear) :
    windowOf ("from=" ++ t.text ++ "&to=" ++ u.text) = .ok ⟨some t.text, some u.text⟩ := by
  have first := whole_pair_of_time plain (show '&' ∉ "from".toList by decide)
  have second := whole_pair_of_time plain' (show '&' ∉ "to".toList by decide)
  have written : "from=" ++ t.text ++ "&to=" ++ u.text = String.ofList
      (("from".toList ++ '=' :: t.text.toList) ++ '&' :: ("to".toList ++ '=' :: u.text.toList)) := by
    apply String.toList_inj.1
    simp
  have literal : (∀ c ∈ "from".toList, Net.Form.IsLiteral c) ∧ ∀ c ∈ "to".toList, Net.Form.IsLiteral c := by
    simp [Net.Form.IsLiteral]
  have pairs : Net.Form.decode ("from=" ++ t.text ++ "&to=" ++ u.text) = [("from", t.text), ("to", u.text)] := by
    rw [written, Net.Form.decode_append first (by simp), Net.Form.decode_of_whole second (by simp),
      decodePair_of_time plain literal.1 (by decide), decodePair_of_time plain' literal.2 (by decide)]
    rfl
  simp only [windowOf, pairs]
  rfl

structure ListsTimeOf (e : Entry) (a : Response) : Prop where
  status : a.status = 200
  entries : ∃ entries, a = Response.sent (.ofJson (Json.ofList Entry.encode entries)) ∧ e ∈ entries ∧
    ∀ d ∈ entries, d.cluster = e.cluster ∧ d.time.text = e.time.text

theorem entries_at_time {api : Api} {c : Cluster} {h : History} {e : Entry}
    (known : (api.roster.lookup c.identifier).result = .ok c) (keeps : api.history = h.shelf)
    (plain : e.time.HasPlainYear) (now : Instant) :
    (api.entries now c.identifier ⟨some e.time.text, some e.time.text⟩).response =
      (now.minusSeconds? Window.usualSpan).map fun _ =>
        .ofJson (Json.ofList Entry.encode (h.entries c.identifier e.time e.time)) := by
  have shelved : api.history.entries c.identifier e.time e.time = .ok (h.entries c.identifier e.time e.time) := by
    rw [keeps]
    rfl
  unfold entries
  rw [Work.response_of_ok known]
  simp only [Window.resolve?_of_texts plain plain]
  cases now.minusSeconds? Window.usualSpan with
  | none => rfl
  | some dayBefore => simp only [Option.map_some, shelved, Work.ofExcept, Work.done]

theorem listsTimeOf_entries {c : Cluster} {h : History} {e : Entry} {since till : Instant}
    (listed : e ∈ h.entries c.identifier since till) :
    ListsTimeOf e (Response.sent (.ofJson (Json.ofList Entry.encode (h.entries c.identifier e.time e.time)))) := by
  obtain ⟨held, cluster⟩ := held_of_listed listed
  refine ⟨rfl, _, rfl, (mem_entries_at listed).2 ⟨held, cluster, rfl⟩, fun d member => ?_⟩
  obtain ⟨-, same, time⟩ := (mem_entries_at listed).1 member
  exact ⟨same.trans cluster.symm, congrArg Instant.text time⟩

def production : Cluster where
  identifier := "prod"
  address := "https://prod.example"

def leapRing : History := (History.ring (.empty 4)).after [.save ⟨1⟩ "prod" leapSecond {}]

def overLeapRing : Api where
  roster := .ofFixed onlyProduction
  connector := fun _ => ⟨0, .fault (.timeout 0)⟩
  limits := ⟨.ofSeconds 15, .ofSeconds 60⟩
  history := leapRing

def atLeapSecond : Request where
  path := "/clusters/prod/history"
  query := some "from=2016-12-31T23:59:60.500Z&to=2016-12-31T23:59:60.500Z"

end Api

end ClusterWatch
