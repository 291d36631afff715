import ClusterWatch.Proofs.Text.Blank
import ClusterWatch.Proofs.Text.Split
import ClusterWatch.Settings

namespace ClusterWatch.Settings

def IsHostAndPort (address : List Char) : Prop :=
  ∃ host port, address = host ++ ':' :: port ∧ host.getLast? ≠ some ':' ∧ port ≠ [] ∧ ∀ c ∈ port, c.isDigit

def pageServer? (s : Settings) : Option (List Char) :=
  (Text.splitFirst? [':', '/', '/'] (Text.trim s.listen.toList)).map fun page => page.2.takeWhile (· ≠ '/')

def HasOpenPort (s : Settings) : Prop :=
  ∃ server, s.pageServer? = some server ∧ server.getLast? = some ':'

def HasBlankHost (s : Settings) : Prop :=
  ∃ server, s.pageServer? = some server ∧ ∃ c, server.head? = some c ∧ Text.isBlank c

theorem not_mem_of_digits {mark : Char} (other : mark.isDigit = false) {cs : List Char}
    (digits : ∀ c ∈ cs, c.isDigit) : mark ∉ cs := by
  intro member
  rw [digits mark member] at other
  cases other

theorem hasPort_iff {address : List Char} : hasPort address ↔ IsHostAndPort address := by
  unfold hasPort
  constructor
  · intro has
    split at has
    · rename_i host port split
      simp only [Bool.and_eq_true, Bool.not_eq_true', List.isEmpty_eq_false_iff, List.all_eq_true, decide_eq_true_eq] at has
      obtain ⟨⟨some, digits⟩, closed⟩ := has
      exact ⟨host, port, (Text.splitLast?_eq_some_iff.1 split).1, closed, some, digits⟩
    · cases has
  · rintro ⟨host, port, rfl, closed, some, digits⟩
    rw [Text.splitLast?_of_not_mem (not_mem_of_digits rfl digits) host]
    simp only [Bool.and_eq_true, Bool.not_eq_true', List.isEmpty_eq_false_iff, List.all_eq_true, decide_eq_true_eq]
    exact ⟨⟨some, digits⟩, closed⟩

theorem IsHostAndPort.last {address : List Char} (has : IsHostAndPort address) {c : Char}
    (last : address.getLast? = some c) : c.isDigit := by
  obtain ⟨host, port, rfl, -, some, digits⟩ := has
  have shared : (host ++ ':' :: port).getLast? = port.getLast? := by
    rw [List.getLast?_append, List.getLast?_cons, List.getLast?_eq_some_getLast some, Option.getD_some, Option.some_or]
  rw [shared] at last
  exact digits c (List.mem_of_getLast? last)

theorem usualPort_digits (scheme : List Char) :
    (usualPort scheme).toList ≠ [] ∧ ∀ c ∈ (usualPort scheme).toList, c.isDigit := by
  unfold usualPort
  split <;> simp

theorem isHostAndPort_usualPort (server scheme : List Char) :
    IsHostAndPort (server ++ ':' :: (usualPort scheme).toList) ↔ server.getLast? ≠ some ':' := by
  have digits := usualPort_digits scheme
  constructor
  · rintro ⟨host, port, same, closed, -, all⟩
    have none : ':' ∉ port := not_mem_of_digits rfl all
    have split := Text.splitLast?_of_not_mem none host
    rw [← same, Text.splitLast?_of_not_mem (not_mem_of_digits rfl digits.2) server] at split
    cases split
    exact closed
  · intro closed
    exact ⟨server, _, rfl, closed, digits⟩

section Reading

variable {s : Settings} {address : String}

theorem takeWhile_of_no_slash {cs : List Char} (plain : '/' ∉ cs) : cs.takeWhile (· ≠ '/') = cs := by
  apply List.takeWhile_eq_self_iff.2
  intro c member
  apply decide_eq_true
  rintro rfl
  exact plain member

theorem not_mem_takeWhile (cs : List Char) : '/' ∉ cs.takeWhile (· ≠ '/') := by
  intro member
  have other := List.mem_takeWhile_imp member
  simp at other

theorem listenAddress_of_bare (bare : Text.splitFirst? [':', '/', '/'] (Text.trim s.listen.toList) = none) :
    s.listenAddress = .ok address ↔ IsHostAndPort ((Text.trim s.listen.toList).takeWhile (· ≠ '/')) ∧
      address.toList = (Text.trim s.listen.toList).takeWhile (· ≠ '/') := by
  generalize server : (Text.trim s.listen.toList).takeWhile (· ≠ '/') = cs
  simp only [listenAddress, bare, server, ← hasPort_iff]
  constructor
  · intro told
    split at told
    · cases told
    · split at told
      · rename_i has
        cases told
        exact ⟨has, String.toList_ofList⟩
      · cases told
  · rintro ⟨has, same⟩
    have some : ¬ cs.isEmpty := by
      rintro none
      rw [List.isEmpty_iff.1 none] at has
      cases has
    rw [if_neg some, if_pos has, ← same, String.ofList_toList]

theorem listenAddress_of_page {scheme rest : List Char}
    (page : Text.splitFirst? [':', '/', '/'] (Text.trim s.listen.toList) = some (scheme, rest))
    (told : s.listenAddress = .ok address) : rest.takeWhile (· ≠ '/') ≠ [] ∧
      ((IsHostAndPort (rest.takeWhile (· ≠ '/')) ∧ address.toList = rest.takeWhile (· ≠ '/')) ∨
        address.toList = rest.takeWhile (· ≠ '/') ++ ':' :: (usualPort scheme).toList) := by
  generalize server : rest.takeWhile (· ≠ '/') = cs
  simp only [listenAddress, page, server] at told
  split at told
  · cases told
  · rename_i some
    refine ⟨fun none => some (List.isEmpty_iff.2 none), ?_⟩
    split at told
    · rename_i has
      cases told
      exact Or.inl ⟨hasPort_iff.1 has, String.toList_ofList⟩
    · cases told
      refine Or.inr ?_
      rw [String.toList_append, String.toList_append, String.toList_ofList, List.append_assoc]
      rfl

theorem shape_of_page {server scheme : List Char} (named : server ≠ []) (plain : '/' ∉ server)
    (read : (IsHostAndPort server ∧ address.toList = server) ∨
      address.toList = server ++ ':' :: (usualPort scheme).toList) :
    '/' ∉ address.toList ∧ address.toList.head? = server.head? ∧
      (IsHostAndPort address.toList ↔ server.getLast? ≠ some ':') := by
  rcases read with ⟨has, same⟩ | same
  · rw [same]
    refine ⟨plain, rfl, iff_of_true has fun last => ?_⟩
    exact absurd (has.last last) (by decide)
  · rw [same]
    refine ⟨?_, ?_, isHostAndPort_usualPort server scheme⟩
    · intro member
      rcases List.mem_append.1 member with inside | behind
      · exact plain inside
      · rcases List.mem_cons.1 behind with colon | digit
        · exact absurd colon (by decide)
        · exact not_mem_of_digits rfl (usualPort_digits scheme).2 digit
    · rw [List.head?_append, List.head?_eq_some_head named, Option.some_or]

theorem listenAddress_again_iff (given : s.listen = address) (plain : '/' ∉ address.toList) :
    s.listenAddress = .ok address ↔
      IsHostAndPort address.toList ∧ ∀ c ∈ address.toList.head?, Text.isBlank c = false := by
  have inside : '/' ∉ Text.trim s.listen.toList := by
    rw [given]
    exact fun member => plain (Text.trim_subset _ member)
  have solid (has : IsHostAndPort address.toList) : ∀ c ∈ address.toList.getLast?, Text.isBlank c = false :=
    fun c last => Text.isBlank_of_isDigit (has.last last)
  have bare : Text.splitFirst? [':', '/', '/'] (Text.trim s.listen.toList) = none :=
    Text.splitFirst?_eq_none_of_not_mem (by decide) inside
  rw [listenAddress_of_bare bare, takeWhile_of_no_slash inside, given]
  constructor
  · rintro ⟨has, same⟩
    rw [← same] at has
    exact ⟨has, (Text.trim_eq_self_iff (solid has)).1 same.symm⟩
  · rintro ⟨has, head⟩
    rw [(Text.trim_eq_self_iff (solid has)).2 head]
    exact ⟨has, rfl⟩

end Reading

/-- What is told to listen on is a host and a port, and is told again when it is given itself, but for the addresses of
pages with an open port or a blank in front of the server. -/
theorem listen_address_is_stable_iff {s : Settings} {address : String} (told : s.listenAddress = .ok address) :
    (IsHostAndPort address.toList ↔ ¬ s.HasOpenPort) ∧
      ({ s with listen := address }.listenAddress = .ok address ↔ ¬ s.HasOpenPort ∧ ¬ s.HasBlankHost) := by
  have again := listenAddress_again_iff (s := { s with listen := address }) rfl
  cases split : Text.splitFirst? [':', '/', '/'] (Text.trim s.listen.toList) with
  | none =>
    have page : s.pageServer? = none := by rw [pageServer?, split, Option.map_none]
    have closed : ¬ s.HasOpenPort := by simp [HasOpenPort, page]
    have solid : ¬ s.HasBlankHost := by simp [HasBlankHost, page]
    obtain ⟨has, same⟩ := (listenAddress_of_bare split).1 told
    rw [← same] at has
    have head : ∀ c ∈ address.toList.head?, Text.isBlank c = false := by
      intro c first
      rw [same, List.head?_takeWhile] at first
      exact Text.head_trim (Option.mem_filter_iff.1 first).1
    rw [again (same ▸ not_mem_takeWhile _)]
    exact ⟨iff_of_true has closed, iff_of_true ⟨has, head⟩ ⟨closed, solid⟩⟩
  | some parts =>
    obtain ⟨scheme, rest⟩ := parts
    have page : s.pageServer? = some (rest.takeWhile (· ≠ '/')) := by rw [pageServer?, split, Option.map_some]
    have plain := not_mem_takeWhile rest
    obtain ⟨named, read⟩ := listenAddress_of_page split told
    generalize rest.takeWhile (· ≠ '/') = server at page plain named read
    obtain ⟨whole, head, has⟩ := shape_of_page named plain read
    have closed : s.HasOpenPort ↔ server.getLast? = some ':' := by
      simp only [HasOpenPort, page, Option.some.injEq, exists_eq_left']
    have solid : ¬ s.HasBlankHost ↔ ∀ c ∈ address.toList.head?, Text.isBlank c = false := by
      simp only [HasBlankHost, page, Option.some.injEq, exists_eq_left', head, not_exists, not_and, Bool.not_eq_true,
        Option.mem_def]
    rw [again whole, has, closed, solid]
    exact ⟨Iff.rfl, Iff.rfl⟩

def securePage : Settings := { listen := "https://example.com/" }

theorem securePage_is_stable : securePage.listenAddress = .ok "example.com:443" ∧
    IsHostAndPort "example.com:443".toList ∧
    { securePage with listen := "example.com:443" }.listenAddress = .ok "example.com:443" := by
  have told : securePage.listenAddress = .ok "example.com:443" := by decide
  have server : securePage.pageServer? = some "example.com".toList := by decide
  have closed : ¬ securePage.HasOpenPort := by
    simp only [HasOpenPort, server, Option.some.injEq, exists_eq_left']
    decide
  have solid : ¬ securePage.HasBlankHost := by
    simp only [HasBlankHost, server, Option.some.injEq, exists_eq_left']
    rintro ⟨c, first, blank⟩
    cases first
    exact absurd blank (by decide)
  obtain ⟨shape, again⟩ := listen_address_is_stable_iff told
  exact ⟨told, shape.2 closed, again.2 ⟨closed, solid⟩⟩

/-- A page with an open port gets a second colon, which is no host with a port, and is refused when it is given. -/
theorem open_port_gets_second_colon :
    ({ listen := "http://localhost:" } : Settings).listenAddress = .ok "localhost::80" ∧
      ¬ IsHostAndPort "localhost::80".toList ∧
      ({ listen := "localhost::80" } : Settings).listenAddress =
        .error (.configuration "listen address \"localhost::80\" has no port") := by
  refine ⟨by decide, ?_, by decide⟩
  rw [← hasPort_iff]
  decide

end ClusterWatch.Settings
