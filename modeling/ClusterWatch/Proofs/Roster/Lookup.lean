import ClusterWatch.Proofs.Keyed
import ClusterWatch.Proofs.Text.Split
import ClusterWatch.Roster.Directory
import Mathlib

namespace ClusterWatch

namespace Net.Dialogue

variable {α β : Type}

instance : LawfulMonad Dialogue :=
  .mk' Dialogue
    (fun d => by
      rcases d with ⟨sent, _ | a⟩
      · rfl
      · show (⟨sent ++ [], .ok a⟩ : Dialogue _) = _
        rw [List.append_nil])
    (fun _ _ => rfl)
    (fun d f g => by
      rcases d with ⟨sent, _ | a⟩
      · rfl
      · show Dialogue.bind ⟨sent ++ (f a).sent, (f a).result⟩ g =
          (⟨sent ++ (Dialogue.bind (f a) g).sent, (Dialogue.bind (f a) g).result⟩ : Dialogue _)
        unfold Dialogue.bind
        cases (f a).result
        · rfl
        · simp only [List.append_assoc])

theorem result_bind_eq_ok_iff {d : Dialogue α} {f : α → Dialogue β} {b : β} :
    (d >>= f).result = .ok b ↔ ∃ a, d.result = .ok a ∧ (f a).result = .ok b := by
  show (Dialogue.bind d f).result = .ok b ↔ _
  unfold Dialogue.bind
  cases d.result <;> simp

theorem exists_of_result_mapM {f : α → Dialogue β} {items : List α} {all : List β} {b : β}
    (ended : (items.mapM f).result = .ok all) (member : b ∈ all) : ∃ a ∈ items, (f a).result = .ok b := by
  induction items generalizing all with
  | nil =>
    rw [List.mapM_nil] at ended
    cases ended
    cases member
  | cons a rest ih =>
    rw [List.mapM_cons] at ended
    obtain ⟨own, first, ended⟩ := result_bind_eq_ok_iff.1 ended
    obtain ⟨others, later, ended⟩ := result_bind_eq_ok_iff.1 ended
    cases ended
    rcases List.mem_cons.1 member with rfl | member
    · exact ⟨a, List.mem_cons_self, first⟩
    · obtain ⟨a', inside, told⟩ := ih later member
      exact ⟨a', List.mem_cons_of_mem a inside, told⟩

end Net.Dialogue

namespace Roster

open Net

section Picking

variable {clusters : List Cluster} {identifier : String} {c : Cluster}

theorem identifier_of_pick (picked : pick clusters identifier = .ok c) : c.identifier = identifier := by
  unfold pick at picked
  split at picked
  · rename_i d search
    cases picked
    simpa using List.find?_some search
  · cases picked

theorem pick_of_mem (distinct : (clusters.map Cluster.identifier).Nodup) (listed : c ∈ clusters) :
    pick clusters c.identifier = .ok c := by
  have search := (Keyed.find?_eq_some_iff distinct).2 ⟨listed, rfl⟩
  simp only [pick, search]

theorem pick_of_not_mem (other : identifier ∉ clusters.map Cluster.identifier) :
    pick clusters identifier = .error (unknown identifier) := by
  have search := Keyed.find?_eq_none_iff.2 other
  simp only [pick, search]

end Picking

section Fixed

variable {clusters : List Cluster}

theorem firstFault_eq_none {seen : List String} (named : ∀ c ∈ clusters, c.identifier ≠ "")
    (fresh : ∀ c ∈ clusters, c.identifier ∉ seen) (distinct : (clusters.map Cluster.identifier).Nodup) :
    firstFault seen clusters = none := by
  induction clusters generalizing seen with
  | nil => rfl
  | cons c rest ih =>
    obtain ⟨apart, distinct⟩ := List.nodup_cons.1 distinct
    rw [firstFault, if_neg (named c List.mem_cons_self), if_neg (fresh c List.mem_cons_self)]
    apply ih (fun d member => named d (List.mem_cons_of_mem c member)) _ distinct
    intro d member again
    rcases List.mem_cons.1 again with same | again
    · exact apart (same ▸ List.mem_map_of_mem member)
    · exact fresh d (List.mem_cons_of_mem c member) again

theorem firstFault_eq_none_iff : firstFault [] clusters = none ↔
    (∀ c ∈ clusters, c.identifier ≠ "") ∧ (clusters.map Cluster.identifier).Nodup := by
  constructor
  · intro sound
    obtain ⟨each, distinct⟩ := named_and_distinct_of_firstFault sound
    exact ⟨fun c member => (each c member).1, distinct⟩
  · rintro ⟨named, distinct⟩
    exact firstFault_eq_none named (fun _ _ => List.not_mem_nil) distinct

theorem ofList_eq_ok_iff {l : Fixed} : Fixed.ofList clusters = .ok l ↔ l.clusters = clusters := by
  unfold Fixed.ofList
  split
  · rename_i fault found
    constructor
    · intro accepted
      cases accepted
    · rintro rfl
      rw [firstFault_eq_none_iff.2 ⟨l.named, l.distinct⟩] at found
      cases found
  · constructor
    · intro accepted
      cases accepted
      rfl
    · rintro rfl
      rfl

theorem exists_ofList_iff : (∃ l, Fixed.ofList clusters = .ok l) ↔
    (∀ c ∈ clusters, c.identifier ≠ "") ∧ (clusters.map Cluster.identifier).Nodup := by
  constructor
  · rintro ⟨l, accepted⟩
    obtain rfl := ofList_eq_ok_iff.1 accepted
    exact ⟨l.named, l.distinct⟩
  · rintro ⟨named, distinct⟩
    exact ⟨⟨clusters, named, distinct⟩, ofList_eq_ok_iff.2 rfl⟩

structure FindsItsOwn (r : Roster) (clusters : List Cluster) : Prop where
  listed : r.clusters = pure clusters
  found : ∀ c ∈ clusters, r.lookup c.identifier = pure c
  nothing_else : ∀ identifier, identifier ∉ clusters.map Cluster.identifier →
    r.lookup identifier = .fail (unknown identifier)

theorem findsItsOwn_ofFixed (l : Fixed) : FindsItsOwn (ofFixed l) l.clusters where
  listed := rfl
  found := by
    intro c member
    show Dialogue.ofExcept (pick l.clusters c.identifier) = _
    rw [pick_of_mem l.distinct member]
    rfl
  nothing_else := by
    intro identifier other
    show Dialogue.ofExcept (pick l.clusters identifier) = _
    rw [pick_of_not_mem other]
    rfl

end Fixed

section Directory

variable {web : Web} {d : Directory} {teams : List Team}

/-- What a directory tells of its teams is the same in its listing as for each team alone. -/
structure Directory.IsConsistent (web : Web) (d : Directory) (teams : List Team) : Prop where
  listed : (d.get web "/api/teams" (.list Team.decode)).result = .ok teams
  plain : ∀ t ∈ teams, '+' ∉ t.slug.toList
  told : ∀ t ∈ teams, (d.get web ("/api/teams/" ++ t.slug) Team.decode).result = .ok t
  distinct : ∀ t ∈ teams, ∀ members,
    (d.get web ("/api/bucket/" ++ t.bucket ++ "/clusters") (.list Member.decode)).result = .ok members →
      (members.map Member.name).Nodup

theorem identifier_cluster_injective (t : Team) :
    Function.Injective fun name => t.slug ++ "+" ++ name := by
  intro a b same
  simpa [← String.toList_inj] using same

theorem Directory.clustersOf_eq_ok {t : Team} {clusters : List Cluster}
    (told : (d.clustersOf web t).result = .ok clusters) : ∃ members : List Member,
      (d.get web ("/api/bucket/" ++ t.bucket ++ "/clusters") (.list Member.decode)).result = .ok members ∧
        clusters = members.map (Member.cluster t) := by
  obtain ⟨members, bucket, ended⟩ := Dialogue.result_bind_eq_ok_iff.1 told
  cases ended
  exact ⟨members, bucket, rfl⟩

theorem Directory.lookup_of_split {identifier : String} {slug name : List Char}
    (split : Text.splitFirst? ['+'] identifier.toList = some (slug, name)) :
    d.lookup web identifier = d.get web ("/api/teams/" ++ String.ofList slug) Team.decode >>= fun t =>
      d.clustersOf web t >>= fun clusters => .ofExcept (pick clusters identifier) := by
  simp only [Directory.lookup, split]

theorem Directory.lookup_of_no_plus {identifier : String} (whole : '+' ∉ identifier.toList) :
    d.lookup web identifier = .fail (.invalidInput ("cluster identifier " ++ Text.quoted identifier ++
      " is not of the form <team>+<cluster>")) := by
  have split := Text.splitFirst?_eq_none_of_not_mem (List.mem_singleton_self '+') whole
  simp only [Directory.lookup, split]

theorem Directory.identifier_of_lookup {identifier : String} {c : Cluster}
    (found : (d.lookup web identifier).result = .ok c) : c.identifier = identifier := by
  unfold Directory.lookup at found
  split at found
  · cases found
  · obtain ⟨t, -, found⟩ := Dialogue.result_bind_eq_ok_iff.1 found
    obtain ⟨clusters, -, picked⟩ := Dialogue.result_bind_eq_ok_iff.1 found
    exact identifier_of_pick picked

theorem Directory.lookup_of_listed (sound : d.IsConsistent web teams) {clusters : List Cluster}
    (listed : (d.clusters web).result = .ok clusters) {c : Cluster} (member : c ∈ clusters) :
    (d.lookup web c.identifier).result = .ok c := by
  obtain ⟨all, asked, ended⟩ := Dialogue.result_bind_eq_ok_iff.1 listed
  rw [sound.listed] at asked
  cases asked
  obtain ⟨lists, each, ended⟩ := Dialogue.result_bind_eq_ok_iff.1 ended
  cases ended
  obtain ⟨ofTeam, there, member⟩ := List.mem_flatten.1 member
  obtain ⟨t, team, told⟩ := Dialogue.exists_of_result_mapM each there
  obtain ⟨members, bucket, rfl⟩ := Directory.clustersOf_eq_ok told
  obtain ⟨m, inside, rfl⟩ := List.mem_map.1 member
  have distinct : ((members.map (Member.cluster t)).map Cluster.identifier).Nodup := by
    have names := (sound.distinct t team members bucket).map (identifier_cluster_injective t)
    rwa [List.map_map] at names ⊢
  have split : Text.splitFirst? ['+'] (m.cluster t).identifier.toList = some (t.slug.toList, m.name.toList) := by
    have text : (m.cluster t).identifier.toList = t.slug.toList ++ '+' :: m.name.toList := by simp [Member.cluster]
    rw [text, Text.splitFirst?_of_not_mem (sound.plain t team)]
  rw [Directory.lookup_of_split split, Dialogue.result_bind_eq_ok_iff]
  refine ⟨t, by rw [String.ofList_toList, sound.told t team], ?_⟩
  rw [Dialogue.result_bind_eq_ok_iff]
  exact ⟨_, told, pick_of_mem distinct member⟩

end Directory

/-- A list is accepted if each cluster has an identifier of its own; then these identifiers find their clusters, and no
other text finds any. What a directory lists it finds, where its answers are consistent; whatever it answers, it finds
no cluster with another identifier, and is not asked for one without a plus. -/
theorem lookup_finds_what_is_listed :
    (∀ clusters, (∃ l, Fixed.ofList clusters = .ok l) ↔
      (∀ c ∈ clusters, c.identifier ≠ "") ∧ (clusters.map Cluster.identifier).Nodup) ∧
    (∀ clusters l, Fixed.ofList clusters = .ok l → FindsItsOwn (ofFixed l) clusters) ∧
    ∀ web d,
      (∀ teams, Directory.IsConsistent web d teams → ∀ clusters, (ofDirectory web d).clusters.result = .ok clusters →
        ∀ c ∈ clusters, ((ofDirectory web d).lookup c.identifier).result = .ok c) ∧
      (∀ identifier c, ((ofDirectory web d).lookup identifier).result = .ok c → c.identifier = identifier) ∧
      ∀ identifier, '+' ∉ identifier.toList → (ofDirectory web d).lookup identifier =
        ⟨[], .error (.invalidInput ("cluster identifier " ++ Text.quoted identifier ++
          " is not of the form <team>+<cluster>"))⟩ := by
  refine ⟨fun _ => exists_ofList_iff, ?_, fun web d => ⟨?_, ?_, ?_⟩⟩
  · intro clusters l accepted
    obtain rfl := ofList_eq_ok_iff.1 accepted
    exact findsItsOwn_ofFixed l
  · intro teams sound clusters listed c member
    exact Directory.lookup_of_listed sound listed member
  · intro identifier c found
    exact Directory.identifier_of_lookup found
  · intro identifier whole
    exact Directory.lookup_of_no_plus whole

section Acme

def acmeWeb : Web := fun r =>
  if r.url.path = "/api/teams" then
    some ⟨200, "[\x7b\"slug\": \"acme\", \"bucket_uuid\": \"b-1\"\x7d]"⟩
  else if r.url.path = "/api/teams/acme" then some ⟨200, "\x7b\"slug\": \"acme\", \"bucket_uuid\": \"b-1\"\x7d"⟩
  else if r.url.path = "/api/bucket/b-1/clusters" then
    some ⟨200, "[\x7b\"identifier\": \"prod+eu\", \"address\": \"https://1.1.1.1\"\x7d]"⟩
  else some ⟨404, ""⟩

def acme : Directory := ⟨"http://directory", "key"⟩

def acmeTeam : Team := ⟨"acme", "b-1"⟩

def prodEurope : Cluster where
  identifier := "acme+prod+eu"
  address := "https://1.1.1.1"

theorem acme_teams : (acme.get acmeWeb "/api/teams" (.list Team.decode)).result = .ok [acmeTeam] := by cbv

theorem acme_bucket : (acme.get acmeWeb "/api/bucket/b-1/clusters" (.list Member.decode)).result =
    .ok [⟨"prod+eu", "https://1.1.1.1", "", ""⟩] := by cbv

theorem acme_isConsistent : Directory.IsConsistent acmeWeb acme [acmeTeam] where
  listed := acme_teams
  plain := by decide
  told := by
    intro t member
    obtain rfl := List.mem_singleton.1 member
    cbv
  distinct := by
    intro t member members told
    obtain rfl := List.mem_singleton.1 member
    have same := acme_bucket.symm.trans told
    cases same
    exact List.nodup_singleton _

theorem acme_clusters : (ofDirectory acmeWeb acme).clusters.result = .ok [prodEurope] := by
  have own : (acme.clustersOf acmeWeb acmeTeam).result = .ok [prodEurope] :=
    Dialogue.result_bind_eq_ok_iff.2 ⟨_, acme_bucket, by decide⟩
  refine Dialogue.result_bind_eq_ok_iff.2 ⟨[acmeTeam], acme_teams, ?_⟩
  refine Dialogue.result_bind_eq_ok_iff.2 ⟨[[prodEurope]], ?_, rfl⟩
  rw [List.mapM_cons]
  refine Dialogue.result_bind_eq_ok_iff.2 ⟨_, own, ?_⟩
  rfl

/-- The name of the cluster has a plus of its own, and the directory is asked by what stands before the first. -/
theorem prodEurope_is_found :
    ((ofDirectory acmeWeb acme).lookup "acme+prod+eu").result = .ok prodEurope ∧
      (∃ l, Fixed.ofList [prodEurope] = .ok l ∧ FindsItsOwn (ofFixed l) [prodEurope]) := by
  obtain ⟨accepts, fixed, directory⟩ := lookup_finds_what_is_listed
  constructor
  · exact (directory acmeWeb acme).1 [acmeTeam] acme_isConsistent [prodEurope] acme_clusters prodEurope (by simp)
  · obtain ⟨l, accepted⟩ := (accepts [prodEurope]).2 ⟨by decide, by decide⟩
    exact ⟨l, accepted, fixed [prodEurope] l accepted⟩

end Acme

end Roster

end ClusterWatch
