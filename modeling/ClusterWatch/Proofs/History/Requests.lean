import ClusterWatch.History

namespace ClusterWatch.History

inductive Request where
  | save (fresh : Uuid) (cluster : String) (time : Instant) (snapshot : Snapshot)
  | list (cluster : String) (since till : Instant)
  | fetch (id : Uuid)
  | remove (cutoff : Instant)
  deriving Repr

inductive Answer where
  | saved (id : Except Failure Uuid)
  | listed (entries : List Entry)
  | fetched (snapshot : Except Failure Snapshot)
  | removed (count : Nat)

def answer (h : History) : Request → Answer × History
  | .save fresh cluster time snapshot =>
    match h.save fresh cluster time snapshot with
    | .ok (id, next) => (.saved (.ok id), next)
    | .error f => (.saved (.error f), h)
  | .list cluster since till => (.listed (h.entries cluster since till), h)
  | .fetch id => (.fetched (h.fetch id), h)
  | .remove cutoff => (.removed (h.removeBefore cutoff).1, (h.removeBefore cutoff).2)

def after (h : History) (requests : List Request) : History :=
  requests.foldl (fun h r => (h.answer r).2) h

def answers (h : History) : List Request → List Answer
  | [] => []
  | r :: rest => (h.answer r).1 :: (h.answer r).2.answers rest

def savedBy : List Request → List Slot
  | [] => []
  | .save fresh cluster time snapshot :: rest => ⟨⟨fresh, cluster, time⟩, snapshot⟩ :: savedBy rest
  | _ :: rest => savedBy rest

theorem savedBy_cons (request : Request) (rest : List Request) :
    savedBy (request :: rest) = savedBy [request] ++ savedBy rest := by
  cases request <;> rfl

theorem savedBy_subset {request : Request} {requests : List Request} (member : request ∈ requests) :
    savedBy [request] ⊆ savedBy requests := by
  induction requests with
  | nil => exact absurd member List.not_mem_nil
  | cons first rest ih =>
    intro s saved
    rw [savedBy_cons]
    rcases List.mem_cons.1 member with rfl | later
    · exact List.mem_append_left _ saved
    · exact List.mem_append_right _ (ih later saved)

end ClusterWatch.History
