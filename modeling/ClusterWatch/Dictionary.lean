namespace ClusterWatch

structure Dictionary (α : Type) where
  entries : List (String × α)
  ordered : entries.Pairwise (fun a b => a.1 < b.1) := by exact List.Pairwise.nil
  deriving Repr, DecidableEq

namespace Dictionary

variable {α β : Type}

instance : EmptyCollection (Dictionary α) := ⟨⟨[], List.Pairwise.nil⟩⟩
instance : Inhabited (Dictionary α) := ⟨∅⟩

def keys (d : Dictionary α) : List String :=
  d.entries.map Prod.fst

def isEmpty (d : Dictionary α) : Bool :=
  d.entries.isEmpty

def get? (d : Dictionary α) (key : String) : Option α :=
  d.entries.lookup key

def place (key : String) (value : α) : List (String × α) → List (String × α)
  | [] => [(key, value)]
  | e :: rest =>
    if key < e.1 then (key, value) :: e :: rest
    else if e.1 < key then e :: place key value rest
    else (key, value) :: rest

theorem mem_of_mem_place {key : String} {value : α} {e : String × α} :
    ∀ {es : List (String × α)}, e ∈ place key value es → e = (key, value) ∨ e ∈ es
  | [], h => by simpa [place] using h
  | x :: rest, h => by
    unfold place at h
    split at h
    · simpa using h
    · split at h
      · rcases List.mem_cons.1 h with h | h
        · exact Or.inr (by simp [h])
        · rcases mem_of_mem_place h with h | h
          · exact Or.inl h
          · exact Or.inr (by simp [h])
      · rcases List.mem_cons.1 h with h | h
        · exact Or.inl h
        · exact Or.inr (by simp [h])

theorem place_ordered (key : String) (value : α) :
    ∀ {es : List (String × α)}, es.Pairwise (fun a b => a.1 < b.1) →
      (place key value es).Pairwise (fun a b => a.1 < b.1)
  | [], _ => by simp [place]
  | x :: rest, h => by
    obtain ⟨head, tail⟩ := List.pairwise_cons.1 h
    unfold place
    split
    · rename_i below
      refine List.pairwise_cons.2 ⟨fun e he => ?_, h⟩
      rcases List.mem_cons.1 he with rfl | he
      · exact below
      · exact String.lt_trans below (head e he)
    · split
      · rename_i above
        refine List.pairwise_cons.2 ⟨fun e he => ?_, place_ordered key value tail⟩
        rcases mem_of_mem_place he with rfl | he
        · exact above
        · exact head e he
      · rename_i notBelow notAbove
        have same : key = x.1 :=
          String.le_antisymm (String.not_lt.1 notAbove) (String.not_lt.1 notBelow)
        exact List.pairwise_cons.2 ⟨fun e he => same ▸ head e he, tail⟩

def insert (d : Dictionary α) (key : String) (value : α) : Dictionary α :=
  ⟨place key value d.entries, place_ordered key value d.ordered⟩

def update (d : Dictionary α) (key : String) (f : Option α → α) : Dictionary α :=
  d.insert key (f (d.get? key))

/-- The entries in their own order; of several values for one key the last one stays. -/
def ofList (es : List (String × α)) : Dictionary α :=
  es.foldl (fun d e => d.insert e.1 e.2) ∅

def map (f : α → β) (d : Dictionary α) : Dictionary β :=
  ⟨d.entries.map fun e => (e.1, f e.2), List.pairwise_map.2 d.ordered⟩

@[simp] theorem keys_map (f : α → β) (d : Dictionary α) : (d.map f).keys = d.keys := by
  simp [keys, map, Function.comp_def]

end Dictionary

end ClusterWatch
