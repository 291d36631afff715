import ClusterWatch.Failure
import ClusterWatch.Net.Web

namespace ClusterWatch.Net

structure Dialogue (α : Type) where
  sent : List Request := []
  result : Except Failure α

namespace Dialogue

variable {α β : Type}

def bind (d : Dialogue α) (f : α → Dialogue β) : Dialogue β :=
  match d.result with
  | .error e => ⟨d.sent, .error e⟩
  | .ok a => ⟨d.sent ++ (f a).sent, (f a).result⟩

instance : Monad Dialogue where
  pure a := ⟨[], .ok a⟩
  bind := bind

def fail (f : Failure) : Dialogue α := ⟨[], .error f⟩

def ofExcept (r : Except Failure α) : Dialogue α := ⟨[], r⟩

@[simp] theorem sent_ofExcept (r : Except Failure α) : (ofExcept r).sent = [] := rfl
@[simp] theorem result_ofExcept (r : Except Failure α) : (ofExcept r).result = r := rfl

end Dialogue

end ClusterWatch.Net
