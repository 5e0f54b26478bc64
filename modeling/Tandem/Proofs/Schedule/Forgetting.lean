import Tandem.Proofs.Schedule.Coherence

set_option autoImplicit false

/-!
Forgetting what makes no difference. A function on instances forgets something, say how the inbox is
built, and leaves inboxes that no tap listens to. If it commutes with the steps of one side and with
what arrives at the other, it commutes with the steps of the pair.
-/

namespace Tandem

namespace Pair

/-- Forgets something about both sides, and all that taps have written. -/
def forget (f : Instance → Instance) (p : Pair) : Pair := ⟨f p.zero, f p.one, #[]⟩

variable {f : Instance → Instance}

@[simp]
theorem get_forget (p : Pair) (s : Side) : (p.forget f).get s = f (p.get s) := by
  cases s <;> rfl

@[simp]
theorem forget_set (p : Pair) (s : Side) (c : Instance) :
    (p.set s c).forget f = (p.forget f).set s (f c) := by
  cases s <;> rfl

@[simp]
theorem forget_record (p : Pair) (written : Text) : (p.record written).forget f = p.forget f := by
  unfold record
  split <;> rfl

@[simp]
theorem forget_modify {p : Pair} {s : Side} {g : Instance → Instance}
    (commutes : f (g (p.get s)) = g (f (p.get s))) :
    (p.modify s g).forget f = (p.forget f).modify s g := by
  cases s with
  | zero => exact congrArg (fun c => Pair.mk c (f p.one) #[]) commutes
  | one => exact congrArg (fun c => Pair.mk (f p.zero) c #[]) commutes

@[simp]
theorem forget_deliver {p : Pair} {receiver : Side} {value : Int64}
    (silent : (f (p.get receiver)).inbox.announce value = [])
    (commutes : f ((p.get receiver).deliver value) = (f (p.get receiver)).deliver value) :
    (p.deliver receiver value).forget f = (p.forget f).deliver receiver value := by
  unfold deliver
  rw [forget_modify, forget_record, get_forget, silent]
  · rfl
  · simpa using commutes

/-- A step of the pair, where one side steps and the other gets what is sent. -/
@[simp]
theorem forget_advance {program : Program} {p : Pair} {s : Side}
    (silent : ∀ value, (f (p.get s.other)).inbox.announce value = [])
    (advances : (f (p.get s)).advance program =
      (f ((p.get s).advance program).1, ((p.get s).advance program).2))
    (delivers : ∀ value, f ((p.get s.other).deliver value) = (f (p.get s.other)).deliver value) :
    (p.advance program s s.other).forget f = (p.forget f).advance program s s.other := by
  unfold advance
  rw [act_eq, act_eq, get_forget, advances]
  have partner : (p.set s ((p.get s).advance program).1).get s.other = p.get s.other :=
    get_modify_other p s _
  cases ((p.get s).advance program).2 with
  | none => exact forget_set p s _
  | some value =>
      simp only
      rw [forget_deliver, forget_set]
      · rw [partner]
        exact silent value
      · rw [partner]
        exact delivers value

end Pair

end Tandem
