import PocketCalc.Session.Router
namespace PocketCalc.Session

def run (cfg : Settings) (s : Session) (keys : List Key) : Session :=
  keys.foldl (fun s k => (s.handle cfg k).session) s

@[simp] theorem run_nil (cfg : Settings) (s : Session) : s.run cfg [] = s := rfl

@[simp] theorem run_cons (cfg : Settings) (s : Session) (k : Key) (keys : List Key) :
    s.run cfg (k :: keys) = (s.handle cfg k).session.run cfg keys := rfl

theorem run_append (cfg : Settings) (s : Session) (ks ls : List Key) :
    s.run cfg (ks ++ ls) = (s.run cfg ks).run cfg ls := by
  simp [run, List.foldl_append]

inductive Reachable (cfg : Settings) : Session → Prop
  | start : Reachable cfg {}
  | step {s : Session} (k : Key) : Reachable cfg s → Reachable cfg (s.handle cfg k).session

theorem Reachable.run {cfg : Settings} {s : Session} (h : Reachable cfg s) (keys : List Key) :
    Reachable cfg (s.run cfg keys) := by
  induction keys generalizing s with
  | nil => exact h
  | cons k keys ih => exact ih (h.step k)

theorem reachable_iff (cfg : Settings) (s : Session) :
    Reachable cfg s ↔ ∃ keys, ({} : Session).run cfg keys = s := by
  constructor
  · intro h
    induction h with
    | start => exact ⟨[], rfl⟩
    | step k _ ih =>
      obtain ⟨keys, rfl⟩ := ih
      exact ⟨keys ++ [k], by simp [run_append]⟩
  · rintro ⟨keys, rfl⟩
    exact Reachable.start.run keys

end PocketCalc.Session
