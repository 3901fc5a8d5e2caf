import Janetland.Outcomes

namespace Janetland.Act

-- An action on a part of a larger state.
def on (get : τ → σ) (put : σ → τ → τ) (act : Act σ α) : Act τ α := fun s => match act (get s) with
  | (result,t) => (result,put t s)

-- The error of a callback is printed and goes no further.
def callback (act : Act σ Unit) : Act σ Unit := fun s => match act s with
  | (.panic _,t) => (.ok (),t)
  | done => done

def forEach (act : ι → Act σ Unit) : List ι → Act σ Unit
  | [] => pure ()
  | first :: rest => do
    act first
    forEach act rest

-- The larger action does to its part what the smaller one does, with the same end.
def Simulates (get : τ → σ) (large : Act τ α) (small : Act σ α) (s : τ) (returned : α → τ → Prop)
    (raised : τ → Prop) : Prop := small (get s) = ((large s).1,get (large s).2) ∧ Ensures large s returned raised

section
variable {get : τ → σ} {put : σ → τ → τ} {large : Act τ α} {small : Act σ α} {returned : α → τ → Prop}
  {raised : τ → Prop}

theorem simulates_pure {value : α} (holds : returned value s) :
    Simulates get (pure value : Act τ α) (pure value) s returned raised := ⟨rfl,holds⟩

theorem simulates_bind {next : α → Act τ β} {onward : α → Act σ β} {returned : β → τ → Prop}
    (first : Simulates get large small s
      (fun value t => Simulates get (next value) (onward value) t returned raised) raised) : Simulates get (large >>= next) (small >>= onward) s returned raised := by
  obtain ⟨same,ended⟩ := first
  unfold Simulates
  unfold Ensures at ended ⊢
  rw [bind_run,bind_run,same]
  cases ran : large s with
  | mk result t =>
      rw [ran] at ended
      cases result with
      | ok value => exact ended
      | panic error => exact ⟨rfl,ended⟩
      | fault kind => exact ⟨rfl,trivial⟩

theorem simulates_mono {weaker stronger : α → τ → Prop} {before after : τ → Prop}
    (first : Simulates get large small s stronger before) (onReturn : ∀ value t, stronger value t → weaker value t)
    (onRaise : ∀ t, before t → after t) : Simulates get large small s weaker after :=
  ⟨first.1,ensures_weaken first.2 onReturn onRaise⟩

-- What the smaller action ensures holds of the part.
theorem simulates_part {part : α → σ → Prop} {failed : σ → Prop}
    (first : Simulates get large small s returned raised) (ended : Ensures small (get s) part failed) :
    Simulates get large small s (fun value t => returned value t ∧ part value (get t))
      fun t => raised t ∧ failed (get t) := by
  obtain ⟨same,holds⟩ := first
  refine ⟨same,?_⟩
  unfold Ensures at ended holds ⊢
  rw [same] at ended
  cases ran : large s with
  | mk result t =>
      rw [ran] at ended holds
      cases result with
      | ok value => exact ⟨holds,ended⟩
      | panic error => exact ⟨holds,ended⟩
      | fault kind => trivial

theorem simulates_on (same : ∀ t s, get (put t s) = t) {small : Act σ α}
    (ended : Ensures small (get s) (fun value t => returned value (put t s)) fun t => raised (put t s)) :
    Simulates get (on get put small) small s returned raised := by
  unfold Simulates
  unfold Ensures at ended ⊢
  unfold on
  cases ran : small (get s) with
  | mk result t =>
      rw [ran] at ended
      refine ⟨by rw [same],?_⟩
      cases result with
      | ok value => exact ended
      | panic error => exact ended
      | fault kind => trivial

theorem simulates_ran {other : Act τ α} (first : Simulates get large small t returned raised)
    (ran : other s = large t) (same : get t = get s) : Simulates get other small s returned raised := by
  obtain ⟨equal,ended⟩ := first
  unfold Simulates
  unfold Ensures at ended ⊢
  rw [ran,← same]
  exact ⟨equal,ended⟩

-- What the larger action does in addition at its end.
theorem simulates_more {next : α → Act τ α} (first : Simulates get large small s
      (fun value t => ∃ u, next value t = (.ok value,u) ∧ get u = get t ∧ returned value u) raised) :
    Simulates get (large >>= next) small s returned raised := by
  obtain ⟨same,ended⟩ := first
  unfold Simulates
  unfold Ensures at ended ⊢
  rw [bind_run,same]
  cases ran : large s with
  | mk result t =>
      rw [ran] at ended
      cases result with
      | ok value =>
          obtain ⟨u,onward,equal,holds⟩ := ended
          simp only [onward,equal]
          exact ⟨trivial,holds⟩
      | panic error => exact ⟨rfl,ended⟩
      | fault kind => exact ⟨rfl,trivial⟩

-- What the larger action does besides.
theorem simulates_aside {aside : Act τ β} {next : β → Act τ α} (ran : aside s = (.ok value,t))
    (same : get t = get s) (later : Simulates get (next value) small t returned raised) :
    Simulates get (aside >>= next) small s returned raised := by
  obtain ⟨equal,ended⟩ := later
  unfold Simulates
  unfold Ensures at ended ⊢
  rw [bind_run,ran]
  rw [same] at equal
  exact ⟨equal,ended⟩

theorem simulates_read {inspect : τ → β} {next : β → Act τ α}
    (later : Simulates get (next (inspect s)) small s returned raised) :
    Simulates get (read inspect >>= next) small s returned raised := simulates_aside rfl rfl later

theorem simulates_ended {value : α} (ran : large s = (.ok value,t)) (same : get t = get s) (holds : returned value t) :
    Simulates get large (pure value) s returned raised := by
  unfold Simulates Ensures
  rw [ran]
  refine ⟨?_,holds⟩
  rw [same]
  rfl

-- Both actions read the same.
theorem simulates_reads (inspect : σ → β) {next : β → Act τ α} {onward : β → Act σ α}
    (later : Simulates get (next (inspect (get s))) (onward (inspect (get s))) s returned raised) :
    Simulates get (read (fun t => inspect (get t)) >>= next) (read inspect >>= onward) s returned raised :=
  simulates_bind ⟨rfl,later⟩

theorem simulates_instead {other : Act σ α} (first : Simulates get large small s returned raised)
    (same : other (get s) = small (get s)) : Simulates get large other s returned raised :=
  ⟨same.trans first.1,first.2⟩

end

theorem ensures_on {get : τ → σ} {put : σ → τ → τ} {act : Act σ α} {returned : α → τ → Prop} {raised : τ → Prop}
    (ended : Ensures act (get s) (fun value t => returned value (put t s)) fun t => raised (put t s)) :
    Ensures (on get put act) s returned raised := by
  unfold Ensures at ended ⊢
  unfold on
  rcases ran : act (get s) with ⟨_ | _ | _,t⟩ <;> rw [ran] at ended <;> exact ended

-- From every state, whatever it leaves there.
def Projects (get : τ → σ) (large : Act τ α) (small : Act σ α) : Prop :=
  ∀ s, Simulates get large small s (fun _ _ => True) fun _ => True

theorem ensures_true {act : Act σ α} : Ensures act t (fun _ _ => True) fun _ => True := by
  unfold Ensures
  rcases act t with ⟨_ | _ | _,_⟩ <;> trivial

section
variable {get : τ → σ} {large : Act τ α} {small : Act σ α}

theorem projects_bind {next : α → Act τ β} {onward : α → Act σ β} (first : Projects get large small)
    (second : ∀ value, Projects get (next value) (onward value)) :
    Projects get (large >>= next) (small >>= onward) := by
  intro s
  apply simulates_bind
  exact simulates_mono (first s) (fun value t _ => second value t) fun _ _ => trivial

theorem projects_on {put : σ → τ → τ} (same : ∀ t s, get (put t s) = t) (small : Act σ α) :
    Projects get (on get put small) small := fun _ => simulates_on same ensures_true

theorem projects_pure (value : α) : Projects get (pure value) (pure value) := fun _ => simulates_pure trivial

theorem projects_lift (result : Res α) : Projects get (lift result) (lift result) := fun _ => ⟨rfl,ensures_true⟩

theorem projects_read (inspect : σ → α) : Projects get (read fun s => inspect (get s)) (read inspect) :=
  fun _ => ⟨rfl,trivial⟩

theorem projects_noted {large : Act τ Unit} {small : Act σ Unit} {note : τ → τ} (first : Projects get large small)
    (aside : ∀ s, get (note s) = get s) : Projects get (large >>= fun _ => modify note) small := by
  intro s
  apply simulates_more
  exact simulates_mono (first s) (fun _ t _ => ⟨note t,rfl,aside t,trivial⟩) fun _ _ => trivial

-- What the larger action does besides.
theorem projects_aside {note : τ → τ} {next : Unit → Act τ α} (aside : ∀ s, get (note s) = get s)
    (later : Projects get (next ()) small) : Projects get (modify note >>= next) small :=
  fun s => simulates_aside rfl (aside s) (later (note s))

end

section
variable {get : τ → σ} {large : Act τ Unit} {small : Act σ Unit} {holds : τ → Prop}

theorem simulates_callback (first : Simulates get large small s (fun _ t => holds t) holds) :
    Simulates get (callback large) (callback small) s (fun _ t => holds t) holds := by
  obtain ⟨same,ended⟩ := first
  unfold Simulates
  unfold Ensures at ended ⊢
  unfold callback
  rw [same]
  cases ran : large s with
  | mk result t =>
      rw [ran] at ended
      cases result with
      | ok value => exact ⟨rfl,ended⟩
      | panic error => exact ⟨rfl,ended⟩
      | fault kind => exact ⟨rfl,trivial⟩

theorem leaves_called (act : Act σ Unit) (s : σ) : leaves (callback act s) = leaves (act s) := by
  unfold callback
  rcases act s with ⟨_ | _ | _,t⟩ <;> rfl

theorem callback_calm {act : Act σ Unit} {returned : Unit → σ → Prop}
    (ended : Ensures act s returned fun _ => False) : callback act s = act s := by
  unfold Ensures at ended
  unfold callback
  cases ran : act s with
  | mk result t =>
      rw [ran] at ended
      cases result with
      | ok value => rfl
      | panic error => exact ended.elim
      | fault kind => rfl

theorem leaves_callback (act : Act σ α) (next : α → Act σ Unit) (s : σ) :
    leaves ((act >>= fun value => callback (next value)) s) = leaves ((act >>= next) s) := by
  rw [bind_run,bind_run]
  rcases act s with ⟨value | _ | _,t⟩
  · exact leaves_called (next value) t
  · rfl
  · rfl

theorem simulates_leaves (first : Simulates get large small s (fun _ t => holds t) holds) :
    leaves (small (get s)) = (leaves (large s)).map get ∧ ∀ t, leaves (large s) = some t → holds t := by
  obtain ⟨same,ended⟩ := first
  constructor
  · rw [same]
    rcases large s with ⟨_ | _ | _,t⟩ <;> rfl
  · intro t left
    exact ensures_leaves left ended

-- Over a list, each callback changes nothing but what it is for.
theorem forEach_still {act : ι → Act σ Unit} (still : ∀ first ∈ list, act first s = (.ok (),s)) :
    forEach act list s = (.ok (),s) := by
  induction list with
  | nil => rfl
  | cons first rest ih =>
      unfold forEach
      rw [bind_run,still first List.mem_cons_self]
      exact ih fun other inside => still other (List.mem_cons_of_mem _ inside)

end

end Janetland.Act
