import Janetland.Values

namespace Janetland

-- A C function that changes a state; what it did before a panic stays done.
def Act (σ α : Type) : Type := σ → Res α × σ

namespace Act

def lift (result : Res α) : Act σ α := fun s => (result,s)

def bind (act : Act σ α) (next : α → Act σ β) : Act σ β := fun s => match act s with
  | (.ok value,t) => next value t
  | (.panic error,t) => (.panic error,t)
  | (.fault kind,t) => (.fault kind,t)

instance : Monad (Act σ) where
  pure value := lift (.ok value)
  bind := bind

theorem bind_run (act : Act σ α) (next : α → Act σ β) (s : σ) : (act >>= next) s = match act s with
    | (.ok value,t) => next value t
    | (.panic error,t) => (.panic error,t)
    | (.fault kind,t) => (.fault kind,t) := rfl

def modify (change : σ → σ) : Act σ Unit := fun s => (.ok (),change s)
def look (inspect : σ → Res α) : Act σ α := fun s => (inspect s,s)
def read (get : σ → α) : Act σ α := look fun s => .ok (get s)

-- Pre- and postconditions: undefined runs are outside the model and satisfy any.
def Ensures (act : Act σ α) (s : σ) (returned : α → σ → Prop) (raised : σ → Prop) : Prop := match act s with
  | (.ok value,t) => returned value t
  | (.panic _,t) => raised t
  | (.fault _,_) => True

variable {act : Act σ α} {next : α → Act σ β} {returned : β → σ → Prop} {raised : σ → Prop}

theorem ensures_pure (value : β) (holds : returned value s) :
    Ensures (pure value : Act σ β) s returned raised := holds

theorem ensures_bind (first : Ensures act s (fun value t => Ensures (next value) t returned raised) raised) :
    Ensures (act >>= next) s returned raised := by
  unfold Ensures at first ⊢
  rw [bind_run]
  cases ran : act s with
  | mk result t =>
      rw [ran] at first
      cases result <;> exact first

theorem ensures_mono {weaker : α → σ → Prop} {stronger : α → σ → Prop} (first : Ensures act s stronger raised)
    (implies : ∀ value t, stronger value t → weaker value t) : Ensures act s weaker raised := by
  unfold Ensures at first ⊢
  cases ran : act s with
  | mk result t =>
      rw [ran] at first
      cases result with
      | ok value => exact implies value t first
      | panic error => exact first
      | fault kind => trivial

theorem ensures_look {inspect : σ → Res β} (holds : ∀ value, inspect s = .ok value → returned value s)
    (failed : ∀ error, inspect s = .panic error → raised s) : Ensures (look inspect) s returned raised := by
  unfold Ensures look
  cases found : inspect s with
  | ok value => exact holds value found
  | panic error => exact failed error found
  | fault kind => trivial

theorem ensures_lift {result : Res β} (holds : ∀ value, result = .ok value → returned value s)
    (failed : raised s) : Ensures (lift result) s returned raised := by
  change Ensures (look fun _ => result) s returned raised
  exact ensures_look holds fun _ _ => failed

theorem ensures_found {inspect : σ → Res β} (found : inspect s = .ok value) (holds : returned value s) :
    Ensures (look inspect) s returned raised := by
  unfold Ensures look
  rw [found]
  exact holds

theorem ensures_read {get : σ → β} (holds : returned (get s) s) : Ensures (read get) s returned raised := holds

theorem ensures_modify {change : σ → σ} {returned : Unit → σ → Prop} (holds : returned () (change s)) :
    Ensures (modify change) s returned raised := holds

-- An action that neither raises nor is undefined.
def Returns (act : Act σ α) (s : σ) (returned : α → σ → Prop) : Prop :=
  ∃ value t, act s = (.ok value,t) ∧ returned value t

theorem returns_pure (value : β) (holds : returned value s) : Returns (pure value : Act σ β) s returned :=
  ⟨value,s,rfl,holds⟩

theorem returns_bind (first : Returns act s fun value t => Returns (next value) t returned) :
    Returns (act >>= next) s returned := by
  obtain ⟨value,t,ran,result,u,onward,holds⟩ := first
  refine ⟨result,u,?_,holds⟩
  rw [bind_run,ran]
  exact onward

theorem returns_look {inspect : σ → Res β} (found : inspect s = .ok value) (holds : returned value s) :
    Returns (look inspect) s returned := ⟨value,s,by rw [look,found],holds⟩

theorem returns_lift {result : Res β} (found : result = .ok value) (holds : returned value s) :
    Returns (lift result) s returned := returns_look found holds

theorem returns_read {get : σ → β} (holds : returned (get s) s) : Returns (read get) s returned :=
  ⟨get s,s,rfl,holds⟩

theorem returns_modify {change : σ → σ} {returned : Unit → σ → Prop} (holds : returned () (change s)) :
    Returns (modify change) s returned := ⟨(),change s,rfl,holds⟩

-- What an action does not touch it leaves as it was, also when it raises.
def Keeps (part : σ → γ) (act : Act σ α) : Prop :=
  ∀ s, Ensures act s (fun _ t => part t = part s) fun t => part t = part s

variable {part : σ → γ}

theorem keeps_lift (result : Res α) : Keeps part (lift result : Act σ α) :=
  fun _ => ensures_lift (fun _ _ => rfl) rfl

theorem keeps_pure (value : α) : Keeps part (pure value : Act σ α) := keeps_lift (.ok value)

theorem keeps_look (inspect : σ → Res α) : Keeps part (look inspect) :=
  fun _ => ensures_look (fun _ _ => rfl) fun _ _ => rfl

theorem keeps_read (get : σ → α) : Keeps part (read get) := keeps_look _

theorem keeps_modify {change : σ → σ} (kept : ∀ s, part (change s) = part s) : Keeps part (modify change) := kept

theorem keeps_bind (first : Keeps part act) (second : ∀ value, Keeps part (next value)) :
    Keeps part (act >>= next) := by
  intro s
  have before := first s
  unfold Ensures at before ⊢
  rw [bind_run]
  cases ran : act s with
  | mk result t =>
      rw [ran] at before
      cases result with
      | ok value =>
          have after := second value t
          unfold Ensures at after
          have same : part t = part s := before
          rw [same] at after
          exact after
      | panic error => exact before
      | fault kind => trivial

theorem keeps_view (kept : Keeps part act) (view : γ → δ) : Keeps (view ∘ part) act := by
  intro s
  have all := kept s
  unfold Ensures at all ⊢
  cases ran : act s with
  | mk result t =>
      rw [ran] at all
      cases result with
      | ok value => exact congrArg view all
      | panic error => exact congrArg view all
      | fault kind => trivial

-- The state that an action leaves, also when it raises.
def leaves : Res α × σ → Option σ
  | (.ok _,t) => some t
  | (.panic _,t) => some t
  | (.fault _,_) => none

theorem ensures_leaves {holds : σ → Prop} (left : leaves (act s) = some t)
    (ended : Ensures act s (fun _ t => holds t) holds) : holds t := by
  unfold Ensures at ended
  cases ran : act s with
  | mk result t =>
      rw [ran] at left ended
      cases result with
      | ok value =>
          obtain rfl := Option.some.inj left
          exact ended
      | panic error =>
          obtain rfl := Option.some.inj left
          exact ended
      | fault kind => simp [leaves] at left

-- What holds of the state however the action ends.
theorem ensures_imp {before after : σ → Prop} (implies : ∀ t, before t → after t)
    (ended : Ensures act s (fun _ t => before t) before) : Ensures act s (fun _ t => after t) after := by
  unfold Ensures at ended ⊢
  cases ran : act s with
  | mk result t =>
      rw [ran] at ended
      cases result with
      | ok value => exact implies t ended
      | panic error => exact implies t ended
      | fault kind => trivial

theorem ensures_both {first second : σ → Prop} (left : Ensures act s (fun _ t => first t) first)
    (right : Ensures act s (fun _ t => second t) second) :
    Ensures act s (fun _ t => first t ∧ second t) fun t => first t ∧ second t := by
  unfold Ensures at left right ⊢
  cases ran : act s with
  | mk result t =>
      rw [ran] at left right
      cases result with
      | ok value => exact ⟨left,right⟩
      | panic error => exact ⟨left,right⟩
      | fault kind => trivial

theorem ensures_kept (holds : γ → Prop) (kept : Keeps part act) (before : holds (part s)) :
    Ensures act s (fun _ t => holds (part t)) fun t => holds (part t) := by
  have all := kept s
  unfold Ensures at all ⊢
  cases ran : act s with
  | mk result t =>
      rw [ran] at all
      cases result with
      | ok value =>
          have same : part t = part s := all
          change holds (part t)
          rwa [same]
      | panic error =>
          have same : part t = part s := all
          change holds (part t)
          rwa [same]
      | fault kind => trivial

end Act

end Janetland
