import Janetland.Actions

namespace Janetland.Act

-- What holds after an action that returns or raises, and is never undefined.
def Ends (act : Act σ α) (s : σ) (returned : α → σ → Prop) (raised : σ → Prop) : Prop := match act s with
  | (.ok value,t) => returned value t
  | (.panic _,t) => raised t
  | (.fault _,_) => False

variable {act : Act σ α} {next : α → Act σ β} {returned : β → σ → Prop} {raised : σ → Prop}

theorem ends_bind (first : Ends act s (fun value t => Ends (next value) t returned raised) raised) :
    Ends (act >>= next) s returned raised := by
  unfold Ends at first ⊢
  rw [bind_run]
  cases ran : act s with
  | mk result t =>
      rw [ran] at first
      cases result <;> exact first

theorem ends_mono {weaker stronger : α → σ → Prop} {before after : σ → Prop} (first : Ends act s stronger before)
    (onReturn : ∀ value t, stronger value t → weaker value t) (onRaise : ∀ t, before t → after t) :
    Ends act s weaker after := by
  unfold Ends at first ⊢
  cases ran : act s with
  | mk result t =>
      rw [ran] at first
      cases result with
      | ok value => exact onReturn value t first
      | panic error => exact onRaise t first
      | fault kind => exact first

theorem ends_run (ran : act s = (.ok value,t)) {returned : α → σ → Prop} (holds : returned value t) :
    Ends act s returned raised := by
  unfold Ends
  rw [ran]
  exact holds

theorem ensures_weaken {weaker stronger : α → σ → Prop} {before after : σ → Prop} (first : Ensures act s stronger before)
    (onReturn : ∀ value t, stronger value t → weaker value t) (onRaise : ∀ t, before t → after t) :
    Ensures act s weaker after := by
  unfold Ensures at first ⊢
  cases ran : act s with
  | mk result t =>
      rw [ran] at first
      cases result with
      | ok value => exact onReturn value t first
      | panic error => exact onRaise t first
      | fault kind => trivial

theorem ensures_and {first second : α → σ → Prop} {one two : σ → Prop} (left : Ensures act s first one)
    (right : Ensures act s second two) :
    Ensures act s (fun value t => first value t ∧ second value t) fun t => one t ∧ two t := by
  unfold Ensures at left right ⊢
  cases ran : act s with
  | mk result t =>
      rw [ran] at left right
      cases result with
      | ok value => exact ⟨left,right⟩
      | panic error => exact ⟨left,right⟩
      | fault kind => trivial

theorem ensures_returned {returned : α → σ → Prop} (ended : Ensures act s returned raised)
    (ran : act s = (.ok value,t)) : returned value t := by
  unfold Ensures at ended
  rwa [ran] at ended

theorem ends_look {inspect : σ → Res β} (held : inspect s = .ok value) (holds : returned value s) :
    Ends (look inspect) s returned raised := by
  unfold Ends look
  rw [held]
  exact holds

theorem ends_raise {inspect : σ → Res β} (held : inspect s = .panic error) (failed : raised s) :
    Ends (look inspect) s returned raised := by
  unfold Ends look
  rw [held]
  exact failed

theorem ends_read {get : σ → β} (holds : returned (get s) s) : Ends (read get) s returned raised := holds

theorem ends_modify {change : σ → σ} {returned : Unit → σ → Prop} (holds : returned () (change s)) :
    Ends (modify change) s returned raised := holds

-- Raising is one of the two ends of a check.
theorem ends_check {returned : Unit → σ → Prop} (checked : condition = true → returned () s)
    (failed : condition = false → raised s) :
    Ends (lift (if condition then .ok () else panicf message values)) s returned raised := by
  cases condition with
  | true => exact checked rfl
  | false => exact failed rfl

theorem ends_returned {returned : α → σ → Prop} (ended : Ends act s returned raised) (ran : act s = (.ok value,t)) :
    returned value t := by
  unfold Ends at ended
  rwa [ran] at ended

theorem ends_leaves {holds : σ → Prop} (ended : Ends act s (fun _ t => holds t) holds) :
    ∃ t, leaves (act s) = some t ∧ holds t := by
  unfold Ends at ended
  cases ran : act s with
  | mk result t =>
      rw [ran] at ended
      cases result with
      | ok value => exact ⟨t,rfl,ended⟩
      | panic error => exact ⟨t,rfl,ended⟩
      | fault kind => exact ended.elim

theorem keeps_both {first : σ → γ} {second : σ → δ} (one : Keeps first act) (two : Keeps second act) :
    Keeps (fun s => (first s,second s)) act := by
  intro s
  have both := ensures_both (one s) (two s)
  exact ensures_imp (fun t ended => Prod.ext ended.1 ended.2) both

-- An action keeps a property of the state, also when it raises.
def Preserves (holds : σ → Prop) (act : Act σ α) : Prop := ∀ s, holds s → Ensures act s (fun _ t => holds t) holds

theorem preserves_bind {holds : σ → Prop} (first : Preserves holds act) (second : ∀ value, Preserves holds (next value)) :
    Preserves holds (act >>= next) := by
  intro s before
  apply ensures_bind
  exact ensures_weaken (first s before) (fun value t after => second value t after) fun _ after => after

theorem preserves_keeps {holds : σ → Prop} {part : σ → γ} (kept : Keeps part act)
    (same : ∀ s t, part t = part s → holds s → holds t) : Preserves holds act := by
  intro s before
  exact ensures_weaken (kept s) (fun _ t equal => same s t equal before) fun t equal => same s t equal before

end Janetland.Act
