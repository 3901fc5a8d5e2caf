import Mathlib.Data.List.Basic

namespace EventRuns

-- A machine answers an event with its next state, or refuses it with `none`.
-- A run offers a list of events and ends at the first refusal.
variable {σ ε : Type} (step : σ → ε → Option σ)

def visited (s : σ) : List ε → List σ
  | [] => [s]
  | event :: rest => s :: match step s event with
    | none => []
    | some next => visited next rest

-- The accepted events, each with the state it was accepted in.
def taken (s : σ) : List ε → List (σ × ε)
  | [] => []
  | event :: rest => match step s event with
    | none => []
    | some next => (s,event) :: taken next rest

variable {step}

theorem visited_start (events : List ε) : s ∈ visited step s events := by
  cases events <;> simp [visited]

theorem visited_refused (refused : step s event = none) :
    visited step s (event :: rest) = [s] := by simp [visited,refused]

theorem visited_accepted (accepted : step s event = some next) :
    visited step s (event :: rest) = s :: visited step next rest := by simp [visited,accepted]

theorem taken_refused (refused : step s event = none) : taken step s (event :: rest) = [] := by
  simp [taken,refused]

theorem taken_accepted (accepted : step s event = some next) :
    taken step s (event :: rest) = (s,event) :: taken step next rest := by simp [taken,accepted]

theorem visited_invariant (invariant : σ → Prop) (preserved : ∀ t event next,
    invariant t → step t event = some next → invariant next) (valid : invariant s) :
    ∀ t ∈ visited step s events, invariant t := by
  induction events generalizing s with
  | nil => simpa [visited] using valid
  | cons event rest ih =>
      cases accepted : step s event with
      | none => simpa [visited_refused accepted] using valid
      | some next =>
          rw [visited_accepted accepted]
          intro t member
          rcases List.mem_cons.mp member with rfl | later
          · exact valid
          · exact ih (preserved _ _ _ valid accepted) t later

-- Both rules also hold for runs whose accepted events meet an assumption.
theorem visited_assuming (invariant : σ → Prop) (assumed : σ → ε → Prop) (preserved : ∀ t event next,
    invariant t → assumed t event → step t event = some next → invariant next) (valid : invariant s)
    (granted : ∀ row ∈ taken step s events, assumed row.1 row.2) :
    ∀ t ∈ visited step s events, invariant t := by
  induction events generalizing s with
  | nil => simpa [visited] using valid
  | cons event rest ih =>
      cases accepted : step s event with
      | none => simpa [visited_refused accepted] using valid
      | some next =>
          rw [taken_accepted accepted] at granted
          rw [visited_accepted accepted]
          intro t member
          rcases List.mem_cons.mp member with rfl | later
          · exact valid
          · have first := granted _ List.mem_cons_self
            exact ih (preserved _ _ _ valid first accepted) (fun row inside => granted row (.tail _ inside)) t later

-- When one step keeps a safety property exactly if the event passes a gate, the
-- property holds throughout a run exactly if every accepted event passed it.
theorem gate_assuming (invariant safe : σ → Prop) (gate assumed : σ → ε → Prop)
    (preserved : ∀ t event next, invariant t → safe t → step t event = some next → invariant next)
    (kept : ∀ t event next, invariant t → safe t → assumed t event → step t event = some next →
      (safe next ↔ gate t event))
    (valid : invariant s) (start : safe s) (granted : ∀ row ∈ taken step s events, assumed row.1 row.2) :
    (∀ t ∈ visited step s events, safe t) ↔ ∀ row ∈ taken step s events, gate row.1 row.2 := by
  induction events generalizing s with
  | nil => simpa [visited,taken] using start
  | cons event rest ih =>
      cases accepted : step s event with
      | none => simpa [visited_refused accepted,taken_refused accepted] using start
      | some next =>
          rw [taken_accepted accepted] at granted
          have one := kept _ _ _ valid start (granted _ List.mem_cons_self) accepted
          have validNext := preserved _ _ _ valid start accepted
          have later := fun row inside => granted row (List.mem_cons_of_mem _ inside)
          rw [visited_accepted accepted,taken_accepted accepted]
          simp only [List.forall_mem_cons]
          constructor
          · rintro ⟨_,tail⟩
            have safeNext := tail next (visited_start rest)
            exact ⟨one.mp safeNext,(ih validNext safeNext later).mp tail⟩
          · rintro ⟨passed,tail⟩
            exact ⟨start,(ih validNext (one.mpr passed) later).mpr tail⟩

theorem gate_exact (invariant safe : σ → Prop) (gate : σ → ε → Prop)
    (preserved : ∀ t event next, invariant t → step t event = some next → invariant next)
    (kept : ∀ t event next, invariant t → safe t → step t event = some next →
      (safe next ↔ gate t event))
    (valid : invariant s) (start : safe s) :
    (∀ t ∈ visited step s events, safe t) ↔ ∀ row ∈ taken step s events, gate row.1 row.2 :=
  gate_assuming invariant safe gate (fun _ _ => True)
    (fun t event next holds _ accepted => preserved t event next holds accepted)
    (fun t event next holds unharmed _ accepted => kept t event next holds unharmed accepted)
    valid start fun _ _ => trivial

-- A machine that a second one follows, without a say in what is accepted.
def followed (step : σ → ε → Option σ) (follow : σ → γ → ε → γ) (pair : σ × γ) (event : ε) : Option (σ × γ) :=
  (step pair.1 event).map fun next => (next,follow pair.1 pair.2 event)

theorem followed_exact {follow : σ → γ → ε → γ} : followed step follow (s,ghost) event = some (next,after) ↔
    step s event = some next ∧ follow s ghost event = after := by
  cases accepted : step s event <;> simp [followed,accepted]

theorem followed_visited {follow : σ → γ → ε → γ} :
    (visited (followed step follow) (s,ghost) events).map Prod.fst = visited step s events := by
  induction events generalizing s ghost with
  | nil => rfl
  | cons event rest ih =>
      cases accepted : step s event with
      | none =>
          have refused : followed step follow (s,ghost) event = none := by simp [followed,accepted]
          rw [visited_refused accepted,visited_refused refused]
          rfl
      | some next =>
          have taken : followed step follow (s,ghost) event = some (next,follow s ghost event) :=
            followed_exact.mpr ⟨accepted,rfl⟩
          rw [visited_accepted accepted,visited_accepted taken,List.map_cons,ih]

theorem taken_visited (member : row ∈ taken step s events) : row.1 ∈ visited step s events := by
  induction events generalizing s with
  | nil => simp [taken] at member
  | cons event rest ih =>
      cases accepted : step s event with
      | none => simp [taken_refused accepted] at member
      | some next =>
          rw [taken_accepted accepted] at member
          rw [visited_accepted accepted]
          rcases List.mem_cons.mp member with rfl | later
          · exact List.mem_cons_self
          · exact List.mem_cons_of_mem _ (ih later)

-- The states that some run from `s` visits.
def Reaches (step : σ → ε → Option σ) (s t : σ) : Prop := ∃ events, t ∈ visited step s events

theorem reaches_refl (s : σ) : Reaches step s s := ⟨[],visited_start []⟩

theorem reaches_step (accepted : step s event = some next) (later : Reaches step next t) : Reaches step s t := by
  obtain ⟨events,member⟩ := later
  refine ⟨event :: events,?_⟩
  rw [visited_accepted accepted]
  exact List.mem_cons_of_mem _ member

theorem reaches_trans (first : Reaches step s t) (second : Reaches step t u) : Reaches step s u := by
  obtain ⟨events,member⟩ := first
  induction events generalizing s with
  | nil =>
      obtain rfl := List.mem_singleton.mp member
      exact second
  | cons event rest ih =>
      cases accepted : step s event with
      | none =>
          rw [visited_refused accepted] at member
          obtain rfl := List.mem_singleton.mp member
          exact second
      | some next =>
          rw [visited_accepted accepted] at member
          rcases List.mem_cons.mp member with rfl | later
          · exact second
          · exact reaches_step accepted (ih later)

-- A machine over a larger state whose part takes the steps of this one.
theorem visited_projected {large : τ → δ → Option τ} (get : τ → σ) (name : δ → ε) (invariant : τ → Prop)
    (one : ∀ t event, invariant t → (large t event).map get = step (get t) (name event) ∧
      ∀ next, large t event = some next → invariant next) (valid : invariant t) :
    (visited large t events).map get = visited step (get t) (events.map name) := by
  induction events generalizing t with
  | nil => rfl
  | cons event rest ih =>
      obtain ⟨same,kept⟩ := one t event valid
      cases accepted : large t event with
      | none =>
          rw [accepted] at same
          rw [visited_refused accepted,List.map_cons,List.map_cons,visited_refused same.symm]
          rfl
      | some next =>
          rw [accepted] at same
          rw [visited_accepted accepted,List.map_cons,List.map_cons,visited_accepted same.symm,
            ih (kept next accepted)]

end EventRuns
