import Mathlib.Data.List.Basic

namespace Directives

-- The byte that starts a directive, and the flag, width, precision and length
-- bytes that may stand before its conversion byte.
def percent : UInt8 := 37
def modifiers : List UInt8 := " #'+-.*0123456789LhjltzZqI".toList.map (fun c => UInt8.ofNat c.toNat)

variable {α : Type} (convert : List UInt8 → α → List UInt8)

-- The first argument holds the bytes of an open directive. `none` is a run that
-- the C standard leaves undefined: the format ends inside a directive, or a
-- directive reads an argument that was not passed.
def render : Option (List UInt8) → List UInt8 → List α → Option (List UInt8)
  | none,[],_ => some []
  | some _,[],_ => none
  | none,byte :: rest,args =>
    if byte = percent then render (some []) rest args
    else (render none rest args).map (byte :: ·)
  | some spec,byte :: rest,args =>
    if byte = percent ∧ spec = [] then (render none rest args).map (percent :: ·)
    else if byte ∈ modifiers then render (some (spec ++ [byte])) rest args
    else match args with
      | [] => none
      | arg :: args => (render none rest args).map (convert (spec ++ [byte]) arg ++ ·)

def format (text : List UInt8) (args : List α) : Option (List UInt8) := render convert none text args

variable {convert}

theorem render_plain (plain : percent ∉ text) : render convert none text args = some text := by
  induction text with
  | nil => simp [render]
  | cons byte rest ih =>
      simp only [List.mem_cons,not_or] at plain
      simp [render,ih plain.2,Ne.symm plain.1]

-- Without arguments no directive produces more than it consumes.
theorem render_shortens (rendered : render convert spec text [] = some output) :
    output.length ≤ text.length := by
  induction text generalizing spec output with
  | nil => cases spec <;> simp_all [render]
  | cons byte rest ih =>
      cases spec with
      | none =>
          simp only [render] at rendered
          split at rendered
          · exact Nat.le_succ_of_le (ih rendered)
          · obtain ⟨tail,produced,rfl⟩ := Option.map_eq_some_iff.mp rendered
            simpa using ih produced
      | some spec =>
          simp only [render] at rendered
          split at rendered
          · obtain ⟨tail,produced,rfl⟩ := Option.map_eq_some_iff.mp rendered
            simpa using ih produced
          · split at rendered
            · exact Nat.le_succ_of_le (ih rendered)
            · cases rendered

theorem render_drops (marked : percent ∈ text) (rendered : render convert none text [] = some output) :
    output.length < text.length := by
  induction text generalizing output with
  | nil => cases marked
  | cons byte rest ih =>
      simp only [render] at rendered
      split at rendered
      · exact Nat.lt_succ_of_le (render_shortens rendered)
      · rename_i different
        obtain ⟨tail,produced,rfl⟩ := Option.map_eq_some_iff.mp rendered
        have later : percent ∈ rest := (List.mem_cons.mp marked).resolve_left (Ne.symm different)
        simpa using ih later produced

-- A text is its own rendering without arguments exactly if it holds no directive byte.
theorem format_text_exact : format convert text [] = some text ↔ percent ∉ text := by
  constructor
  · intro rendered marked
    exact Nat.lt_irrefl _ (render_drops marked rendered)
  · exact fun plain => render_plain plain

end Directives
