import Mathlib.Data.List.TakeWhile

-- Parsing expressions with captures, over any alphabet.
namespace Peg

inductive Pattern (α γ : Type) where
  | literal (word : List α)
  | set (member : α → Bool)
  | chars (count : Nat)
  -- at the end of the text
  | ending
  | sequence (first second : Pattern α γ)
  | choice (first second : Pattern α γ)
  | between (least : Nat) (most : Option Nat) (body : Pattern α γ)
  -- up to the first place where the body matches
  | to (body : Pattern α γ)
  -- the body matches, and what it consumed has a value
  | capture (value : List α → Option γ) (body : Pattern α γ)

namespace Pattern

def any (body : Pattern α γ) : Pattern α γ := between 0 none body
def some (body : Pattern α γ) : Pattern α γ := between 1 none body
def opt (body : Pattern α γ) : Pattern α γ := between 0 (Option.some 1) body

end Pattern

structure Match (α γ : Type) where
  eaten : List α
  captures : List γ
  rest : List α

def Match.before (first second : Match α γ) : Match α γ :=
  ⟨first.eaten ++ second.eaten,first.captures ++ second.captures,second.rest⟩

-- A repetition without a bound also ends when its body consumes nothing.
def repeated (run : List α → Option (Match α γ)) (endless : Bool) : Nat → List α → Nat × Match α γ
  | 0,text => (0,⟨[],[],text⟩)
  | fuel + 1,text => match run text with
    | none => (0,⟨[],[],text⟩)
    | some first =>
      if endless && first.eaten.isEmpty then (0,⟨[],[],text⟩)
      else
        let later := repeated run endless fuel first.rest
        (later.1 + 1,first.before later.2)

def search (run : List α → Option (Match α γ)) : List α → Option (Match α γ)
  | [] => (run []).map fun _ => ⟨[],[],[]⟩
  | char :: rest => match run (char :: rest) with
    | some _ => some ⟨[],[],char :: rest⟩
    | none => (search run rest).map fun found => { found with eaten := char :: found.eaten }

variable {α γ : Type} {text eaten rest : List α} {member : α → Bool}

-- The characters of a class are not followed by another one.
def Stops (member : α → Bool) (rest : List α) : Prop := ∀ char ∈ rest.head?, member char = false

theorem span_exact : text.takeWhile member = eaten ∧ text.dropWhile member = rest ↔
    text = eaten ++ rest ∧ (∀ char ∈ eaten, member char = true) ∧ Stops member rest := by
  constructor
  · rintro ⟨rfl,rfl⟩
    refine ⟨List.takeWhile_append_dropWhile.symm,fun char inside => List.mem_takeWhile_imp inside,?_⟩
    intro char first
    have stopped := List.head?_dropWhile_not member text
    rw [Option.mem_def.mp first] at stopped
    simpa using stopped
  · rintro ⟨rfl,held,stops⟩
    rw [List.takeWhile_append_of_pos held,List.dropWhile_append_of_pos held]
    cases rest with
    | nil => simp
    | cons char rest => simp [stops char rfl]

variable [DecidableEq α]

-- Where a bound is missing every round consumes a character.
def run : Pattern α γ → List α → Option (Match α γ)
  | .literal word => fun text => if word.isPrefixOf text then some ⟨word,[],text.drop word.length⟩ else none
  | .set member => fun text => match text with
    | [] => none
    | char :: rest => if member char then some ⟨[char],[],rest⟩ else none
  | .chars count => fun text => if count ≤ text.length then some ⟨text.take count,[],text.drop count⟩ else none
  | .ending => fun text => if text.isEmpty then some ⟨[],[],text⟩ else none
  | .sequence first second => fun text =>
    (run first text).bind fun one => (run second one.rest).map fun two => one.before two
  | .choice first second => fun text => (run first text).or (run second text)
  | .between least most body => fun text =>
    let found := repeated (run body) most.isNone (most.getD text.length) text
    if found.1 < least then none else some found.2
  | .to body => search (run body)
  | .capture value body => fun text =>
    (run body text).bind fun found => (value found.eaten).map fun captured =>
      { found with captures := found.captures ++ [captured] }

variable {p q : Pattern α γ} {word : List α} {m : Match α γ}

-- One equation for each form, so that no later proof unfolds the recursion.
theorem run_literal : run (.literal word : Pattern α γ) text =
    if word.isPrefixOf text then some ⟨word,[],text.drop word.length⟩ else none := rfl

@[simp] theorem set_nil : run (.set member : Pattern α γ) [] = none := rfl
@[simp] theorem set_cons : run (.set member : Pattern α γ) (char :: rest) =
    if member char then some ⟨[char],[],rest⟩ else none := rfl

theorem run_chars : run (.chars count : Pattern α γ) text =
    if count ≤ text.length then some ⟨text.take count,[],text.drop count⟩ else none := rfl

theorem run_ending : run (.ending : Pattern α γ) text = if text.isEmpty then some ⟨[],[],text⟩ else none := rfl

theorem run_sequence : run (.sequence p q) text =
    (run p text).bind fun one => (run q one.rest).map fun two => one.before two := rfl

theorem run_choice : run (.choice p q) text = (run p text).or (run q text) := rfl

theorem run_between : run (.between least most p) text =
    let found := repeated (run p) most.isNone (most.getD text.length) text
    if found.1 < least then none else some found.2 := rfl

theorem run_to : run (.to p) text = search (run p) text := rfl

theorem run_capture {value : List α → Option γ} : run (.capture value p) text =
    (run p text).bind fun found => (value found.eaten).map fun captured =>
      { found with captures := found.captures ++ [captured] } := rfl

theorem literal_exact : run (.literal word : Pattern α γ) text = some m ↔
    text = word ++ m.rest ∧ m.eaten = word ∧ m.captures = [] := by
  rw [run_literal]
  split
  · rename_i found
    obtain ⟨rest,rfl⟩ := List.isPrefixOf_iff_prefix.mp found
    obtain ⟨eaten,captures,left⟩ := m
    simp only [List.drop_left,Option.some.injEq,Match.mk.injEq,List.append_cancel_left_eq]
    constructor
    · rintro ⟨rfl,rfl,rfl⟩
      exact ⟨rfl,rfl,rfl⟩
    · rintro ⟨rfl,rfl,rfl⟩
      exact ⟨rfl,rfl,rfl⟩
  · rename_i missing
    refine iff_of_false (by simp) ?_
    rintro ⟨rfl,_⟩
    apply missing
    exact List.isPrefixOf_iff_prefix.mpr (List.prefix_append ..)

theorem ending_exact : run (.ending : Pattern α γ) text = some m ↔ text = [] ∧ m = ⟨[],[],[]⟩ := by
  cases text <;> simp [run_ending,eq_comm]

theorem sequence_exact : run (.sequence p q) text = some m ↔
    ∃ one two, run p text = some one ∧ run q one.rest = some two ∧ m = one.before two := by
  simp [run_sequence,Option.bind_eq_some_iff,eq_comm (a := m)]

theorem choice_exact : run (.choice p q) text = some m ↔
    run p text = some m ∨ run p text = none ∧ run q text = some m := by
  cases found : run p text <;> simp [run_choice,found]

theorem capture_exact {value : List α → Option γ} : run (.capture value p) text = some m ↔
    ∃ found captured, run p text = some found ∧ value found.eaten = some captured ∧
      m = { found with captures := found.captures ++ [captured] } := by
  simp [run_capture,Option.bind_eq_some_iff,eq_comm (a := m)]

theorem opt_run (p : Pattern α γ) (text : List α) : run p.opt text = some ((run p text).getD ⟨[],[],text⟩) := by
  cases found : run p text <;> simp [Pattern.opt,run_between,repeated,found,Match.before]

theorem chars_one : run (.chars 1 : Pattern α γ) = run (.set fun _ => true) := by
  funext text
  cases text <;> simp [run_chars]

theorem choice_set {other : α → Bool} : run (.choice (.set member) (.set other) : Pattern α γ) =
    run (.set fun char => member char || other char) := by
  funext text
  cases text with
  | nil => simp [run_choice]
  | cons char rest => cases held : member char <;> simp [run_choice,held]

theorem literal_set (char : α) : run (.literal [char] : Pattern α γ) =
    run (.set fun other => decide (char = other)) := by
  funext text
  cases text with
  | nil => simp [run_literal]
  | cons first rest => by_cases same : char = first <;> simp [run_literal,same,List.isPrefixOf]

theorem choice_congr {p' q' : Pattern α γ} (one : run p = run p') (two : run q = run q') :
    run (.choice p q) = run (.choice p' q') := by
  funext text
  simp only [run_choice,one,two]

theorem word_congr {value : List α → Option γ} (same : run p = run q) :
    run (.capture value p.some) = run (.capture value q.some) := by
  funext text
  simp only [Pattern.some,run_capture,run_between,same]

theorem literal_fails {word : List α} (other : ¬word <+: text) (q : Pattern α γ) :
    run (.sequence (.literal word) q) text = none := by
  have missing : word.isPrefixOf text = false := by
    rw [Bool.eq_false_iff]
    exact fun found => other (List.isPrefixOf_iff_prefix.mp found)
  simp [run_sequence,run_literal,missing]

theorem repeated_set (long : text.length ≤ fuel) : repeated (run (.set member : Pattern α γ)) true fuel text =
    ((text.takeWhile member).length,⟨text.takeWhile member,[],text.dropWhile member⟩) := by
  induction text generalizing fuel with
  | nil => cases fuel <;> simp [repeated]
  | cons char rest ih =>
      obtain ⟨fuel,rfl⟩ : ∃ less, fuel = less + 1 := ⟨fuel - 1,by simp at long; omega⟩
      have later := ih (Nat.le_of_succ_le_succ long)
      cases held : member char with
      | true => simp [repeated,held,later,Match.before]
      | false => simp [repeated,held]

theorem any_set_run : run (.any (.set member) : Pattern α γ) text =
    some ⟨text.takeWhile member,[],text.dropWhile member⟩ := by
  have all : repeated (run (.set member : Pattern α γ)) true text.length text = _ := repeated_set (Nat.le_refl _)
  rw [Pattern.any,run_between]
  simp [all]

theorem some_set_run : run (.some (.set member) : Pattern α γ) text =
    if text.takeWhile member = [] then none else some ⟨text.takeWhile member,[],text.dropWhile member⟩ := by
  have all : repeated (run (.set member : Pattern α γ)) true text.length text = _ := repeated_set (Nat.le_refl _)
  rw [Pattern.some,run_between]
  simp [all]

theorem any_set_exact : run (.any (.set member) : Pattern α γ) text = some m ↔ text = m.eaten ++ m.rest ∧
    (∀ char ∈ m.eaten, member char = true) ∧ Stops member m.rest ∧ m.captures = [] := by
  obtain ⟨eaten,captures,rest⟩ := m
  rw [any_set_run,Option.some.injEq,Match.mk.injEq,eq_comm (a := []),and_left_comm,span_exact]
  constructor
  · rintro ⟨none,whole,held,stops⟩
    exact ⟨whole,held,stops,none⟩
  · rintro ⟨whole,held,stops,none⟩
    exact ⟨none,whole,held,stops⟩

theorem some_set_exact : run (.some (.set member) : Pattern α γ) text = some m ↔ m.eaten ≠ [] ∧
    text = m.eaten ++ m.rest ∧ (∀ char ∈ m.eaten, member char = true) ∧ Stops member m.rest ∧ m.captures = [] := by
  rw [← any_set_exact,any_set_run,some_set_run]
  split
  · rename_i empty
    refine iff_of_false (by simp) ?_
    rintro ⟨eats,same⟩
    obtain rfl := Option.some.inj same
    exact eats empty
  · rename_i eats
    refine (and_iff_right_of_imp ?_).symm
    intro same
    obtain rfl := Option.some.inj same
    exact eats

-- The first place where the pattern matches is after what was passed over.
def Earliest (p : Pattern α γ) (eaten rest : List α) : Prop := (run p rest).isSome = true ∧
  ∀ front back, eaten = front ++ back → back ≠ [] → run p (back ++ rest) = none

theorem earliest_nil : Earliest p [] rest ↔ (run p rest).isSome = true := by
  refine ⟨And.left,fun matched => ⟨matched,?_⟩⟩
  intro front back none some
  exact absurd (List.append_eq_nil_iff.mp none.symm).2 some

theorem earliest_cons : Earliest p (char :: eaten) rest ↔
    run p (char :: eaten ++ rest) = none ∧ Earliest p eaten rest := by
  constructor
  · rintro ⟨matched,unmatched⟩
    refine ⟨unmatched [] (char :: eaten) rfl (by simp),matched,?_⟩
    intro front back split some
    exact unmatched (char :: front) back (congrArg (char :: ·) split) some
  · rintro ⟨first,matched,unmatched⟩
    refine ⟨matched,?_⟩
    intro front back split some
    cases front with
    | nil =>
        obtain rfl : char :: eaten = back := split
        exact first
    | cons _ front => exact unmatched front back (List.cons.inj split).2 some

theorem to_exact : run (.to p) text = some m ↔
    text = m.eaten ++ m.rest ∧ m.captures = [] ∧ Earliest p m.eaten m.rest := by
  rw [run_to]
  obtain ⟨eaten,captures,rest⟩ := m
  induction text generalizing eaten captures rest with
  | nil =>
      simp only [search,Option.map_eq_some_iff,Match.mk.injEq]
      constructor
      · rintro ⟨found,ran,rfl,rfl,rfl⟩
        exact ⟨rfl,rfl,earliest_nil.mpr (Option.isSome_of_eq_some ran)⟩
      · rintro ⟨none,rfl,ran,_⟩
        obtain ⟨rfl,rfl⟩ := List.append_eq_nil_iff.mp none.symm
        obtain ⟨found,ran⟩ := Option.isSome_iff_exists.mp ran
        exact ⟨found,ran,rfl,rfl,rfl⟩
  | cons char tail ih =>
      cases ran : run p (char :: tail) with
      | some found =>
          simp only [search,ran,Option.some.injEq,Match.mk.injEq]
          constructor
          · rintro ⟨rfl,rfl,rfl⟩
            exact ⟨rfl,rfl,earliest_nil.mpr (Option.isSome_of_eq_some ran)⟩
          · rintro ⟨whole,rfl,earliest⟩
            cases eaten with
            | nil => exact ⟨rfl,rfl,whole⟩
            | cons first more =>
                have failed := (earliest_cons.mp earliest).1
                rw [← whole,ran] at failed
                cases failed
      | none =>
          simp only [search,ran,Option.map_eq_some_iff,Match.mk.injEq]
          constructor
          · rintro ⟨⟨eaten,captures,rest⟩,found,rfl,rfl,rfl⟩
            obtain ⟨rfl,rfl,earliest⟩ := (ih _ _ _).mp found
            exact ⟨rfl,rfl,earliest_cons.mpr ⟨ran,earliest⟩⟩
          · rintro ⟨whole,rfl,earliest⟩
            cases eaten with
            | nil =>
                obtain rfl : char :: tail = rest := whole
                rw [earliest_nil,ran] at earliest
                cases earliest
            | cons first more =>
                obtain ⟨rfl,later⟩ := List.cons.inj whole
                exact ⟨⟨more,[],rest⟩,(ih _ _ _).mpr ⟨later,rfl,(earliest_cons.mp earliest).2⟩,rfl,rfl,rfl⟩

theorem to_found (whole : text = eaten ++ rest) (matched : (run p rest).isSome = true) :
    ∃ m, run (.to p) text = some m := by
  subst whole
  obtain ⟨found,ran⟩ := Option.isSome_iff_exists.mp matched
  rw [run_to]
  induction eaten with
  | nil => cases rest <;> simp [search,ran]
  | cons char more ih =>
      obtain ⟨later,searched⟩ := ih
      simp only [List.cons_append,search,searched]
      cases run p (char :: (more ++ rest)) <;> simp

-- What a pattern captures and leaves.
def Consumes (p : Pattern α γ) (text : List α) (captures : List γ) (rest : List α) : Prop :=
  ∃ eaten, run p text = some ⟨eaten,captures,rest⟩

variable {captures : List γ}

theorem consumes_literal : Consumes (.literal word : Pattern α γ) text captures rest ↔
    captures = [] ∧ text = word ++ rest := by
  simp [Consumes,literal_exact,and_comm]

theorem consumes_ending : Consumes (.ending : Pattern α γ) text captures rest ↔
    captures = [] ∧ text = [] ∧ rest = [] := by
  simp only [Consumes,ending_exact,Match.mk.injEq]
  constructor
  · rintro ⟨_,none,_,empty,last⟩
    exact ⟨empty,none,last⟩
  · rintro ⟨empty,none,last⟩
    exact ⟨[],none,rfl,empty,last⟩

theorem consumes_sequence : Consumes (.sequence p q) text captures rest ↔ ∃ one middle two,
    Consumes p text one middle ∧ Consumes q middle two rest ∧ captures = one ++ two := by
  simp only [Consumes,sequence_exact]
  constructor
  · rintro ⟨_,first,second,ran,later,same⟩
    obtain ⟨rfl,rfl,rfl⟩ := Match.mk.inj same
    exact ⟨_,_,_,⟨_,ran⟩,⟨_,later⟩,rfl⟩
  · rintro ⟨one,middle,two,⟨_,ran⟩,⟨_,later⟩,rfl⟩
    exact ⟨_,_,_,ran,later,rfl⟩

theorem consumes_choice : Consumes (.choice p q) text captures rest ↔
    Consumes p text captures rest ∨ run p text = none ∧ Consumes q text captures rest := by
  simp only [Consumes,choice_exact,exists_or,exists_and_left]

theorem consumes_opt : Consumes p.opt text captures rest ↔
    Consumes p text captures rest ∨ run p text = none ∧ captures = [] ∧ rest = text := by
  simp only [Consumes,opt_run,Option.some.injEq]
  cases ran : run p text with
  | some found => simp
  | none => simp [eq_comm]

theorem consumes_any : Consumes (.any (.set member) : Pattern α γ) text captures rest ↔
    captures = [] ∧ ∃ gap, text = gap ++ rest ∧ (∀ char ∈ gap, member char = true) ∧ Stops member rest := by
  simp only [Consumes,any_set_exact]
  constructor
  · rintro ⟨gap,whole,held,stops,none⟩
    exact ⟨none,gap,whole,held,stops⟩
  · rintro ⟨none,gap,whole,held,stops⟩
    exact ⟨gap,whole,held,stops,none⟩

theorem consumes_some : Consumes (.some (.set member) : Pattern α γ) text captures rest ↔ captures = [] ∧
    ∃ gap, gap ≠ [] ∧ text = gap ++ rest ∧ (∀ char ∈ gap, member char = true) ∧ Stops member rest := by
  simp only [Consumes,some_set_exact]
  constructor
  · rintro ⟨gap,some,whole,held,stops,none⟩
    exact ⟨none,gap,some,whole,held,stops⟩
  · rintro ⟨none,gap,some,whole,held,stops⟩
    exact ⟨gap,some,whole,held,stops,none⟩

theorem consumes_capture {value : List α → Option γ} : Consumes (.capture value p) text captures rest ↔
    ∃ eaten before captured, run p text = some ⟨eaten,before,rest⟩ ∧ value eaten = some captured ∧
      captures = before ++ [captured] := by
  simp only [Consumes,capture_exact]
  constructor
  · rintro ⟨_,found,captured,ran,valued,same⟩
    obtain ⟨_,rfl,rfl⟩ := Match.mk.inj same
    exact ⟨found.eaten,found.captures,captured,ran,valued,rfl⟩
  · rintro ⟨eaten,before,captured,ran,valued,rfl⟩
    exact ⟨eaten,_,captured,ran,valued,rfl⟩

-- A word of a class is captured as a whole.
theorem consumes_word {value : List α → Option γ} :
    Consumes (.capture value (.some (.set member))) text captures rest ↔ ∃ eaten captured, eaten ≠ [] ∧
      text = eaten ++ rest ∧ (∀ char ∈ eaten, member char = true) ∧ Stops member rest ∧
      value eaten = some captured ∧ captures = [captured] := by
  simp only [consumes_capture,some_set_exact]
  constructor
  · rintro ⟨eaten,_,captured,⟨some,whole,held,stops,rfl⟩,valued,same⟩
    exact ⟨eaten,captured,some,whole,held,stops,valued,same⟩
  · rintro ⟨eaten,captured,some,whole,held,stops,valued,same⟩
    exact ⟨eaten,[],captured,⟨some,whole,held,stops,rfl⟩,valued,same⟩

end Peg
