import Mathlib.Data.List.DropRight
import Mathlib.Data.List.Forall2
import Mathlib.Data.List.ReduceOption
import Janetland.Values
import Janetland.Keysyms.DefineLines
import Janetland.Keysyms.Reader

namespace Janetland.Keysyms
open Peg

-- file/lines: every line with the newline that ends it.
def fileLines : List UInt8 → List (List UInt8)
  | [] => []
  | c :: rest =>
    if c = newline then [c] :: fileLines rest
    else match fileLines rest with
      | [] => [[c]]
      | line :: more => (c :: line) :: more

-- string/trim
def inTrimSet (c : UInt8) : Bool := c ∈ ([32,9,13,10,11,12] : List UInt8)
def stringTrim (text : List UInt8) : List UInt8 := (text.dropWhile inTrimSet).rdropWhile inTrimSet

-- %d takes a 32-bit integer.
def formatInteger (value : Nat) : Res (List UInt8) :=
  if value ≤ 2147483647 then .ok (decimal value)
  else panicf "bad slot #%d, expected 32 bit signed integer, got %v" [janetInteger 2,janetInteger value]

def commentText : Option (List UInt8) → List UInt8
  | none => []
  | some comment => bytes "    # " ++ comment

-- "  :%s    (int/u64 %d)%s\n"
def bindingText (name digits comment : List UInt8) : List UInt8 :=
  bytes "  :" ++ (name ++ (bytes "    (int/u64 " ++ (digits ++ (bytes ")" ++ (comment ++ [newline])))))

-- The captures are a name, a number and maybe a comment.
def formatBinding : List Capture → Res (List UInt8)
  | [.text name,.number value] => do
    let digits ← formatInteger value
    return bindingText name digits (commentText none)
  | [.text name,.number value,.text comment] => do
    let digits ← formatInteger value
    return bindingText name digits (commentText (some comment))
  | _ => panicf "bad slot #%d, expected string|symbol|keyword|buffer, got %v" [janetInteger 1]

def bindingOf (line : List UInt8) : Res (List UInt8) := match run keysymDefinePeg (stringTrim line) with
  | none => .ok []
  | some matched => formatBinding matched.captures

def writeBindings : List (List UInt8) → Res (List UInt8)
  | [] => .ok []
  | line :: rest => do
    let binding ← bindingOf line
    let later ← writeBindings rest
    return binding ++ later

def tableStart : List UInt8 := bytes "(def xkb-key \x7b\n"
def tableEnd : List UInt8 := bytes "\x7d)\n"

-- The rule of keysym-table-file-path, from the contents of xkbcommon-keysyms.h to those of the table.
def keysymTable (header : List UInt8) : Res (List UInt8) := do
  let bindings ← writeBindings (fileLines header)
  return tableStart ++ (bindings ++ tableEnd)

-- What a line binds.
def Binds (line : List UInt8) (binding : Option (List UInt8 × Nat)) : Prop := ∀ name value,
  binding = some (name,value) ↔ ∃ hex, DefineLine (stringTrim line) name hex ∧ denoted 16 hex = value

-- The bindings are printed in order, each with a comment or without one.
inductive Printed : List (List UInt8 × Nat) → List UInt8 → Prop
  | nil : Printed [] []
  | cons (named : ∀ c ∈ name, isNameChar c = true) (single : ∀ text ∈ comment, newline ∉ text)
      (rest : Printed bindings text) : Printed ((name,value) :: bindings)
        (bindingText name (decimal value) (commentText comment) ++ text)

def valueForm (value : Nat) : Form := .tuple [.atom (.symbol (bytes "int/u64")),.atom (.number value)]

def pairForm : List UInt8 × Nat → Atom × Form := Prod.map .keyword valueForm

-- (def xkb-key ...)
def tableForm (pairs : List (Atom × Form)) : Form :=
  .tuple [.atom (.symbol (bytes "def")),.atom (.symbol (bytes "xkb-key")),.struct pairs]

-- What the struct of the table holds: under each name the value of its last binding.
structure TableHolds (bindings : List (List UInt8 × Nat)) (pairs : List (Atom × Form)) : Prop where
  single : (pairs.map Prod.fst).Nodup
  bound : ∀ pair ∈ pairs, ∃ binding, pair = pairForm binding
  last : ∀ name value, pairForm (name,value) ∈ pairs ↔ Overrides.Last bindings name value
  distinct : (bindings.map Prod.fst).Nodup → pairs = bindings.map pairForm

-- The parser within the struct.
def within (items : List Form) : Parser :=
  ⟨[⟨.curly,items⟩,⟨.paren,[.atom (.symbol (bytes "def")),.atom (.symbol (bytes "xkb-key"))]⟩],[],.root⟩

-- The parser within a call in the struct.
def calling (items form : List Form) : Parser := ⟨⟨.paren,form⟩ :: (within items).containers,[],.root⟩

section
variable {line rest name text : List UInt8} {comment : Option (List UInt8)}

theorem name_symbols (named : ∀ c ∈ name, isNameChar c = true) : ∀ c ∈ name, isSymbolChar c = true := by
  intro c inside
  have ranged : 95 = c ∨ (97 ≤ c.toNat ∧ c.toNat ≤ 122) ∨ (65 ≤ c.toNat ∧ c.toNat ≤ 90) ∨
      (48 ≤ c.toNat ∧ c.toNat ≤ 57) := by
    simpa [isNameChar,isWordChar,inRanges,UInt8.le_iff_toNat_le] using named c inside
  have looked : ∀ digit, digitLookup c = some digit → isSymbolChar c = true := by
    intro digit found
    simp [isSymbolChar,found]
  rcases ranged with rfl | lower | upper | decimal
  · decide
  · have other : ¬(48 ≤ c.toNat ∧ c.toNat ≤ 57) := by omega
    have small : ¬(65 ≤ c.toNat ∧ c.toNat ≤ 90) := by omega
    exact looked _ ((if_neg other).trans ((if_neg small).trans (if_pos lower)))
  · have other : ¬(48 ≤ c.toNat ∧ c.toNat ≤ 57) := by omega
    exact looked _ ((if_neg other).trans (if_pos upper))
  · exact looked _ (if_pos decimal)

theorem decimal_chars : ∀ digit < 10, isSymbolChar (UInt8.ofNat (48 + digit)) = true ∧
    (48 ≤ UInt8.ofNat (48 + digit) ∧ UInt8.ofNat (48 + digit) ≤ 57) := by
  decide

theorem decimal_first (value : Nat) : ∃ c rest, decimal value = c :: rest ∧ 48 ≤ c ∧ c ≤ 57 := by
  cases digits : decimal value with
  | nil => exact absurd digits (decimal_some value)
  | cons c rest =>
      have inside : c ∈ decimal value := by simp [digits]
      obtain ⟨digit,small,rfl⟩ := decimal_known inside
      exact ⟨_,rest,rfl,(decimal_chars digit small).2⟩

theorem decimal_word (value : Nat) : Word (decimal value) := by
  obtain ⟨c,rest,digits,_,small⟩ := decimal_first value
  refine ⟨decimal_some value,?_,?_⟩
  · rw [digits]
    intro first
    obtain rfl : c = 64 := by simpa using first
    exact absurd small (by decide)
  · intro c inside
    obtain ⟨digit,small,rfl⟩ := decimal_known inside
    exact (decimal_chars digit small).1

theorem token_decimal (value : Nat) : tokenValue (decimal value) = some (.number value) := by
  obtain ⟨c,rest,digits,large,small⟩ := decimal_first value
  have colon : (decimal value).head? ≠ some 58 := by
    rw [digits]
    intro first
    obtain rfl : c = 58 := by simpa using first
    exact absurd small (by decide)
  have digit : ((decimal value).head?.any fun c => decide (48 ≤ c ∧ c ≤ 57)) = true := by
    simp [digits,large,small]
  rw [tokenValue,if_neg colon,if_pos digit,scan_decimal]
  rfl

theorem feed_note (p : Parser) (atRoot : p.consumer = .root) (single : ∀ text ∈ comment, newline ∉ text) :
    feed p (commentText comment ++ newline :: rest) = feed p rest := by
  cases comment with
  | none =>
      have white : ∀ c ∈ [newline], isWhitespace c = true := List.all_eq_true.mp rfl
      exact feed_white white atRoot
  | some text =>
      have quiet : newline ∉ 32 :: text := by simpa [newline] using single text rfl
      change feed p (bytes "    " ++ (35 :: (32 :: text) ++ newline :: rest)) = _
      rw [feed_white (List.all_eq_true.mp rfl) atRoot,feed_comment quiet atRoot]

theorem feed_binding (named : ∀ c ∈ name, isNameChar c = true) (single : ∀ text ∈ comment, newline ∉ text) :
    feed (within items) (bindingText name (decimal value) (commentText comment) ++ rest) =
      feed (within (items ++ [.atom (.keyword name),valueForm value])) rest := by
  have keyword : Word (58 :: name) := by
    refine ⟨by simp,by simp,?_⟩
    intro c inside
    rcases List.mem_cons.mp inside with rfl | inside
    · decide
    · exact name_symbols named c inside
  have call : Word (bytes "int/u64") := ⟨by decide,by decide,List.all_eq_true.mp rfl⟩
  have gap : ∀ count, ∀ c ∈ List.replicate count (32 : UInt8), isWhitespace c = true := by
    intro count c inside
    rw [List.eq_of_mem_replicate inside]
    rfl
  calc feed (within items) (bindingText name (decimal value) (commentText comment) ++ rest)
    _ = feed (within items) (List.replicate 2 32 ++ (58 :: name ++ 32 :: (List.replicate 3 32 ++ (40 ::
          (bytes "int/u64" ++ 32 :: (decimal value ++ 41 :: (commentText comment ++ newline :: rest))))))) := by
      simp [bindingText,bytes]
    _ = feed (within (items ++ [.atom (.keyword name)])) (List.replicate 4 32 ++ (40 :: (bytes "int/u64" ++
          32 :: (decimal value ++ 41 :: (commentText comment ++ newline :: rest))))) := by
      rw [feed_white (gap 2) rfl,feed_token keyword (by decide) rfl rfl]
      rfl
    _ = feed (calling (items ++ [.atom (.keyword name)]) []) (bytes "int/u64" ++ 32 :: (decimal value ++
          41 :: (commentText comment ++ newline :: rest))) := by
      rw [feed_white (gap 4) rfl]
      exact feed_root rfl rfl
    _ = feed (calling (items ++ [.atom (.keyword name)]) [.atom (.symbol (bytes "int/u64"))]) (List.replicate 1 32 ++
          (decimal value ++ 41 :: (commentText comment ++ newline :: rest))) :=
      feed_token call (by decide) rfl rfl
    _ = feed (calling (items ++ [.atom (.keyword name)]) [.atom (.symbol (bytes "int/u64")),.atom (.number value)])
          (41 :: (commentText comment ++ newline :: rest)) := by
      rw [feed_white (gap 1) rfl,feed_token (decimal_word value) (by decide) (token_decimal value) rfl]
      rfl
    _ = feed (within (items ++ [.atom (.keyword name),valueForm value]))
          (commentText comment ++ newline :: rest) := by
      refine feed_root ?_ rfl
      simp [root,opening,closing,close,closeContainer,popstate,calling,within,valueForm]
    _ = feed (within (items ++ [.atom (.keyword name),valueForm value])) rest :=
      feed_note _ rfl single

def pairForms (bindings : List (List UInt8 × Nat)) : List Form :=
  bindings.flatMap fun binding => [.atom (.keyword binding.1),valueForm binding.2]

theorem pairUp_forms (bindings : List (List UInt8 × Nat)) :
    pairUp (pairForms bindings) = some (bindings.map pairForm) := by
  induction bindings with
  | nil => rfl
  | cons binding rest ih =>
      change (pairUp (pairForms rest)).map _ = _
      rw [ih]
      rfl

theorem feed_printed (printed : Printed bindings text) :
    feed (within items) (text ++ rest) = feed (within (items ++ pairForms bindings)) rest := by
  induction printed generalizing items with
  | nil => simp [pairForms]
  | @cons name comment bindings text value named single _ ih =>
      rw [List.append_assoc,feed_binding named single,ih]
      simp [pairForms]

theorem feed_start : feed ⟨[],[],.root⟩ (tableStart ++ rest) = feed (within []) rest := by
  have started : feed ⟨[],[],.root⟩ tableStart = some (within []) := by rfl
  rw [feed_append,started]
  rfl

-- Neither a name nor a value is nil.
theorem put_forms (bindings : List (List UInt8 × Nat)) :
    closeStruct (bindings.map pairForm) = .struct (Overrides.putAll (bindings.map pairForm)) := by
  have each (pairs : List (Atom × Form)) : (bindings.map pairForm).foldl janetStructPut pairs =
      (bindings.map pairForm).foldl (fun pairs pair => Overrides.put pairs pair.1 pair.2) pairs := by
    rw [List.foldl_map,List.foldl_map]
    rfl
  exact congrArg Form.struct (each [])

theorem putAll_holds (bindings : List (List UInt8 × Nat)) :
    TableHolds bindings (Overrides.putAll (bindings.map pairForm)) := by
  have injective : Function.Injective Atom.keyword := fun _ _ same => Atom.keyword.inj same
  have renamed : Overrides.putAll (bindings.map pairForm) = (Overrides.putAll bindings).map pairForm :=
    Overrides.putAll_map injective valueForm bindings
  refine ⟨Overrides.putAll_single _,?_,?_,?_⟩
  · intro pair inside
    rw [renamed] at inside
    obtain ⟨binding,_,rfl⟩ := List.mem_map.mp inside
    exact ⟨binding,rfl⟩
  · intro name value
    rw [renamed,← Overrides.mem_putAll]
    constructor
    · intro inside
      obtain ⟨⟨other,number⟩,listed,same⟩ := List.mem_map.mp inside
      obtain ⟨named,valued⟩ := Prod.mk.inj same
      cases named
      cases valued
      exact listed
    · exact List.mem_map_of_mem
  · intro distinct
    rw [renamed,Overrides.putAll_distinct distinct]

theorem read_table (printed : Printed bindings text) :
    readAll (tableStart ++ (text ++ tableEnd)) = some [tableForm (Overrides.putAll (bindings.map pairForm))] := by
  have closed : root (within (pairForms bindings)) 125 = some ⟨[⟨.paren,[.atom (.symbol (bytes "def")),
      .atom (.symbol (bytes "xkb-key")),.struct (Overrides.putAll (bindings.map pairForm))]⟩],[],.root⟩ := by
    simp [root,opening,closing,close,closeContainer,within,pairUp_forms,put_forms,popstate]
  have rejoined : tableStart ++ (text ++ tableEnd) ++ [newline] = tableStart ++ (text ++ 125 :: [41,10,10]) := by
    simp [tableEnd,bytes,newline]
  rw [readAll,rejoined,feed_start,feed_printed printed,List.nil_append,feed_root closed rfl]
  rfl

theorem fileLines_ended (plain : newline ∉ line) :
    fileLines (line ++ newline :: rest) = (line ++ [newline]) :: fileLines rest := by
  induction line with
  | nil => simp [fileLines]
  | cons c line ih =>
      simp only [List.mem_cons,not_or] at plain
      simp [fileLines,Ne.symm plain.1,ih plain.2]

theorem fileLines_last (plain : newline ∉ line) (some : line ≠ []) : fileLines line = [line] := by
  induction line with
  | nil => exact absurd rfl some
  | cons c line ih =>
      simp only [List.mem_cons,not_or] at plain
      by_cases last : line = []
      · simp [fileLines,last,Ne.symm plain.1]
      · simp [fileLines,Ne.symm plain.1,ih plain.2 last]

theorem trim_newline (line : List UInt8) : stringTrim (line ++ [newline]) = stringTrim line := by
  unfold stringTrim
  rw [List.dropWhile_append]
  split
  · rename_i empty
    rw [List.isEmpty_iff.mp empty]
    rfl
  · rw [List.rdropWhile_concat_pos _ _ _ (by decide)]

theorem trim_subset : stringTrim line ⊆ line :=
  fun _ inside => (List.dropWhile_suffix _).subset ((List.rdropWhile_prefix _ _).subset inside)

theorem trim_stops (clean : 0 ∉ line) : Stops isSpace (stringTrim line) := by
  intro c first
  have inside : c ∈ line := trim_subset (List.mem_of_mem_head? first)
  obtain ⟨trailing,whole⟩ := List.rdropWhile_prefix inTrimSet (line.dropWhile inTrimSet)
  have head : c ∈ (line.dropWhile inTrimSet).head? := by
    rw [← whole,List.head?_append]
    change (stringTrim line).head?.or trailing.head? = some c
    rw [Option.mem_def.mp first]
    rfl
  have kept : inTrimSet c = false := (span_exact.mp ⟨rfl,rfl⟩).2.2 c head
  have other : c ≠ 0 := fun same => clean (same ▸ inside)
  simp only [inTrimSet,isSpace,List.mem_cons,List.not_mem_nil,decide_eq_false_iff_not,not_or] at kept ⊢
  obtain ⟨space,tab,carriage,line,vertical,form,_⟩ := kept
  exact ⟨space,tab,carriage,line,other,form,vertical,id⟩

theorem bindingOf_newline (line : List UInt8) : bindingOf (line ++ [newline]) = bindingOf line := by
  unfold bindingOf
  rw [trim_newline]

-- A line is read with the newline that ends it, if there is one.
theorem write_ended (plain : ∀ line ∈ lines, newline ∉ line) :
    writeBindings (fileLines (lines.flatMap (· ++ [newline]))) = writeBindings lines := by
  induction lines with
  | nil => rfl
  | cons line rest ih =>
      have later := ih fun line member => plain line (.tail _ member)
      rw [List.flatMap_cons,List.append_assoc,List.singleton_append,
        fileLines_ended (plain line List.mem_cons_self)]
      simp only [writeBindings,bindingOf_newline,later]

theorem write_joined (plain : ∀ line ∈ lines, newline ∉ line) :
    writeBindings (fileLines ([newline].intercalate lines)) = writeBindings lines := by
  induction lines with
  | nil => rfl
  | cons line rest ih =>
      have single := plain line List.mem_cons_self
      have later := ih fun line member => plain line (.tail _ member)
      cases rest with
      | nil =>
          by_cases empty : line = []
          · subst empty
            rfl
          · simp [fileLines_last single empty]
      | cons next rest =>
          rw [List.intercalate_cons_cons,List.append_assoc,List.singleton_append,fileLines_ended single]
          simp only [writeBindings,bindingOf_newline,later]

theorem formatted (name : List UInt8) (small : value < 2 ^ 31)
    (kept : extra = [] ∨ ∃ word, extra = [.text word] ∧ newline ∉ word) :
    ∃ comment, formatBinding (.text name :: .number value :: extra) =
      .ok (bindingText name (decimal value) (commentText comment)) ∧ ∀ text ∈ comment, newline ∉ text := by
  have printed : formatInteger value = .ok (decimal value) := if_pos (by omega)
  rcases kept with rfl | ⟨word,rfl,quiet⟩
  · refine ⟨none,?_,by simp⟩
    rw [formatBinding,printed]
    rfl
  · refine ⟨some word,?_,by simpa using quiet⟩
    rw [formatBinding,printed]
    rfl

-- A line adds the text of its binding, or none.
theorem line_written (clean : newline ∉ line ∧ 0 ∉ line)
    (small : ∀ name hex, DefineLine (stringTrim line) name hex → denoted 16 hex < 2 ^ 31) :
    Binds line none ∧ bindingOf line = .ok [] ∨ ∃ name value comment, Binds line (some (name,value)) ∧
      (∀ c ∈ name, isNameChar c = true) ∧ (∀ text ∈ comment, newline ∉ text) ∧
      bindingOf line = .ok (bindingText name (decimal value) (commentText comment)) := by
  cases ran : run keysymDefinePeg (stringTrim line) with
  | none =>
      refine .inl ⟨?_,by rw [bindingOf,ran]⟩
      intro name value
      refine iff_of_false (by simp) ?_
      rintro ⟨hex,defined,_⟩
      obtain ⟨_,_,matched⟩ := peg_complete defined
      rw [ran] at matched
      simp at matched
  | some matched =>
      have found : Consumes keysymDefinePeg (stringTrim line) matched.captures matched.rest := ⟨matched.eaten,ran⟩
      obtain ⟨name,hex,extra,defined,captured,kept⟩ := peg_sound (trim_stops clean.2) found
      have quiet : extra = [] ∨ ∃ word, extra = [.text word] ∧ newline ∉ word := by
        rcases kept with none | ⟨word,same,inside⟩
        · exact .inl none
        · exact .inr ⟨word,same,fun member => clean.1 (trim_subset (inside member))⟩
      obtain ⟨comment,written,single⟩ := formatted name (small name hex defined) quiet
      refine .inr ⟨name,denoted 16 hex,comment,?_,defined.named,single,?_⟩
      · intro other value
        constructor
        · intro same
          obtain ⟨rfl,rfl⟩ := Prod.mk.inj (Option.some.inj same)
          exact ⟨hex,defined,rfl⟩
        · rintro ⟨digits,again,rfl⟩
          obtain ⟨_,_,another⟩ := peg_complete again
          obtain rfl := Option.some.inj (ran.symm.trans another)
          have same := captured.symm
          simp only [List.cons.injEq,Capture.text.injEq,Capture.number.injEq] at same
          rw [same.1,same.2.1]
      · rw [bindingOf,ran]
        change formatBinding matched.captures = _
        rw [captured,written]

theorem lines_written (clean : ∀ line ∈ lines, newline ∉ line ∧ 0 ∉ line)
    (small : ∀ line ∈ lines, ∀ name hex, DefineLine (stringTrim line) name hex → denoted 16 hex < 2 ^ 31) :
    ∃ bindings text, List.Forall₂ Binds lines bindings ∧ writeBindings lines = .ok text ∧
      Printed bindings.reduceOption text := by
  induction lines with
  | nil => exact ⟨[],[],.nil,rfl,.nil⟩
  | cons line rest ih =>
      obtain ⟨bindings,text,bound,written,printed⟩ := ih (fun line member => clean line (.tail _ member))
        fun line member => small line (.tail _ member)
      rcases line_written (clean line List.mem_cons_self) (small line List.mem_cons_self) with
        ⟨unbound,skipped⟩ | ⟨name,value,comment,binds,named,single,added⟩
      · refine ⟨none :: bindings,text,.cons unbound bound,?_,by simpa using printed⟩
        rw [writeBindings,skipped,written]
        rfl
      · refine ⟨some (name,value) :: bindings,bindingText name (decimal value) (commentText comment) ++ text,
          .cons binds bound,?_,?_⟩
        · rw [writeBindings,added,written]
          rfl
        · simpa using Printed.cons named single printed

-- The table of a header of lines, the last one ended or not.
theorem keysym_table_exact (clean : ∀ line ∈ lines, newline ∉ line ∧ 0 ∉ line)
    (small : ∀ line ∈ lines, ∀ name hex, DefineLine (stringTrim line) name hex → denoted 16 hex < 2 ^ 31)
    (stored : header = lines.flatMap (· ++ [newline]) ∨ header = [newline].intercalate lines) :
    ∃ bindings text pairs, List.Forall₂ Binds lines bindings ∧ Printed bindings.reduceOption text ∧
      keysymTable header = .ok (tableStart ++ (text ++ tableEnd)) ∧
      readAll (tableStart ++ (text ++ tableEnd)) = some [tableForm pairs] ∧
      TableHolds bindings.reduceOption pairs := by
  obtain ⟨bindings,text,bound,written,printed⟩ := lines_written clean small
  refine ⟨bindings,text,_,bound,printed,?_,read_table printed,putAll_holds _⟩
  have plain : ∀ line ∈ lines, newline ∉ line := fun line member => (clean line member).1
  have same : writeBindings (fileLines header) = writeBindings lines := by
    rcases stored with rfl | rfl
    · exact write_ended plain
    · exact write_joined plain
  rw [keysymTable,same,written]
  rfl

end

-- The number that a line yields.
def valueOf (line : List UInt8) : Option Nat := match run keysymDefinePeg (stringTrim line) with
  | some ⟨_,.text _ :: .number value :: _,_⟩ => some value
  | _ => none

theorem valueOf_defined (defined : DefineLine (stringTrim line) name hex) :
    valueOf line = some (denoted 16 hex) := by
  obtain ⟨_,_,matched⟩ := peg_complete defined
  rw [valueOf,matched]

theorem small_values {lines : List (List UInt8)} (below : ∀ line ∈ lines, ∀ value ∈ valueOf line, value < 2 ^ 31) :
    ∀ line ∈ lines, ∀ name hex, DefineLine (stringTrim line) name hex → denoted 16 hex < 2 ^ 31 :=
  fun line member _ _ defined => below line member _ (valueOf_defined defined)

def sampleLines : List (List UInt8) :=
  [bytes "#define XKB_KEY_a 0x0061 /* U+0061 */",bytes "int x;",bytes " #define XKB_KEY_0 0x30 // )#"]

theorem keysym_table_exact_sample : ∃ bindings text pairs, List.Forall₂ Binds sampleLines bindings ∧
    Printed bindings.reduceOption text ∧
    keysymTable ([newline].intercalate sampleLines) = .ok (tableStart ++ (text ++ tableEnd)) ∧
    readAll (tableStart ++ (text ++ tableEnd)) = some [tableForm pairs] ∧
    TableHolds bindings.reduceOption pairs :=
  keysym_table_exact (by decide +kernel) (small_values (by decide +kernel)) (.inr rfl)

-- A table that is read back as the lines have it: exactly their bindings, in any order.
def ReadInFull : Prop := ∀ lines header, (∀ line ∈ lines, newline ∉ line ∧ 0 ∉ line) →
  (∀ line ∈ lines, ∀ name hex, DefineLine (stringTrim line) name hex → denoted 16 hex < 2 ^ 31) →
    header = lines.flatMap (· ++ [newline]) ∨ header = [newline].intercalate lines →
      ∃ bindings text pairs, List.Forall₂ Binds lines bindings ∧ Printed bindings.reduceOption text ∧
        keysymTable header = .ok (tableStart ++ (text ++ tableEnd)) ∧
        readAll (tableStart ++ (text ++ tableEnd)) = some [tableForm pairs] ∧
        ∀ name value, pairForm (name,value) ∈ pairs ↔ (name,value) ∈ bindings.reduceOption

def doubledLines : List (List UInt8) := [bytes "#define XKB_KEY_a 0x1",bytes "#define XKB_KEY_a 0x2"]

theorem doubled_binds (digit : UInt8) (trimmed : stringTrim line = bytes "#define" ++ ([32] ++ (bytes "XKB_KEY_" ++
      (bytes "a" ++ ([32] ++ (bytes "0x" ++ ([digit] ++ ([] ++ [])))))))) (hexadecimal : isHexDigit digit = true)
    (binds : Binds line binding) : binding = some (bytes "a",denoted 16 [digit]) := by
  have spaced : ([32] : List UInt8) ≠ [] ∧ Spaces [32] := ⟨by decide,by unfold Spaces; decide +kernel⟩
  refine (binds _ _).mpr ⟨[digit],?_,rfl⟩
  rw [trimmed]
  exact .intro spaced (by decide +kernel) spaced ⟨by simp,by simpa using hexadecimal⟩ (by unfold Spaces; decide +kernel) .absent

-- The struct has one value for a name that the header defines twice.
theorem doubled_name_overridden : ¬ReadInFull := by
  intro full
  obtain ⟨bindings,text,pairs,bound,printed,_,read,complete⟩ := full doubledLines _ (by decide +kernel)
    (small_values (by decide +kernel)) (.inl rfl)
  obtain ⟨first,others,one,later,rfl⟩ := List.forall₂_cons_left_iff.mp bound
  obtain ⟨second,none,two,last,rfl⟩ := List.forall₂_cons_left_iff.mp later
  obtain rfl := List.forall₂_nil_left_iff.mp last
  obtain rfl := doubled_binds 49 (by decide +kernel) (by decide) one
  obtain rfl := doubled_binds 50 (by decide +kernel) (by decide) two
  rw [read_table printed,tableForm,tableForm] at read
  simp only [Option.some.injEq,List.cons.injEq,Form.tuple.injEq,Form.struct.injEq,and_true,true_and] at read
  subst read
  have kept := (complete (bytes "a") 1).mpr (by decide +kernel)
  have last := Overrides.mem_putAll.mpr (((putAll_holds _).last _ _).mp kept)
  revert last
  decide +kernel

end Janetland.Keysyms
