import Janetland.Foundations.Overrides
import Janetland.Keysyms.Numerals

namespace Janetland.Keysyms

inductive Atom where
  | nil
  | boolean (value : Bool)
  | number (value : Nat)
  | symbol (name : List UInt8)
  | keyword (name : List UInt8)
deriving DecidableEq

-- What the reader of Janet makes of a source. The pairs of a struct have no order.
inductive Form where
  | atom (value : Atom)
  | tuple (items : List Form)
  | struct (pairs : List (Atom × Form))

inductive Bracket where
  | paren | curly
deriving DecidableEq

structure Container where
  bracket : Bracket
  items : List Form

inductive Consumer where
  | root
  | tokenchar (buf : List UInt8)
  | comment

-- struct JanetParser: the open containers from the innermost on, and the finished forms.
structure Parser where
  containers : List Container
  done : List Form
  consumer : Consumer

def newline : UInt8 := 10
def isWhitespace (c : UInt8) : Bool := c ∈ ([32,9,10,13,0,11,12] : List UInt8)

-- `is_symbol_char_gen`
def isSymbolChar (c : UInt8) : Bool :=
  (digitLookup c).isSome || c ∈ bytes "!$%&*+-./:<=>?@^_" || decide (128 ≤ c)

def popstate (p : Parser) (value : Form) : Parser := match p.containers with
  | [] => { p with done := p.done ++ [value], consumer := .root }
  | container :: outer =>
    { p with containers := { container with items := container.items ++ [value] } :: outer, consumer := .root }

-- An odd number of items is an error; keys in brackets are left out.
def pairUp : List Form → Option (List (Atom × Form))
  | [] => some []
  | .atom key :: value :: rest => (pairUp rest).map ((key,value) :: ·)
  | _ => none

-- Nil is neither a key nor a value, and a key that is put again takes the new value.
def janetStructPut (pairs : List (Atom × Form)) (pair : Atom × Form) : List (Atom × Form) := match pair with
  | (.nil,_) => pairs
  | (_,.atom .nil) => pairs
  | (key,value) => Overrides.put pairs key value

def closeStruct (pairs : List (Atom × Form)) : Form := .struct (pairs.foldl janetStructPut [])

def closeContainer : Bracket → List Form → Option Form
  | .paren,items => some (.tuple items)
  | .curly,items => (pairUp items).map closeStruct

def opening (c : UInt8) : Option Bracket := if c = 40 then some .paren else if c = 123 then some .curly else none
def closing (c : UInt8) : Option Bracket := if c = 41 then some .paren else if c = 125 then some .curly else none

def close (p : Parser) (bracket : Bracket) : Option Parser := match p.containers with
  | [] => none
  | container :: outer =>
    if container.bracket = bracket then
      (closeContainer bracket container.items).map (popstate { p with containers := outer })
    else none

-- Forms of other kinds are left out: strings, brackets, and what starts with @ or a quote.
def root (p : Parser) (c : UInt8) : Option Parser :=
  if c = 35 then some { p with consumer := .comment }
  else match opening c,closing c with
    | some bracket,_ => some { p with containers := ⟨bracket,[]⟩ :: p.containers }
    | none,some bracket => close p bracket
    | none,none =>
      if isWhitespace c then some p
      else if isSymbolChar c ∧ c ≠ 64 then some { p with consumer := .tokenchar [c] }
      else none

-- Numbers with a sign or a point are left out too.
def tokenValue (buf : List UInt8) : Option Atom :=
  if buf.head? = some 58 then some (.keyword buf.tail)
  else if buf.head?.any fun c => decide (48 ≤ c ∧ c ≤ 57) then (janetScanNumber buf).map .number
  else if buf.head?.any fun c => decide (c ∈ bytes "+-.") then none
  else if buf = bytes "nil" then some .nil
  else if buf = bytes "true" then some (.boolean true)
  else if buf = bytes "false" then some (.boolean false)
  else some (.symbol buf)

-- `janet_parser_consume`
def consume (p : Parser) (c : UInt8) : Option Parser := match p.consumer with
  | .root => root p c
  | .comment => some (if c = newline then { p with consumer := .root } else p)
  | .tokenchar buf =>
    if isSymbolChar c then some { p with consumer := .tokenchar (buf ++ [c]) }
    else (tokenValue buf).bind fun value => root (popstate p (.atom value)) c

def feed (p : Parser) (text : List UInt8) : Option Parser := text.foldlM consume p

def finished (p : Parser) : Option (List Form) := match p.containers,p.consumer with
  | [],.root => some p.done
  | _,_ => none

-- At the end of the source the parser is fed one more newline.
def readAll (text : List UInt8) : Option (List Form) := (feed ⟨[],[],.root⟩ (text ++ [newline])).bind finished

-- The characters of a token.
def Word (text : List UInt8) : Prop := text ≠ [] ∧ text.head? ≠ some 64 ∧ ∀ c ∈ text, isSymbolChar c = true

section
variable {p : Parser} {word rest gap text : List UInt8} {value : Atom}

theorem feed_cons : feed p (c :: rest) = (consume p c).bind fun next => feed next rest := rfl

theorem feed_append : feed p (text ++ rest) = (feed p text).bind fun next => feed next rest := List.foldlM_append

theorem feed_root (next : root p c = some after) (atRoot : p.consumer = .root) :
    feed p (c :: rest) = feed after rest := by
  rw [feed_cons,consume,atRoot,next]
  rfl

theorem whitespace_known (white : isWhitespace c = true) :
    c = 32 ∨ c = 9 ∨ c = 10 ∨ c = 13 ∨ c = 0 ∨ c = 11 ∨ c = 12 := by
  simpa [isWhitespace] using white

theorem whitespace_ends (white : isWhitespace c = true) : isSymbolChar c = false := by
  rcases whitespace_known white with rfl | rfl | rfl | rfl | rfl | rfl | rfl <;> decide

theorem root_whitespace (white : isWhitespace c = true) : root p c = some p := by
  rcases whitespace_known white with rfl | rfl | rfl | rfl | rfl | rfl | rfl <;> rfl

theorem feed_white (white : ∀ c ∈ gap, isWhitespace c = true) (atRoot : p.consumer = .root) :
    feed p (gap ++ rest) = feed p rest := by
  induction gap with
  | nil => rfl
  | cons c gap ih =>
      rw [List.cons_append,feed_root (root_whitespace (white c List.mem_cons_self)) atRoot]
      exact ih fun c member => white c (.tail _ member)

theorem feed_commented (line : newline ∉ text) : feed { p with consumer := .comment } (text ++ newline :: rest) =
    feed { p with consumer := .root } rest := by
  induction text with
  | nil => rfl
  | cons c text ih =>
      simp only [List.mem_cons,not_or] at line
      rw [List.cons_append,feed_cons,consume,if_neg (Ne.symm line.1)]
      exact ih line.2

theorem feed_comment (line : newline ∉ text) (atRoot : p.consumer = .root) :
    feed p (35 :: text ++ newline :: rest) = feed p rest := by
  obtain ⟨containers,done,consumer⟩ := p
  obtain rfl : consumer = .root := atRoot
  have opened : root ⟨containers,done,.root⟩ 35 = some ⟨containers,done,.comment⟩ := rfl
  rw [List.cons_append,feed_root opened rfl]
  exact feed_commented (p := ⟨containers,done,.comment⟩) line

theorem root_word (symbol : isSymbolChar c = true) (starts : c ≠ 64) :
    root p c = some { p with consumer := .tokenchar [c] } := by
  have apart : ∀ d, isSymbolChar d = false → c ≠ d := by
    intro d ends same
    rw [← same,symbol] at ends
    simp at ends
  have dark : isWhitespace c = false := by
    rw [Bool.eq_false_iff]
    intro white
    rw [whitespace_ends white] at symbol
    simp at symbol
  simp [root,opening,closing,apart 35 (by decide),apart 40 (by decide),apart 41 (by decide),apart 123 (by decide),
    apart 125 (by decide),dark,symbol,starts]

theorem feed_tokenchar (buf : List UInt8) (symbols : ∀ c ∈ word, isSymbolChar c = true)
    (ends : isSymbolChar d = false) (read : tokenValue (buf ++ word) = some value) :
    feed { p with consumer := .tokenchar buf } (word ++ d :: rest) = feed (popstate p (.atom value)) (d :: rest) := by
  induction word generalizing buf with
  | nil =>
      have popped : (popstate p (.atom value)).consumer = .root := by
        unfold popstate
        split <;> rfl
      rw [List.append_nil] at read
      have same : popstate { p with consumer := .tokenchar buf } (.atom value) = popstate p (.atom value) := by
        unfold popstate
        rfl
      rw [List.nil_append,feed_cons,feed_cons,consume,consume,popped]
      simp [ends,read,same]
  | cons c word ih =>
      have later := ih (buf ++ [c]) (fun c member => symbols c (.tail _ member)) (by simpa using read)
      rw [List.cons_append,feed_cons,consume]
      simp only [symbols c List.mem_cons_self,if_true,Option.bind_some]
      exact later

theorem feed_token (token : Word word) (ends : isSymbolChar d = false) (read : tokenValue word = some value)
    (atRoot : p.consumer = .root) : feed p (word ++ d :: rest) = feed (popstate p (.atom value)) (d :: rest) := by
  obtain ⟨some,starts,symbols⟩ := token
  cases word with
  | nil => exact absurd rfl some
  | cons c word =>
      have first : c ≠ 64 := by simpa using starts
      rw [List.cons_append,feed_root (root_word (symbols c List.mem_cons_self) first) atRoot]
      exact feed_tokenchar [c] (fun c member => symbols c (.tail _ member)) ends read

end

end Janetland.Keysyms
