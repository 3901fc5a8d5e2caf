import Janetland.Foundations.Peg
import Janetland.Keysyms.Numerals

namespace Janetland.Keysyms
open Peg

inductive Capture where
  | text (bytes : List UInt8)
  | number (value : Nat)

-- :s, :w and :h of the default grammar
def isSpace (c : UInt8) : Bool := c ∈ ([32,9,13,10,0,12,11] : List UInt8)
def inRanges (ranges : List (UInt8 × UInt8)) (c : UInt8) : Bool :=
  ranges.any fun range => decide (range.1 ≤ c) && decide (c ≤ range.2)
def isWordChar : UInt8 → Bool := inRanges [(97,122),(65,90),(48,57)]
def isHexDigit : UInt8 → Bool := inRanges [(48,57),(97,102),(65,70)]

namespace KeysymDefine

abbrev Rule := Pattern UInt8 Capture

def spaces : Rule := .any (.set isSpace)
def someSpaces : Rule := .some (.set isSpace)
def text (body : Rule) : Rule := .capture (fun eaten => some (.text eaten)) body
def number (body : Rule) : Rule := .capture (fun eaten => (janetScanNumber eaten).map .number) body

def define : Rule := .sequence spaces (.sequence (.literal (bytes "#define")) someSpaces)
def name : Rule := .sequence (.literal (bytes "XKB_KEY_"))
  (.sequence (text (.some (.choice (.literal (bytes "_")) (.set isWordChar)))) someSpaces)
def value : Rule := .sequence (number (.sequence (.literal (bytes "0x")) (.some (.set isHexDigit)))) spaces
def mlCommentBegin : Rule := .sequence (.literal (bytes "/*")) spaces
def mlCommentEnd : Rule := .sequence spaces (.literal (bytes "*/"))
def comment : Rule := .choice
  (.sequence (.literal (bytes "//")) (.sequence spaces (text (.some (.chars 1)))))
  (.sequence mlCommentBegin (.sequence (text (.to mlCommentEnd)) mlCommentEnd))

end KeysymDefine

open KeysymDefine in
def keysymDefinePeg : Rule :=
  .sequence define (.sequence name (.sequence value (.sequence (.opt comment) .ending)))

-- The lines that are meant. A NUL counts as space, too.
def Spaces (gap : List UInt8) : Prop := ∀ c ∈ gap, isSpace c = true
def isNameChar (c : UInt8) : Bool := decide (95 = c) || isWordChar c

inductive Comment : List UInt8 → Prop
  | absent : Comment []
  | line (visible : ∃ c ∈ text, isSpace c = false) : Comment (bytes "//" ++ text)
  | block (within : ¬bytes "*/" <:+: text) : Comment (bytes "/*" ++ (text ++ bytes "*/"))

inductive DefineLine : List UInt8 → List UInt8 → List UInt8 → Prop
  | intro (before : gap ≠ [] ∧ Spaces gap) (named : name ≠ [] ∧ ∀ c ∈ name, isNameChar c = true)
      (between : middle ≠ [] ∧ Spaces middle) (valued : hex ≠ [] ∧ ∀ c ∈ hex, isHexDigit c = true)
      (after : Spaces last) (commented : Comment comment) :
      DefineLine (bytes "#define" ++ (gap ++ (bytes "XKB_KEY_" ++ (name ++ (middle ++
        (bytes "0x" ++ (hex ++ (last ++ comment)))))))) name hex

namespace KeysymDefine

section
variable {line rest front back : List UInt8} {captures : List Capture} {member : UInt8 → Bool}

theorem stops_cons (apart : member c = false) : Stops member (c :: rest) := by
  intro char first
  obtain rfl : c = char := by simpa using first
  exact apart

theorem stops_before (some : front ≠ []) (apart : ∀ c ∈ front, member c = false) :
    Stops member (front ++ rest) := by
  cases front with
  | nil => exact absurd rfl some
  | cons c front => exact stops_cons (apart c List.mem_cons_self)

theorem consumes_spaces : Consumes spaces line captures rest ↔
    captures = [] ∧ ∃ gap, line = gap ++ rest ∧ Spaces gap ∧ Stops isSpace rest := consumes_any

theorem consumes_someSpaces : Consumes someSpaces line captures rest ↔
    captures = [] ∧ ∃ gap, gap ≠ [] ∧ line = gap ++ rest ∧ Spaces gap ∧ Stops isSpace rest := consumes_some

theorem define_exact : Consumes define line captures rest ↔ captures = [] ∧ ∃ lead gap, Spaces lead ∧
    gap ≠ [] ∧ Spaces gap ∧ Stops isSpace rest ∧ line = lead ++ (bytes "#define" ++ (gap ++ rest)) := by
  simp only [define,consumes_sequence,consumes_spaces,consumes_literal,consumes_someSpaces]
  constructor
  · rintro ⟨_,_,_,⟨rfl,lead,rfl,led,_⟩,⟨_,_,_,⟨rfl,rfl⟩,⟨rfl,gap,some,rfl,held,stops⟩,rfl⟩,rfl⟩
    exact ⟨rfl,lead,gap,led,some,held,stops,rfl⟩
  · rintro ⟨rfl,lead,gap,led,some,held,stops,rfl⟩
    exact ⟨_,_,_,⟨rfl,lead,rfl,led,stops_cons (by decide)⟩,⟨_,_,_,⟨rfl,rfl⟩,⟨rfl,gap,some,rfl,held,stops⟩,rfl⟩,rfl⟩

theorem nameChar_run : run (.choice (.literal (bytes "_")) (.set isWordChar) : Rule) = run (.set isNameChar) := by
  have underscore : run (.literal (bytes "_") : Rule) = run (.set fun other => decide (95 = other)) :=
    literal_set 95
  exact (choice_congr underscore rfl).trans choice_set

theorem word_exact : Consumes (text (.some (.choice (.literal (bytes "_")) (.set isWordChar)))) line captures rest ↔
    ∃ word, word ≠ [] ∧ line = word ++ rest ∧ (∀ c ∈ word, isNameChar c = true) ∧ Stops isNameChar rest ∧
      captures = [.text word] := by
  unfold Consumes text
  rw [word_congr nameChar_run]
  change Consumes _ _ _ _ ↔ _
  rw [consumes_word]
  simp

theorem space_apart (space : isSpace c = true) : isNameChar c = false ∧ isHexDigit c = false := by
  have known : c = 32 ∨ c = 9 ∨ c = 13 ∨ c = 10 ∨ c = 0 ∨ c = 12 ∨ c = 11 := by simpa [isSpace] using space
  rcases known with rfl | rfl | rfl | rfl | rfl | rfl | rfl <;> decide

theorem name_exact : Consumes name line captures rest ↔ ∃ word gap, word ≠ [] ∧
    (∀ c ∈ word, isNameChar c = true) ∧ gap ≠ [] ∧ Spaces gap ∧ Stops isSpace rest ∧
    line = bytes "XKB_KEY_" ++ (word ++ (gap ++ rest)) ∧ captures = [.text word] := by
  simp only [name,consumes_sequence,consumes_literal,word_exact,consumes_someSpaces]
  constructor
  · rintro ⟨_,_,_,⟨rfl,rfl⟩,⟨_,_,_,⟨word,named,rfl,chars,_,rfl⟩,⟨rfl,gap,some,rfl,held,stops⟩,rfl⟩,rfl⟩
    exact ⟨word,gap,named,chars,some,held,stops,rfl,rfl⟩
  · rintro ⟨word,gap,named,chars,some,held,stops,rfl,rfl⟩
    have ends : Stops isNameChar (gap ++ rest) :=
      stops_before some fun c inside => (space_apart (held c inside)).1
    exact ⟨_,_,_,⟨rfl,rfl⟩,⟨_,_,_,⟨word,named,rfl,chars,ends,rfl⟩,⟨rfl,gap,some,rfl,held,stops⟩,rfl⟩,rfl⟩

theorem hex_digits (digits : ∀ c ∈ hex, isHexDigit c = true) : Digits 16 hex := by
  intro c inside
  have ranged : (48 ≤ c.toNat ∧ c.toNat ≤ 57) ∨ (97 ≤ c.toNat ∧ c.toNat ≤ 102) ∨
      (65 ≤ c.toNat ∧ c.toNat ≤ 70) := by
    simpa [isHexDigit,inRanges,UInt8.le_iff_toNat_le] using digits c inside
  simp only [digitLookup,UInt8.le_iff_toNat_le]
  rcases ranged with low | small | large
  · exact ⟨c.toNat - 48,if_pos low,by omega⟩
  · have decimal : ¬(48 ≤ c.toNat ∧ c.toNat ≤ 57) := by omega
    have upper : ¬(65 ≤ c.toNat ∧ c.toNat ≤ 90) := by omega
    have lower : 97 ≤ c.toNat ∧ c.toNat ≤ 122 := by omega
    exact ⟨c.toNat - 87,(if_neg decimal).trans ((if_neg upper).trans (if_pos lower)),by omega⟩
  · have decimal : ¬(48 ≤ c.toNat ∧ c.toNat ≤ 57) := by omega
    have upper : 65 ≤ c.toNat ∧ c.toNat ≤ 90 := by omega
    exact ⟨c.toNat - 55,(if_neg decimal).trans (if_pos upper),by omega⟩

theorem number_exact :
    Consumes (number (.sequence (.literal (bytes "0x")) (.some (.set isHexDigit)))) line captures rest ↔ ∃ hex,
      hex ≠ [] ∧ line = bytes "0x" ++ (hex ++ rest) ∧ (∀ c ∈ hex, isHexDigit c = true) ∧
      Stops isHexDigit rest ∧ captures = [.number (denoted 16 hex)] := by
  have scanned : ∀ hex, hex ≠ [] → (∀ c ∈ hex, isHexDigit c = true) →
      janetScanNumber (bytes "0x" ++ hex) = some (denoted 16 hex) :=
    fun hex some digits => scan_hex (hex_digits digits) some
  simp only [number,consumes_capture,sequence_exact,literal_exact,some_set_exact]
  constructor
  · rintro ⟨_,_,_,⟨one,two,⟨rfl,first,none⟩,⟨some,whole,digits,stops,empty⟩,same⟩,valued,rfl⟩
    obtain ⟨rfl,rfl,rfl⟩ := Match.mk.inj same
    rw [first,scanned two.eaten some digits] at valued
    obtain rfl := Option.some.inj valued
    refine ⟨two.eaten,some,by rw [whole],digits,stops,?_⟩
    rw [none,empty]
    rfl
  · rintro ⟨hex,some,rfl,digits,stops,rfl⟩
    refine ⟨_,_,_,⟨⟨bytes "0x",[],hex ++ rest⟩,⟨hex,[],rest⟩,⟨rfl,rfl,rfl⟩,⟨some,rfl,digits,stops,rfl⟩,rfl⟩,?_,rfl⟩
    rw [scanned hex some digits]
    rfl

theorem value_exact : Consumes value line captures rest ↔ ∃ hex gap, hex ≠ [] ∧
    (∀ c ∈ hex, isHexDigit c = true) ∧ Stops isHexDigit (gap ++ rest) ∧ Spaces gap ∧ Stops isSpace rest ∧
    line = bytes "0x" ++ (hex ++ (gap ++ rest)) ∧ captures = [.number (denoted 16 hex)] := by
  simp only [value,consumes_sequence,number_exact,consumes_spaces]
  constructor
  · rintro ⟨_,_,_,⟨hex,some,rfl,digits,ends,rfl⟩,⟨rfl,gap,rfl,held,stops⟩,rfl⟩
    exact ⟨hex,gap,some,digits,ends,held,stops,rfl,rfl⟩
  · rintro ⟨hex,gap,some,digits,ends,held,stops,rfl,rfl⟩
    exact ⟨_,_,_,⟨hex,some,rfl,digits,ends,rfl⟩,⟨rfl,gap,rfl,held,stops⟩,rfl⟩

theorem end_exact : Consumes mlCommentEnd line captures rest ↔ captures = [] ∧
    ∃ gap, Spaces gap ∧ line = gap ++ (bytes "*/" ++ rest) := by
  simp only [mlCommentEnd,consumes_sequence,consumes_spaces,consumes_literal]
  constructor
  · rintro ⟨_,_,_,⟨rfl,gap,rfl,held,_⟩,⟨rfl,rfl⟩,rfl⟩
    exact ⟨rfl,gap,held,rfl⟩
  · rintro ⟨rfl,gap,held,rfl⟩
    exact ⟨_,_,_,⟨rfl,gap,rfl,held,stops_cons (by decide)⟩,⟨rfl,rfl⟩,rfl⟩

theorem begin_exact : Consumes mlCommentBegin line captures rest ↔ captures = [] ∧
    ∃ gap, Spaces gap ∧ Stops isSpace rest ∧ line = bytes "/*" ++ (gap ++ rest) := by
  simp only [mlCommentBegin,consumes_sequence,consumes_spaces,consumes_literal]
  constructor
  · rintro ⟨_,_,_,⟨rfl,rfl⟩,⟨rfl,gap,rfl,held,stops⟩,rfl⟩
    exact ⟨rfl,gap,held,stops,rfl⟩
  · rintro ⟨rfl,gap,held,stops,rfl⟩
    exact ⟨_,_,_,⟨rfl,rfl⟩,⟨rfl,gap,rfl,held,stops⟩,rfl⟩

theorem rest_exact : Consumes (text (.some (.chars 1))) line captures rest ↔
    line ≠ [] ∧ rest = [] ∧ captures = [.text line] := by
  unfold Consumes text
  rw [word_congr chars_one]
  change Consumes _ _ _ _ ↔ _
  rw [consumes_word]
  constructor
  · rintro ⟨word,captured,some,rfl,_,stops,valued,rfl⟩
    obtain rfl := Option.some.inj valued
    obtain rfl : rest = [] := by
      cases rest with
      | nil => rfl
      | cons c rest => exact absurd (stops c rfl) (by simp)
    rw [List.append_nil]
    exact ⟨some,rfl,rfl⟩
  · rintro ⟨some,rfl,rfl⟩
    exact ⟨line,_,some,by simp,by simp,by simp [Stops],rfl,rfl⟩

theorem line_exact : Consumes (.sequence (.literal (bytes "//")) (.sequence spaces (text (.some (.chars 1)))))
      line captures rest ↔ rest = [] ∧ ∃ gap word, Spaces gap ∧ word ≠ [] ∧ Stops isSpace word ∧
        line = bytes "//" ++ (gap ++ word) ∧ captures = [.text word] := by
  simp only [consumes_sequence,consumes_literal,consumes_spaces,rest_exact]
  constructor
  · rintro ⟨_,_,_,⟨rfl,rfl⟩,⟨_,_,_,⟨rfl,gap,rfl,held,stops⟩,⟨some,rfl,rfl⟩,rfl⟩,rfl⟩
    exact ⟨rfl,gap,_,held,some,stops,rfl,rfl⟩
  · rintro ⟨rfl,gap,word,held,some,stops,rfl,rfl⟩
    exact ⟨_,_,_,⟨rfl,rfl⟩,⟨_,_,_,⟨rfl,gap,rfl,held,stops⟩,⟨some,rfl,rfl⟩,rfl⟩,rfl⟩

theorem skip_spaces (held : Spaces gap) (same : gap ++ line = front ++ 42 :: back) :
    ∃ later, line = later ++ 42 :: back := by
  induction gap generalizing front with
  | nil => exact ⟨front,same⟩
  | cons c gap ih =>
      have space := held c List.mem_cons_self
      cases front with
      | nil =>
          obtain ⟨rfl,_⟩ := List.cons.inj same
          simp [isSpace] at space
      | cons _ front => exact ih (fun c inside => held c (.tail _ inside)) (List.cons.inj same).2

theorem two_heads (trail : 42 :: 47 :: rest = front ++ back) : front = [] ∧ back = 42 :: 47 :: rest ∨
    front = [42] ∧ back = 47 :: rest ∨ ∃ more, front = 42 :: 47 :: more ∧ rest = more ++ back := by
  rcases List.cons_eq_append_iff.mp trail with none | ⟨later,rfl,second⟩
  · exact .inl none
  · rcases List.cons_eq_append_iff.mp second with ⟨rfl,single⟩ | ⟨more,rfl,same⟩
    · exact .inr (.inl ⟨rfl,single⟩)
    · exact .inr (.inr ⟨more,rfl,same⟩)

-- The first terminator is the one that ends the comment.
theorem first_terminator (led : Spaces gap) (trailed : Spaces last) (unmatched : ∀ front back,
      word = front ++ back → back ≠ [] → run mlCommentEnd (back ++ (last ++ bytes "*/")) = none) :
    ¬bytes "*/" <:+: gap ++ (word ++ last) := by
  rintro ⟨front,back,found⟩
  have star : gap ++ (word ++ last) = front ++ 42 :: (47 :: back) := by
    rw [← found]
    simp [bytes]
  obtain ⟨later,inside⟩ := skip_spaces led star
  have dark : 42 ∉ last ∧ 47 ∉ last := by
    constructor <;> intro member <;> simpa [isSpace] using trailed _ member
  rcases List.append_eq_append_iff.mp inside with ⟨more,rfl,trail⟩ | ⟨more,rfl,trail⟩
  · exact dark.1 (by rw [trail]; simp)
  · rcases two_heads trail with ⟨_,trail⟩ | ⟨_,trail⟩ | ⟨more,rfl,_⟩
    · exact dark.1 (by rw [trail]; simp)
    · exact dark.2 (by rw [trail]; simp)
    · have failed := unmatched later (42 :: 47 :: more) rfl (by simp)
      have matched : Consumes mlCommentEnd (42 :: 47 :: more ++ (last ++ bytes "*/")) []
          (more ++ (last ++ bytes "*/")) := end_exact.mpr ⟨rfl,[],by simp [Spaces],rfl⟩
      obtain ⟨_,ran⟩ := matched
      rw [failed] at ran
      simp at ran

theorem last_terminator (within : ¬bytes "*/" <:+: word)
    (same : word ++ bytes "*/" = front ++ (bytes "*/" ++ rest)) : rest = [] := by
  change word ++ [42,47] = front ++ 42 :: 47 :: rest at same
  rcases List.append_eq_append_iff.mp same with ⟨more,_,trail⟩ | ⟨more,rfl,trail⟩
  · have length := congrArg List.length trail
    simp only [List.length_append,List.length_cons,List.length_nil] at length
    exact List.length_eq_zero_iff.mp (by omega)
  · rcases two_heads trail with ⟨_,trail⟩ | ⟨_,trail⟩ | ⟨more,rfl,_⟩
    · simpa using trail.symm
    · simp at trail
    · exact absurd ⟨front,more,by simp [bytes]⟩ within

theorem block_sound (found : Consumes (.sequence mlCommentBegin (.sequence (text (.to mlCommentEnd)) mlCommentEnd))
      line captures []) : ∃ gap word last, captures = [.text word] ∧
        ¬bytes "*/" <:+: gap ++ (word ++ last) ∧ line = bytes "/*" ++ ((gap ++ (word ++ last)) ++ bytes "*/") := by
  simp only [consumes_sequence,begin_exact,end_exact,text,consumes_capture,to_exact] at found
  obtain ⟨_,_,_,⟨rfl,gap,led,_,rfl⟩,later,rfl⟩ := found
  obtain ⟨_,_,_,⟨word,_,_,⟨rfl,rfl,_,unmatched⟩,valued,rfl⟩,⟨rfl,last,trailed,rfl⟩,rfl⟩ := later
  obtain rfl := Option.some.inj valued
  rw [List.append_nil] at unmatched
  exact ⟨gap,word,last,rfl,first_terminator led trailed unmatched,by simp⟩

theorem block_complete (within : ¬bytes "*/" <:+: word) : ∃ captured,
    Consumes (.sequence mlCommentBegin (.sequence (text (.to mlCommentEnd)) mlCommentEnd))
      (bytes "/*" ++ (word ++ bytes "*/")) [.text captured] [] := by
  obtain ⟨whole,led,stops⟩ : word = word.takeWhile isSpace ++ word.dropWhile isSpace ∧
    Spaces (word.takeWhile isSpace) ∧ Stops isSpace (word.dropWhile isSpace) := span_exact.mp ⟨rfl,rfl⟩
  generalize word.takeWhile isSpace = gap at whole led
  generalize word.dropWhile isSpace = body at whole stops
  subst whole
  have visible : Stops isSpace (body ++ bytes "*/") := by
    cases body with
    | nil => exact stops_cons (by decide)
    | cons c body => exact stops_cons (stops c rfl)
  have ended : Consumes mlCommentEnd (bytes "*/") [] [] := end_exact.mpr ⟨rfl,[],by simp [Spaces],rfl⟩
  obtain ⟨_,ran⟩ := ended
  have matched : (run mlCommentEnd (bytes "*/")).isSome = true := Option.isSome_of_eq_some ran
  have rejoined : body ++ bytes "*/" = body ++ bytes "*/" := rfl
  obtain ⟨⟨captured,_,rest⟩,found⟩ := to_found rejoined matched
  obtain ⟨split,rfl,later,_⟩ := to_exact.mp found
  obtain ⟨⟨_,_,tail⟩,closed⟩ := Option.isSome_iff_exists.mp later
  obtain ⟨rfl,last,trailed,rfl⟩ := end_exact.mp ⟨_,closed⟩
  have narrow : ¬bytes "*/" <:+: body := fun inside => within (inside.trans (List.suffix_append gap body).isInfix)
  obtain rfl : tail = [] := last_terminator narrow (split.trans (List.append_assoc ..).symm)
  refine ⟨captured,?_⟩
  simp only [consumes_sequence,begin_exact,text,consumes_capture]
  refine ⟨_,_,_,⟨rfl,gap,led,visible,by simp⟩,⟨_,_,_,⟨captured,[],_,found,rfl,rfl⟩,⟨_,closed⟩,rfl⟩,rfl⟩

theorem comment_sound (found : Consumes comment line captures []) :
    Comment line ∧ ∃ word, captures = [.text word] ∧ word ⊆ line := by
  rcases consumes_choice.mp found with single | ⟨_,block⟩
  · obtain ⟨_,gap,word,_,some,stops,rfl,rfl⟩ := line_exact.mp single
    refine ⟨.line ?_,word,rfl,fun c inside => by simp [inside]⟩
    cases word with
    | nil => exact absurd rfl some
    | cons c word => exact ⟨c,by simp,stops c rfl⟩
  · obtain ⟨gap,word,last,rfl,within,rfl⟩ := block_sound block
    exact ⟨.block within,word,rfl,fun c inside => by simp [inside]⟩

theorem comment_complete (commented : Comment line) (some : line ≠ []) :
    ∃ word, Consumes comment line [.text word] [] := by
  cases commented with
  | absent => exact absurd rfl some
  | @line text visible =>
      obtain ⟨whole,led,stops⟩ : text = text.takeWhile isSpace ++ text.dropWhile isSpace ∧
        Spaces (text.takeWhile isSpace) ∧ Stops isSpace (text.dropWhile isSpace) := span_exact.mp ⟨rfl,rfl⟩
      have remains : text.dropWhile isSpace ≠ [] := by
        intro none
        obtain ⟨c,inside,dark⟩ := visible
        rw [List.dropWhile_eq_nil_iff.mp none c inside] at dark
        simp at dark
      refine ⟨_,consumes_choice.mpr (.inl (line_exact.mpr ⟨rfl,_,_,led,remains,stops,?_,rfl⟩))⟩
      rw [← whole]
  | block within =>
      obtain ⟨word,block⟩ := block_complete within
      refine ⟨word,consumes_choice.mpr (.inr ⟨literal_fails ?_ _,block⟩)⟩
      simp [bytes]

theorem last_sound (found : Consumes (.sequence comment.opt .ending) line captures rest) : rest = [] ∧
    Comment line ∧ (captures = [] ∨ ∃ word, captures = [.text word] ∧ word ⊆ line) := by
  simp only [consumes_sequence,consumes_opt,consumes_ending] at found
  obtain ⟨one,middle,_,consumed,⟨rfl,rfl,rfl⟩,rfl⟩ := found
  rw [List.append_nil]
  rcases consumed with commented | ⟨_,rfl,rfl⟩
  · obtain ⟨comment,kept⟩ := comment_sound commented
    exact ⟨rfl,comment,.inr kept⟩
  · exact ⟨rfl,.absent,.inl rfl⟩

theorem last_complete (commented : Comment line) :
    ∃ captures, Consumes (.sequence comment.opt .ending) line captures [] := by
  simp only [consumes_sequence,consumes_opt,consumes_ending]
  by_cases some : line = []
  · subst some
    have none : run comment [] = none := rfl
    exact ⟨_,_,_,_,.inr ⟨none,rfl,rfl⟩,⟨rfl,rfl,trivial⟩,rfl⟩
  · obtain ⟨word,consumed⟩ := comment_complete commented some
    exact ⟨_,_,_,_,.inl consumed,⟨rfl,rfl,trivial⟩,rfl⟩

end

end KeysymDefine

section
variable {line name : List UInt8}
open KeysymDefine (last_sound last_complete stops_cons stops_before space_apart)

-- What a line that begins without space yields.
theorem peg_sound (stops : Stops isSpace line) (found : Consumes keysymDefinePeg line captures rest) :
    ∃ name hex comment, DefineLine line name hex ∧ captures = .text name :: .number (denoted 16 hex) :: comment ∧
      (comment = [] ∨ ∃ word, comment = [.text word] ∧ word ⊆ line) := by
  obtain ⟨_,_,_,defined,others,rfl⟩ := consumes_sequence.mp found
  obtain ⟨_,_,_,named,more,rfl⟩ := consumes_sequence.mp others
  obtain ⟨_,_,comment,valued,last,rfl⟩ := consumes_sequence.mp more
  obtain ⟨rfl,lead,gap,led,some,held,_,rfl⟩ := KeysymDefine.define_exact.mp defined
  obtain ⟨name,middle,nonempty,chars,between,spaces,_,rfl,rfl⟩ := KeysymDefine.name_exact.mp named
  obtain ⟨hex,after,value,digits,_,trailed,_,rfl,rfl⟩ := KeysymDefine.value_exact.mp valued
  obtain ⟨rfl,commented,kept⟩ := last_sound last
  obtain rfl : lead = [] := by
    cases lead with
    | nil => rfl
    | cons c lead =>
        have dark := stops c rfl
        rw [led c List.mem_cons_self] at dark
        simp at dark
  have line := DefineLine.intro ⟨some,held⟩ ⟨nonempty,chars⟩ ⟨between,spaces⟩ ⟨value,digits⟩ trailed commented
  refine ⟨name,hex,comment,line,rfl,?_⟩
  rcases kept with none | ⟨word,same,inside⟩
  · exact .inl none
  · refine .inr ⟨word,same,fun c member => ?_⟩
    simp [inside member]

theorem DefineLine.named (defined : DefineLine line name hex) : ∀ c ∈ name, isNameChar c = true := by
  cases defined with
  | intro _ named => exact named.2

theorem comment_stops (commented : Comment line) : Stops isSpace line ∧ Stops isHexDigit line := by
  cases commented with
  | absent => exact ⟨by simp [Stops],by simp [Stops]⟩
  | line _ => exact ⟨stops_cons (by decide),stops_cons (by decide)⟩
  | block _ => exact ⟨stops_cons (by decide),stops_cons (by decide)⟩

theorem peg_complete (defined : DefineLine line name hex) : ∃ comment,
    Consumes keysymDefinePeg line (.text name :: .number (denoted 16 hex) :: comment) [] := by
  cases defined with
  | @intro gap _ middle _ last comment before named between valued after commented =>
      obtain ⟨captures,consumed⟩ := last_complete commented
      obtain ⟨dark,other⟩ := comment_stops commented
      have ends : Stops isHexDigit (last ++ comment) := by
        by_cases some : last = []
        · rw [some]
          exact other
        · exact stops_before some fun c inside => (space_apart (after c inside)).2
      have first : ∀ tail, Consumes KeysymDefine.define (bytes "#define" ++ (gap ++ (bytes "XKB_KEY_" ++ tail))) []
          (bytes "XKB_KEY_" ++ tail) :=
        fun _ => KeysymDefine.define_exact.mpr ⟨rfl,[],gap,by simp [Spaces],before.1,before.2,
          stops_cons (by decide),rfl⟩
      have second : ∀ tail, Consumes KeysymDefine.name
          (bytes "XKB_KEY_" ++ (name ++ (middle ++ (bytes "0x" ++ tail)))) [.text name] (bytes "0x" ++ tail) :=
        fun _ => KeysymDefine.name_exact.mpr ⟨name,middle,named.1,named.2,between.1,between.2,
          stops_cons (by decide),rfl,rfl⟩
      have third := KeysymDefine.value_exact.mpr ⟨hex,last,valued.1,valued.2,ends,after,dark,rfl,rfl⟩
      have fourth := consumes_sequence.mpr ⟨_,_,_,third,consumed,rfl⟩
      have fifth := consumes_sequence.mpr ⟨_,_,_,second _,fourth,rfl⟩
      exact ⟨captures,consumes_sequence.mpr ⟨_,_,_,first _,fifth,rfl⟩⟩

end

end Janetland.Keysyms
