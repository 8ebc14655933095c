import Mathlib.Data.List.Basic
import Mathlib.Tactic.IntervalCases
import SqlTriage.Json

/-!
# Reading JSON

A reader for JSON texts whose numbers are natural.  White space may stand around every token, and a
string may hold every escape that there is, with two code units for a character beyond U+FFFF, but
no character below U+0020 as it is.  A reading is what was found at the front of a text, and the
rest, which is shorter (`Reading`).  What is written is read back, whatever follows it
(`reads_write`), so that different values have different texts (`compact_injective`), and each text
is one line (`isPrinted_write`).
-/

namespace SqlTriage.Json

/-- A value found at the front of a text and what is left of the text behind it. -/
structure Reading (α : Type) (s : List Char) where
  value : α
  rest : List Char
  shorter : rest.length < s.length

/-- The reading that goes on behind another. -/
def Reading.andThen {α β γ : Type} {s : List Char} (r : Reading α s) (next : Reading β r.rest)
    (f : α → β → γ) : Reading γ s :=
  ⟨f r.value next.value, next.rest, next.shorter.trans r.shorter⟩

/-- Readers of values at the front of a text. -/
abbrev Reader (α : Type) :=
  (s : List Char) → Option (Reading α s)

/-! ## Strings -/

/-- The value of a hexadecimal digit. -/
def hexDigit? (c : Char) : Option Nat :=
  if c.isDigit then some (c.toNat - '0'.toNat)
  else if 'a' ≤ c ∧ c ≤ 'f' then some (c.toNat - 'a'.toNat + 10)
  else if 'A' ≤ c ∧ c ≤ 'F' then some (c.toNat - 'A'.toNat + 10)
  else none

/-- A code unit, which is written with four hexadecimal digits. -/
def codeUnit? : Reader Nat
  | a :: b :: c :: d :: s => do
    let digits ← [a, b, c, d].mapM hexDigit?
    return ⟨digits.foldl (fun n digit => 16 * n + digit) 0, s, by
      simp only [List.length_cons]
      omega⟩
  | _ => none

/-- A code unit that stands for a character together with the next one. -/
def isHighSurrogate (n : Nat) : Bool :=
  0xD800 ≤ n && n < 0xDC00

/-- A code unit that stands for a character together with the one before. -/
def isLowSurrogate (n : Nat) : Bool :=
  0xDC00 ≤ n && n < 0xE000

/-- The character of which a letter behind a backslash is short for. -/
def ofEscapeLetter? : Char → Option Char
  | '\x22' => some '\x22'
  | '\\' => some '\\'
  | '/' => some '/'
  | 'b' => some '\x08'
  | 'f' => some '\x0c'
  | 'n' => some '\n'
  | 'r' => some '\r'
  | 't' => some '\t'
  | _ => none

/-- The character next to the front if it is the given one. -/
def char? (c : Char) : Reader Char
  | [] => none
  | d :: s => if d = c then some ⟨c, s, Nat.lt_succ_self _⟩ else none

/-- The character that an escape stands for, behind its backslash. -/
def escape? : Reader Char
  | [] => none
  | c :: s =>
    if c = 'u' then do
      let high ← codeUnit? s
      if isHighSurrogate high.value then
        let backslash ← char? '\\' high.rest
        let u ← char? 'u' backslash.rest
        let low ← codeUnit? u.rest
        if isLowSurrogate low.value then
          let code := 0x10000 + 0x400 * (high.value - 0xD800) + (low.value - 0xDC00)
          return ⟨Char.ofNat code, low.rest, by
            have := high.shorter
            have := backslash.shorter
            have := u.shorter
            have := low.shorter
            simp only [List.length_cons]
            omega⟩
        else none
      else if isLowSurrogate high.value then none
      else return ⟨Char.ofNat high.value, high.rest, Nat.lt_succ_of_lt high.shorter⟩
    else (ofEscapeLetter? c).map fun d => ⟨d, s, Nat.lt_succ_self _⟩

/-- The characters of a string, behind its opening quotation mark. -/
def stringTail? (s : List Char) : Option (Reading (List Char) s) :=
  match s with
  | [] => none
  | c :: s =>
    if c = '\x22' then some ⟨[], s, Nat.lt_succ_self _⟩
    else if c = '\\' then do
      let d ← escape? s
      let r ← stringTail? d.rest
      return ⟨d.value :: r.value, r.rest, Nat.lt_succ_of_lt (r.shorter.trans d.shorter)⟩
    else if c.toNat < 0x20 then none
    else (stringTail? s).map fun r => ⟨c :: r.value, r.rest, Nat.lt_succ_of_lt r.shorter⟩
termination_by s.length
decreasing_by
  · exact Nat.lt_succ_of_lt d.shorter
  · exact Nat.lt_succ_self _

/-! ## Values -/

/-- White space between tokens. -/
def isWhite (c : Char) : Bool :=
  c == ' ' || c == '\t' || c == '\n' || c == '\r'

/-- The first character that is no white space. -/
def token? : Reader Char
  | [] => none
  | c :: s =>
    if isWhite c then (token? s).map fun r => ⟨r.value, r.rest, Nat.lt_succ_of_lt r.shorter⟩
    else some ⟨c, s, Nat.lt_succ_self _⟩

/-- A natural number in digits, which begins with a zero only if it is one. -/
def number? (s : List Char) : Option (Reading Json s) :=
  let digits := s.takeWhile Char.isDigit
  if h : digits = [] ∨ digits.head? = some '0' ∧ digits.length ≠ 1 then none
  else some ⟨.number (Nat.ofDigitChars 10 digits 0), s.dropWhile Char.isDigit, by
    have hsplit : digits ++ s.dropWhile Char.isDigit = s := List.takeWhile_append_dropWhile
    have hpos := List.length_pos_iff.2 fun hnil => h (Or.inl hnil)
    have hlength := congrArg List.length hsplit
    rw [List.length_append] at hlength
    omega⟩

/-- A value that is a word. -/
def word? : Reader Json
  | 'n' :: 'u' :: 'l' :: 'l' :: s => some ⟨.null, s, by simp only [List.length_cons]; omega⟩
  | 't' :: 'r' :: 'u' :: 'e' :: s => some ⟨.bool true, s, by simp only [List.length_cons]; omega⟩
  | 'f' :: 'a' :: 'l' :: 's' :: 'e' :: s =>
    some ⟨.bool false, s, by simp only [List.length_cons]; omega⟩
  | _ => none

/-- The name of a field with the colon behind it. -/
def key? (s : List Char) : Option (Reading String s) := do
  let q ← token? s
  if q.value = '\x22' then
    let k ← stringTail? q.rest
    let c ← token? k.rest
    if c.value = ':' then return q.andThen (k.andThen c fun k _ => String.ofList k) fun _ k => k
    else none
  else none

mutual

/-- The value at the front of a text. -/
def value? (s : List Char) : Option (Reading Json s) := do
  let c ← token? s
  if c.value = '\x22' then
    let r ← stringTail? c.rest
    return c.andThen r fun _ cs => .string (String.ofList cs)
  else if c.value = '[' then
    match items? c.rest with
    | some r => return c.andThen r fun _ vs => .array vs
    | none =>
      let d ← token? c.rest
      if d.value = ']' then return c.andThen d fun _ _ => .array [] else none
  else if c.value = '\x7b' then
    match fields? c.rest with
    | some r => return c.andThen r fun _ fs => .object fs
    | none =>
      let d ← token? c.rest
      if d.value = '\x7d' then return c.andThen d fun _ _ => .object [] else none
  else
    let r ← (number? (c.value :: c.rest)).or (word? (c.value :: c.rest))
    return ⟨r.value, r.rest, Nat.lt_of_lt_of_le r.shorter c.shorter⟩
termination_by (s.length, 0)
decreasing_by
  · exact .left _ _ c.shorter
  · exact .left _ _ c.shorter

/-- One or more items of an array, behind its opening bracket or a comma. -/
def items? (s : List Char) : Option (Reading (List Json) s) := do
  let v ← value? s
  let c ← token? v.rest
  if c.value = ',' then
    let r ← items? c.rest
    return v.andThen (c.andThen r fun _ vs => vs) fun v vs => v :: vs
  else if c.value = ']' then return v.andThen c fun v _ => [v]
  else none
termination_by (s.length, 1)
decreasing_by
  · exact .right _ Nat.zero_lt_one
  · exact .left _ _ (c.shorter.trans v.shorter)

/-- One or more fields of an object, behind its opening brace or a comma. -/
def fields? (s : List Char) : Option (Reading (List (String × Json)) s) := do
  let k ← key? s
  let v ← value? k.rest
  let c ← token? v.rest
  if c.value = ',' then
    let r ← fields? c.rest
    return k.andThen (v.andThen (c.andThen r fun _ fs => fs) Prod.mk) fun k p => (k, p.1) :: p.2
  else if c.value = '\x7d' then return k.andThen (v.andThen c fun v _ => v) fun k v => [(k, v)]
  else none
termination_by (s.length, 1)
decreasing_by
  · exact .left _ _ k.shorter
  · exact .left _ _ (c.shorter.trans (v.shorter.trans k.shorter))

end

/-- The value that a text stands for. -/
def parse? (text : String) : Option Json := do
  let r ← value? text.toList
  if r.rest.all isWhite then some r.value else none

/-! ## Strings that were written -/

variable {α : Type} {s rest : List Char}

/-- The reader finds the value at the front of the text and leaves the rest. -/
def Reads (read : Reader α) (s : List Char) (a : α) (rest : List Char) : Prop :=
  ∃ h, read s = some ⟨a, rest, h⟩

theorem ofEscapeLetter?_escapeLetter? {c letter : Char} (h : escapeLetter? c = some letter) :
    letter ≠ 'u' ∧ ofEscapeLetter? letter = some c := by
  unfold escapeLetter? at h
  split_ifs at h with hself hb hf hn hr ht <;> obtain rfl := Option.some.inj h
  · rw [Bool.or_eq_true, beq_iff_eq, beq_iff_eq] at hself
    rcases hself with rfl | rfl <;> decide
  · rw [beq_iff_eq.1 hb]
    decide
  · rw [beq_iff_eq.1 hf]
    decide
  · rw [beq_iff_eq.1 hn]
    decide
  · rw [beq_iff_eq.1 hr]
    decide
  · rw [beq_iff_eq.1 ht]
    decide

theorem escapeLetter?_eq_none {c : Char} (h : escapeLetter? c = none) : c ≠ '\x22' ∧ c ≠ '\\' := by
  constructor
  · rintro rfl
    cases h
  · rintro rfl
    cases h

/-- Four digits stand for a code unit below U+0020. -/
theorem reads_codeUnit? {n : Nat} (h : n < 0x20) (s : List Char) :
    Reads codeUnit?
      ((if n < 0x10 then ['0', '0', '0'] else ['0', '0']) ++ Text.hexadecimal n ++ s) n s := by
  interval_cases n <;> exact ⟨_, rfl⟩

theorem writeChar_of_lt {c : Char} (hletter : escapeLetter? c = none) (h : c.toNat < 0x20) :
    writeChar c = '\\' :: 'u' :: ((if c.toNat < 0x10 then ['0', '0', '0'] else ['0', '0']) ++
      Text.hexadecimal c.toNat) := by
  rw [writeChar, hletter]
  split_ifs <;> rfl

theorem writeChar_of_le {c : Char} (hletter : escapeLetter? c = none) (h : 0x20 ≤ c.toNat) :
    writeChar c = [c] := by
  rw [writeChar, hletter]
  exact (if_neg (by omega)).trans (if_neg (by omega))

theorem reads_escape? {c letter : Char} (h : escapeLetter? c = some letter) (s : List Char) :
    Reads escape? (letter :: s) c s := by
  obtain ⟨hu, hc⟩ := ofEscapeLetter?_escapeLetter? h
  refine ⟨Nat.lt_succ_self _, ?_⟩
  rw [escape?, if_neg hu, hc]
  rfl

theorem reads_escape?_codeUnit {c : Char} {s t : List Char} (hc : c.toNat < 0x20)
    (h : Reads codeUnit? t c.toNat s) : Reads escape? ('u' :: t) c s := by
  obtain ⟨hlt, ht⟩ := h
  refine ⟨Nat.lt_succ_of_lt hlt, ?_⟩
  have hhigh : isHighSurrogate c.toNat = false := by
    rw [isHighSurrogate, decide_eq_false (by omega), Bool.false_and]
  have hlow : isLowSurrogate c.toNat = false := by
    rw [isLowSurrogate, decide_eq_false (by omega), Bool.false_and]
  simp [escape?, ht, hhigh, hlow]

theorem reads_stringTail?_escape {c : Char} {cs t u : List Char} (h : Reads escape? t c u)
    (hu : Reads stringTail? u cs rest) : Reads stringTail? ('\\' :: t) (c :: cs) rest := by
  obtain ⟨hlt, ht⟩ := h
  obtain ⟨hlt', hu⟩ := hu
  refine ⟨Nat.lt_succ_of_lt (hlt'.trans hlt), ?_⟩
  rw [stringTail?, if_neg (by decide), if_pos rfl, ht]
  simp [hu]

/-- A character is read as it was written. -/
theorem reads_stringTail?_writeChar (c : Char) {cs : List Char} (h : Reads stringTail? s cs rest) :
    Reads stringTail? (writeChar c ++ s) (c :: cs) rest := by
  cases hletter : escapeLetter? c with
  | some letter =>
    have hwrite : writeChar c = ['\\', letter] := by rw [writeChar, hletter]
    rw [hwrite]
    exact reads_stringTail?_escape (reads_escape? hletter s) h
  | none =>
    by_cases hc : c.toNat < 0x20
    · rw [writeChar_of_lt hletter hc]
      exact reads_stringTail?_escape (reads_escape?_codeUnit hc (reads_codeUnit? hc s)) h
    · rw [writeChar_of_le hletter (by omega)]
      obtain ⟨hquote, hbackslash⟩ := escapeLetter?_eq_none hletter
      obtain ⟨hlt, hs⟩ := h
      refine ⟨Nat.lt_succ_of_lt hlt, ?_⟩
      show stringTail? (c :: s) = _
      rw [stringTail?, if_neg hquote, if_neg hbackslash, if_neg hc, hs]
      rfl

/-- A string is read up to its closing quotation mark. -/
theorem reads_stringTail? (cs rest : List Char) :
    Reads stringTail? (cs.flatMap writeChar ++ '\x22' :: rest) cs rest := by
  induction cs with
  | nil =>
    refine ⟨Nat.lt_succ_self _, ?_⟩
    show stringTail? ('\x22' :: rest) = _
    rw [stringTail?, if_pos rfl]
  | cons c cs ih =>
    rw [List.flatMap_cons, List.append_assoc]
    exact reads_stringTail?_writeChar c ih

/-! ## Values that were written -/

theorem token?_cons {c : Char} (hc : isWhite c = false) (s : List Char) :
    token? (c :: s) = some ⟨c, s, Nat.lt_succ_self _⟩ := by
  rw [token?, if_neg (by simp [hc])]

theorem head?_toDigits_ne {n : Nat} (hn : n ≠ 0) : (Nat.toDigits 10 n).head? ≠ some '0' := by
  induction n using Nat.strongRecOn with
  | ind n ih =>
    rw [Nat.toDigits_eq_if (by decide)]
    split
    · interval_cases n <;> simp_all [Nat.digitChar]
    · rw [List.head?_append_of_ne_nil _ Nat.toDigits_ne_nil]
      exact ih (n / 10) (by omega) (by omega)

theorem reads_number?_digits {digits : List Char} (hne : digits ≠ [])
    (hzero : digits.head? = some '0' → digits.length = 1)
    (hdigits : ∀ c ∈ digits, c.isDigit = true) (hrest : rest.head?.any Char.isDigit = false) :
    Reads number? (digits ++ rest) (.number (Nat.ofDigitChars 10 digits 0)) rest := by
  have hstop : rest.takeWhile Char.isDigit = [] ∧ rest.dropWhile Char.isDigit = rest := by
    cases rest with
    | nil => exact ⟨rfl, rfl⟩
    | cons c rest =>
      have hc : c.isDigit = false := hrest
      simp [hc]
  have htake : (digits ++ rest).takeWhile Char.isDigit = digits := by
    rw [List.takeWhile_append_of_pos hdigits, hstop.1, List.append_nil]
  have hdrop : (digits ++ rest).dropWhile Char.isDigit = rest := by
    rw [List.dropWhile_append_of_pos hdigits, hstop.2]
  have hvalid : ¬ (digits = [] ∨ digits.head? = some '0' ∧ digits.length ≠ 1) := by
    rintro (h | ⟨h, hlength⟩)
    · exact hne h
    · exact hlength (hzero h)
  have hpos := List.length_pos_iff.2 hne
  refine ⟨by rw [List.length_append]; omega, ?_⟩
  simp only [number?, htake, hdrop, dif_neg hvalid]

/-- A number is read up to its last digit. -/
theorem reads_number? (n : Nat) (hrest : rest.head?.any Char.isDigit = false) :
    Reads number? (Nat.toDigits 10 n ++ rest) (.number n) rest := by
  have hzero (h : (Nat.toDigits 10 n).head? = some '0') : (Nat.toDigits 10 n).length = 1 := by
    by_cases hn : n = 0
    · rw [hn, Nat.toDigits_zero]
      rfl
    · exact absurd h (head?_toDigits_ne hn)
  have hdigits (c : Char) (hc : c ∈ Nat.toDigits 10 n) : c.isDigit = true :=
    Nat.isDigit_of_mem_toDigits (by decide) (by decide) hc
  have h := reads_number?_digits Nat.toDigits_ne_nil hzero hdigits hrest
  rwa [Nat.ofDigitChars_ten_toDigits] at h

/-- White space, and the characters that open a string, an array or an object. -/
def openers : List Char :=
  [' ', '\t', '\n', '\r', '\x22', '[', '\x7b']

/-- A character that opens nothing begins a number or a word. -/
theorem value?_of_notMem {c : Char} (hc : c ∉ openers) (s : List Char) :
    value? (c :: s) = (number? (c :: s)).or (word? (c :: s)) := by
  simp only [openers, List.mem_cons, List.not_mem_nil, or_false, not_or] at hc
  obtain ⟨hspace, htab, hline, hreturn, hquote, hbracket, hbrace⟩ := hc
  have hwhite : isWhite c = false := by simp [isWhite, hspace, htab, hline, hreturn]
  rw [value?, token?_cons hwhite]
  simp only [Option.bind_eq_bind, Option.bind_some, if_neg hquote, if_neg hbracket, if_neg hbrace]
  exact Option.bind_fun_some _

theorem reads_value?_number {c : Char} {v : Json} (hc : c.isDigit = true)
    (h : Reads number? (c :: s) v rest) : Reads value? (c :: s) v rest := by
  have hopens : c ∉ openers := by
    intro hmem
    have hall : openers.any Char.isDigit = false := rfl
    exact List.any_eq_false.1 hall c hmem hc
  obtain ⟨hlt, hs⟩ := h
  exact ⟨hlt, by rw [value?_of_notMem hopens, hs, Option.some_or]⟩

theorem number?_of_not_isDigit {c : Char} (hc : c.isDigit = false) (s : List Char) :
    number? (c :: s) = none := by
  have hdigits : (c :: s).takeWhile Char.isDigit = [] := List.takeWhile_cons_of_neg (by simp [hc])
  exact dif_pos (Or.inl hdigits)

theorem reads_value?_word {c : Char} {v : Json} (hc : c ∉ openers) (hdigit : c.isDigit = false)
    (h : Reads word? (c :: s) v rest) : Reads value? (c :: s) v rest := by
  obtain ⟨hlt, hs⟩ := h
  exact ⟨hlt, by rw [value?_of_notMem hc, number?_of_not_isDigit hdigit, hs, Option.none_or]⟩

theorem reads_value?_string {cs : List Char} (h : Reads stringTail? s cs rest) :
    Reads value? ('\x22' :: s) (.string (String.ofList cs)) rest := by
  obtain ⟨hlt, hs⟩ := h
  refine ⟨Nat.lt_succ_of_lt hlt, ?_⟩
  rw [value?, token?_cons rfl]
  simp [hs, Reading.andThen]

theorem reads_value?_items {vs : List Json} (h : Reads items? s vs rest) :
    Reads value? ('[' :: s) (.array vs) rest := by
  obtain ⟨hlt, hs⟩ := h
  refine ⟨Nat.lt_succ_of_lt hlt, ?_⟩
  rw [value?, token?_cons rfl]
  simp [hs, Reading.andThen]

theorem reads_value?_fields {fs : List (String × Json)} (h : Reads fields? s fs rest) :
    Reads value? ('\x7b' :: s) (.object fs) rest := by
  obtain ⟨hlt, hs⟩ := h
  refine ⟨Nat.lt_succ_of_lt hlt, ?_⟩
  rw [value?, token?_cons rfl]
  simp [hs, Reading.andThen]

theorem items?_close (s : List Char) : items? (']' :: s) = none := by
  rw [items?, value?_of_notMem (by decide), number?_of_not_isDigit rfl]
  rfl

theorem reads_value?_empty_array (s : List Char) :
    Reads value? ('[' :: ']' :: s) (.array []) s := by
  refine ⟨by simp only [List.length_cons]; omega, ?_⟩
  rw [value?, token?_cons rfl]
  simp [items?_close, token?_cons (c := ']') rfl, Reading.andThen]

theorem reads_items?_one {v : Json} {t : List Char} (h : Reads value? s v (']' :: t)) :
    Reads items? s [v] t := by
  obtain ⟨hlt, hs⟩ := h
  refine ⟨(Nat.lt_succ_self _).trans hlt, ?_⟩
  rw [items?, hs]
  simp [token?_cons (c := ']') rfl, Reading.andThen]

theorem reads_items?_cons {v : Json} {vs : List Json} {t : List Char}
    (h : Reads value? s v (',' :: t)) (hvs : Reads items? t vs rest) :
    Reads items? s (v :: vs) rest := by
  obtain ⟨hlt, hs⟩ := h
  obtain ⟨hlt', hvs⟩ := hvs
  refine ⟨hlt'.trans ((Nat.lt_succ_self _).trans hlt), ?_⟩
  rw [items?, hs]
  simp [token?_cons (c := ',') rfl, hvs, Reading.andThen]

theorem reads_key? (name : String) (rest : List Char) :
    Reads key? (writeString name ++ ':' :: rest) name rest := by
  have hwrite : writeString name ++ ':' :: rest =
      '\x22' :: (name.toList.flatMap writeChar ++ '\x22' :: ':' :: rest) := by simp [writeString]
  rw [hwrite]
  obtain ⟨hlt, hs⟩ := reads_stringTail? name.toList (':' :: rest)
  refine ⟨(Nat.lt_succ_self _).trans (hlt.trans (Nat.lt_succ_self _)), ?_⟩
  rw [key?, token?_cons rfl]
  simp [hs, token?_cons (c := ':') rfl, Reading.andThen]

theorem fields?_close (s : List Char) : fields? ('\x7d' :: s) = none := by
  rw [fields?, key?, token?_cons rfl]
  simp

theorem reads_value?_empty_object (s : List Char) :
    Reads value? ('\x7b' :: '\x7d' :: s) (.object []) s := by
  refine ⟨by simp only [List.length_cons]; omega, ?_⟩
  rw [value?, token?_cons rfl]
  simp [fields?_close, token?_cons (c := '\x7d') rfl, Reading.andThen]

theorem reads_fields?_one {name : String} {v : Json} {t u : List Char} (hk : Reads key? s name t)
    (h : Reads value? t v ('\x7d' :: u)) : Reads fields? s [(name, v)] u := by
  obtain ⟨hltk, hk⟩ := hk
  obtain ⟨hlt, hs⟩ := h
  refine ⟨(Nat.lt_succ_self _).trans (hlt.trans hltk), ?_⟩
  rw [fields?, hk]
  simp [hs, token?_cons (c := '\x7d') rfl, Reading.andThen]

theorem reads_fields?_cons {name : String} {v : Json} {fs : List (String × Json)} {t u : List Char}
    (hk : Reads key? s name t) (h : Reads value? t v (',' :: u)) (hfs : Reads fields? u fs rest) :
    Reads fields? s ((name, v) :: fs) rest := by
  obtain ⟨hltk, hk⟩ := hk
  obtain ⟨hlt, hs⟩ := h
  obtain ⟨hlt', hfs⟩ := hfs
  refine ⟨hlt'.trans ((Nat.lt_succ_self _).trans (hlt.trans hltk)), ?_⟩
  rw [fields?, hk]
  simp [hs, token?_cons (c := ',') rfl, hfs, Reading.andThen]

mutual

/-- What is written is read back, whatever follows, as long as it does not go on with a digit. -/
theorem reads_write (v : Json) (rest : List Char) (hrest : rest.head?.any Char.isDigit = false) :
    Reads value? (v.write ++ rest) v rest := by
  cases v with
  | null => exact reads_value?_word (by decide) rfl ⟨_, rfl⟩
  | bool b =>
    cases b with
    | true => exact reads_value?_word (by decide) rfl ⟨_, rfl⟩
    | false => exact reads_value?_word (by decide) rfl ⟨_, rfl⟩
  | number n =>
    have h := reads_number? n hrest
    have hdigits {c : Char} (hc : c ∈ Nat.toDigits 10 n) : c.isDigit = true :=
      Nat.isDigit_of_mem_toDigits (by decide) (by decide) hc
    show Reads value? (Nat.toDigits 10 n ++ rest) _ _
    cases hn : Nat.toDigits 10 n with
    | nil => exact absurd hn Nat.toDigits_ne_nil
    | cons c cs =>
      rw [hn] at h hdigits
      exact reads_value?_number (hdigits List.mem_cons_self) h
  | string text =>
    have h := reads_value?_string (reads_stringTail? text.toList rest)
    rw [String.ofList_toList] at h
    simpa [write, writeString] using h
  | array items =>
    cases items with
    | nil => exact reads_value?_empty_array rest
    | cons v vs =>
      have h := reads_value?_items (reads_writeItems (v :: vs) (List.cons_ne_nil v vs) rest)
      simpa [write] using h
  | object fields =>
    cases fields with
    | nil => exact reads_value?_empty_object rest
    | cons f fs =>
      have h := reads_value?_fields (reads_writeFields (f :: fs) (List.cons_ne_nil f fs) rest)
      simpa [write] using h

theorem reads_writeItems (items : List Json) (hne : items ≠ []) (rest : List Char) :
    Reads items? (writeItems items ++ ']' :: rest) items rest := by
  match items, hne with
  | [v], _ => exact reads_items?_one (reads_write v (']' :: rest) rfl)
  | v :: w :: vs, _ =>
    have hv := reads_write v (',' :: (writeItems (w :: vs) ++ ']' :: rest)) rfl
    have h := reads_items?_cons hv (reads_writeItems (w :: vs) (List.cons_ne_nil w vs) rest)
    simpa [writeItems] using h

theorem reads_writeFields (fields : List (String × Json)) (hne : fields ≠ []) (rest : List Char) :
    Reads fields? (writeFields fields ++ '\x7d' :: rest) fields rest := by
  match fields, hne with
  | [(name, v)], _ =>
    have hv := reads_write v ('\x7d' :: rest) rfl
    have h := reads_fields?_one (reads_key? name _) hv
    simpa [writeFields] using h
  | (name, v) :: f :: fs, _ =>
    have hv := reads_write v (',' :: (writeFields (f :: fs) ++ '\x7d' :: rest)) rfl
    have h := reads_fields?_cons (reads_key? name _) hv
      (reads_writeFields (f :: fs) (List.cons_ne_nil f fs) rest)
    simpa [writeFields] using h

end

/-- **What is written is read back.** -/
theorem parse?_compact (v : Json) : parse? v.compact = some v := by
  have h := reads_write v [] rfl
  rw [List.append_nil] at h
  obtain ⟨hlt, h⟩ := h
  have htext : v.compact.toList = v.write := String.toList_ofList
  rw [parse?, htext, h]
  rfl

theorem compact_injective {v w : Json} (h : v.compact = w.compact) : v = w := by
  have hv := parse?_compact v
  rw [h, parse?_compact] at hv
  exact (Option.some.inj hv).symm

/-! ## One line -/

/-- The text holds no character below U+0020. -/
def IsPrinted (s : List Char) : Prop :=
  ∀ c ∈ s, 0x20 ≤ c.toNat

-- The instance is spelled out, since search would find the one that goes through all of `Char`.
instance : DecidablePred IsPrinted := fun s =>
  List.decidableBAll (fun c : Char => 0x20 ≤ c.toNat) s

theorem isPrinted_cons {c : Char} : IsPrinted (c :: s) ↔ 0x20 ≤ c.toNat ∧ IsPrinted s :=
  List.forall_mem_cons

theorem isPrinted_append {t : List Char} : IsPrinted (s ++ t) ↔ IsPrinted s ∧ IsPrinted t :=
  List.forall_mem_append

theorem isPrinted_hexadecimal {n : Nat} (h : n < 0x20) : IsPrinted (Text.hexadecimal n) := by
  have hall : ∀ n < 0x20, IsPrinted (Text.hexadecimal n) := by decide
  exact hall n h

theorem isPrinted_writeChar (c : Char) : IsPrinted (writeChar c) := by
  cases hletter : escapeLetter? c with
  | some letter =>
    have hwrite : writeChar c = ['\\', letter] := by rw [writeChar, hletter]
    have hmeaning := (ofEscapeLetter?_escapeLetter? hletter).2
    rw [hwrite, isPrinted_cons, isPrinted_cons]
    refine ⟨by decide, ?_, List.forall_mem_nil _⟩
    unfold ofEscapeLetter? at hmeaning
    split at hmeaning <;> first | decide | cases hmeaning
  | none =>
    by_cases hc : c.toNat < 0x20
    · rw [writeChar_of_lt hletter hc, isPrinted_cons, isPrinted_cons, isPrinted_append]
      refine ⟨by decide, by decide, ?_, isPrinted_hexadecimal hc⟩
      split <;> decide
    · rw [writeChar_of_le hletter (by omega), isPrinted_cons]
      exact ⟨by omega, List.forall_mem_nil _⟩

theorem isPrinted_writeString (text : String) : IsPrinted (writeString text) := by
  have hchars : IsPrinted (text.toList.flatMap writeChar) := by
    intro c hc
    obtain ⟨d, -, hd⟩ := List.mem_flatMap.1 hc
    exact isPrinted_writeChar d c hd
  rw [writeString, isPrinted_cons, isPrinted_append]
  exact ⟨by decide, hchars, by decide⟩

theorem isPrinted_toDigits (n : Nat) : IsPrinted (Nat.toDigits 10 n) := by
  intro c hc
  have hdigit : c.isDigit = true := Nat.isDigit_of_mem_toDigits (by decide) (by decide) hc
  have hzero : '0'.toNat ≤ c.toNat := (Char.isDigit_iff_toNat.1 hdigit).1
  exact Nat.le_trans (by decide) hzero

mutual

/-- A value is written on one line, with every character below U+0020 escaped. -/
theorem isPrinted_write (v : Json) : IsPrinted v.write := by
  cases v with
  | null => decide
  | bool b => cases b <;> decide
  | number n => exact isPrinted_toDigits n
  | string text => exact isPrinted_writeString text
  | array items =>
    rw [write, isPrinted_cons, isPrinted_append]
    exact ⟨by decide, isPrinted_writeItems items, by decide⟩
  | object fields =>
    rw [write, isPrinted_cons, isPrinted_append]
    exact ⟨by decide, isPrinted_writeFields fields, by decide⟩

theorem isPrinted_writeItems (items : List Json) : IsPrinted (writeItems items) := by
  match items with
  | [] => exact List.forall_mem_nil _
  | [v] => exact isPrinted_write v
  | v :: w :: vs =>
    rw [writeItems, isPrinted_append, isPrinted_cons]
    exact ⟨isPrinted_write v, by decide, isPrinted_writeItems (w :: vs)⟩

theorem isPrinted_writeFields (fields : List (String × Json)) :
    IsPrinted (writeFields fields) := by
  match fields with
  | [] => exact List.forall_mem_nil _
  | [(name, v)] =>
    rw [writeFields, isPrinted_append, isPrinted_cons]
    exact ⟨isPrinted_writeString name, by decide, isPrinted_write v⟩
  | (name, v) :: f :: fs =>
    rw [writeFields, isPrinted_append, isPrinted_cons, isPrinted_append, isPrinted_cons]
    exact ⟨isPrinted_writeString name, by decide, isPrinted_write v, by decide,
      isPrinted_writeFields (f :: fs)⟩

end

end SqlTriage.Json
