import SqlTriage.Proofs.Classify.Verdict

/-!
# Rules by their openers

A rule whose first step requires a word can match only where a statement begins with one of its
openers, so that the opener of a statement selects the rules that are left (`find?_cons`).  What
they make of the statement depends on the words behind the opener (`statementOf?_cons`), and the
steps are conditions on these words, position by position.
-/

namespace SqlTriage

open SqlTriage.Text SqlTriage.Lexical RuleMatch

/-! ## Words at positions -/

/-- Whether there is a token at a position and it is one of the words. -/
def wordAt (ts : List Token) (i : Nat) (words : List String) : Bool :=
  ts[i]?.any fun t => t.isOneOf words

/-- The name behind `FROM` or `IN` at a position. -/
def nameFrom (ts : List Token) (i : Nat) : Option Token :=
  if wordAt ts i ["FROM", "IN"] then identifierAt? ts (i + 1) else none

theorem wordAt_tail (ts : List Token) (i : Nat) (words : List String) :
    wordAt ts.tail i words = wordAt ts (i + 1) words := by
  rw [wordAt, wordAt, List.getElem?_tail]

/-- One word is not in two lists that have no word in common. -/
theorem wordAt_eq_false {ts : List Token} {i : Nat} {words : List String}
    (h : wordAt ts i words = true) {others : List String} (hd : ∀ w ∈ words, w ∉ others) :
    wordAt ts i others = false := by
  unfold wordAt at h ⊢
  cases hi : ts[i]? with
  | none => rfl
  | some t =>
    rw [hi] at h
    simpa [Token.isOneOf] using hd _ (List.contains_iff_mem.1 h)

theorem wordAt_mono {ts : List Token} {i : Nat} {words : List String}
    (h : wordAt ts i words = true) {others : List String} (hs : words ⊆ others) :
    wordAt ts i others = true := by
  unfold wordAt at h ⊢
  cases hi : ts[i]? with
  | none => rw [hi] at h; cases h
  | some t =>
    rw [hi] at h
    exact List.contains_iff_mem.2 (hs (List.contains_iff_mem.1 h))

theorem consumedBy?_nil (ts : List Token) : consumedBy? [] ts = some 0 := by rw [consumedBy?]

theorem consumedBy?_keyword (words : List String) (steps : List Step) (ts : List Token) :
    consumedBy? (.keyword words :: steps) ts =
      if wordAt ts 0 words then (consumedBy? steps ts.tail).map (· + 1) else none := by
  cases ts <;> rfl

theorem exists_of_consumedBy?_keyword {words : List String} {steps : List Step} {ts : List Token}
    {k : Nat} (h : consumedBy? (.keyword words :: steps) ts = some k) :
    ∃ t rest j, ts = t :: rest ∧ t.folded ∈ words ∧ consumedBy? steps rest = some j ∧
      k = j + 1 := by
  cases ts with
  | nil => cases h
  | cons t rest =>
    rw [consumedBy?] at h
    split at h
    · rename_i ht
      obtain ⟨j, hj, rfl⟩ := Option.map_eq_some_iff.1 h
      exact ⟨t, rest, j, rfl, List.contains_iff_mem.1 ht, hj, rfl⟩
    · cases h

theorem consumedBy?_optional (words : List String) (steps : List Step) (ts : List Token) :
    consumedBy? (.optional words :: steps) ts =
      if wordAt ts 0 words then (consumedBy? steps ts.tail).map (· + 1)
      else consumedBy? steps ts := by
  cases ts <;> rfl

theorem consumedBy?_any (steps : List Step) (ts : List Token) :
    consumedBy? (.any :: steps) ts =
      if ts.isEmpty then none else (consumedBy? steps ts.tail).map (· + 1) := by
  cases ts <;> rfl

theorem any_take_succ (ts : List Token) (n : Nat) (words : List String) :
    ((ts.take (n + 1)).any fun t => t.isOneOf words) =
      (wordAt ts 0 words || (ts.tail.take n).any fun t => t.isOneOf words) := by
  cases ts with
  | nil => simp [wordAt]
  | cons t ts => rfl

/-! ## Openers -/

/-- The words that the first step of a rule requires. -/
def Rule.openers (r : Rule) : List String :=
  match r.steps.head? with
  | some (.keyword words) => words
  | _ => []

theorem Rule.startsWith_eq (r : Rule) (t : Token) :
    r.startsWith t = r.openers.contains t.folded := by
  unfold startsWith openers Token.isOneOf
  split <;> simp_all

/-- The openers of the table are those of the rules and the foreign ones. -/
theorem RuleTable.opens_eq (table : RuleTable) (t : Token) :
    table.opens t = (foreignOpeners ++ table.rules.flatMap Rule.openers).contains t.folded := by
  rw [Bool.eq_iff_iff]
  simp [opens, Token.isOneOf, Rule.startsWith_eq]

/-! ## The rules of an opener -/

/-- The rules of a table that a word opens. -/
def RuleTable.openedBy (table : RuleTable) (word : String) : List Rule :=
  table.rules.filter fun r => r.openers.contains word

/-- The first of some rules that matches behind the opener, which all of them begin with. -/
def matchBehind? (rules : List Rule) (ts : List Token) : Option RuleMatch :=
  rules.findSome? fun r => (consumedBy? r.steps.tail ts).map fun n => ⟨r, n + 1⟩

theorem Rule.consumed?_cons {r : Rule} (h : r.steps = .keyword r.openers :: r.steps.tail)
    (t : Token) (ts : List Token) :
    r.consumed? (t :: ts) =
      if r.openers.contains t.folded then (consumedBy? r.steps.tail ts).map (· + 1) else none := by
  rw [consumed?, h, consumedBy?]
  rfl

/-- The opener selects the rules that can match. -/
theorem RuleTable.find?_cons {table : RuleTable}
    (h : ∀ r ∈ table.rules, r.steps = .keyword r.openers :: r.steps.tail) (t : Token)
    (ts : List Token) :
    table.find? (t :: ts) = matchBehind? (table.openedBy t.folded) ts := by
  unfold find? matchBehind? openedBy
  generalize table.rules = rules at h ⊢
  induction rules with
  | nil => rfl
  | cons r rules ih =>
    rw [List.findSome?_cons, Rule.consumed?_cons (h r List.mem_cons_self),
      ih fun r' hr' => h r' (List.mem_cons_of_mem r hr'), List.filter_cons]
    by_cases ho : r.openers.contains t.folded = true
    · rw [if_pos ho, if_pos ho, List.findSome?_cons, Option.map_map]
      rfl
    · rw [if_neg ho, if_neg ho]
      rfl

/-! ## Statements behind an opener -/

/-- The statement that rules make of an opener and the tokens behind it. -/
def statementOf? (rules : List Rule) (t : Token) (ts : List Token) : Option Statement :=
  ((matchBehind? rules ts).bind fun m => m.verdict? (t :: ts)).bind Verdict.statement?

/-- The first rule that matches decides, also where its capture is missing. -/
theorem statementOf?_cons (r : Rule) (rules : List Rule) (t : Token) (ts : List Token) :
    statementOf? (r :: rules) t ts =
      match consumedBy? r.steps.tail ts with
      | some n => (RuleMatch.verdict? ⟨r, n + 1⟩ (t :: ts)).bind Verdict.statement?
      | none => statementOf? rules t ts := by
  rw [statementOf?, matchBehind?, List.findSome?_cons]
  cases consumedBy? r.steps.tail ts <;> rfl

/-- The statement of a rule that matched, by what it captures behind the opener. -/
theorem verdict?_succ (r : Rule) (n : Nat) (t : Token) (ts : List Token) :
    (RuleMatch.verdict? ⟨r, n + 1⟩ (t :: ts)).bind Verdict.statement? =
      (RuleMatch.captured? ⟨r, n⟩ ts).bind fun target =>
        Verdict.statement? ⟨r.family, RuleMatch.modifiers ⟨r, n + 1⟩ (t :: ts), target⟩ := by
  rw [RuleMatch.verdict?, Option.bind_map]
  rfl

theorem captured?_nothing (family : Family) (steps : List Step) (n : Nat) (ts : List Token) :
    RuleMatch.captured? ⟨⟨family, steps, .nothing⟩, n⟩ ts = some none := rfl

theorem captured?_identifier (family : Family) (steps : List Step) (n : Nat) (ts : List Token) :
    RuleMatch.captured? ⟨⟨family, steps, .identifier⟩, n⟩ ts = (identifierAt? ts n).map some := rfl

theorem captured?_tableReference (family : Family) (steps : List Step) (n : Nat)
    (ts : List Token) :
    RuleMatch.captured? ⟨⟨family, steps, .tableReference⟩, n⟩ ts =
      (identifierAt? ts n).map some := rfl

theorem bind_some_eq_map (name : Option Token) (f : Token → Statement) :
    (name.bind fun t => some (f t)) = name.map f := by
  cases name <;> rfl

theorem captured?_fromIdentifier (family : Family) (steps : List Step) (n : Nat)
    (ts : List Token) :
    RuleMatch.captured? ⟨⟨family, steps, .fromIdentifier⟩, n⟩ ts = (nameFrom ts n).map some := by
  rw [nameFrom, apply_ite (Option.map some)]
  rfl

theorem captured?_optionalFromIdentifier (family : Family) (steps : List Step) (n : Nat)
    (ts : List Token) :
    RuleMatch.captured? ⟨⟨family, steps, .optionalFromIdentifier⟩, n⟩ ts =
      if wordAt ts n ["FROM", "IN"] then (identifierAt? ts (n + 1)).map some else some none := rfl

/-- The statement of a rule that captures the name behind its opener. -/
theorem statementOf?_identifier {family : Family} {f : Token → Statement}
    (hf : ∀ modifiers u, Verdict.statement? ⟨family, modifiers, some u⟩ = some (f u))
    (words : List String) (rules : List Rule) (t : Token) (ts : List Token) :
    statementOf? ({ family, steps := [.keyword words], capture := .identifier } :: rules) t ts =
      (identifierAt? ts 0).map f := by
  rw [statementOf?_cons]
  simp only [List.tail_cons, consumedBy?, verdict?_succ, captured?_identifier, Option.bind_map,
    Function.comp_def, hf]
  exact bind_some_eq_map _ _

end SqlTriage
