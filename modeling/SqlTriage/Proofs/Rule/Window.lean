import SqlTriage.Statement.OfMatch
import Mathlib.Data.List.Basic

/-!
# The window of a table

A table looks at `RuleTable.lookahead` tokens only.  Steps consume at most one token each
(`consumedBy?_le`) and a capture looks at most two tokens further, so that neither the match nor
the statement made from it depends on later tokens (`find?_take`, `statement?_take`).
-/

namespace SqlTriage

open SqlTriage.Text SqlTriage.Lexical

/-! ## Steps -/

/-- Steps consume at most one token each. -/
theorem consumedBy?_le {steps : List Step} {tokens : List Token} {k : Nat}
    (h : consumedBy? steps tokens = some k) : k ≤ steps.length := by
  fun_induction consumedBy? steps tokens generalizing k with
  | case1 => simp_all
  | case3 => cases h
  | case4 => cases h
  | case9 => cases h
  | case2 words steps t ts ht ih =>
    obtain ⟨j, hj, rfl⟩ := Option.map_eq_some_iff.1 h
    exact Nat.succ_le_succ (ih hj)
  | case5 words steps t ts ht ih =>
    obtain ⟨j, hj, rfl⟩ := Option.map_eq_some_iff.1 h
    exact Nat.succ_le_succ (ih hj)
  | case8 steps t ts ih =>
    obtain ⟨j, hj, rfl⟩ := Option.map_eq_some_iff.1 h
    exact Nat.succ_le_succ (ih hj)
  | case6 words steps t ts ht ih => exact Nat.le_succ_of_le (ih h)
  | case7 words steps ih => exact Nat.le_succ_of_le (ih h)

/-- Steps do not look at more tokens than there are steps. -/
theorem consumedBy?_take {steps : List Step} {n : Nat} (tokens : List Token)
    (hn : steps.length ≤ n) : consumedBy? steps (tokens.take n) = consumedBy? steps tokens := by
  induction steps generalizing tokens n with
  | nil => simp [consumedBy?]
  | cons step steps ih =>
    obtain ⟨n, rfl⟩ : ∃ m, n = m + 1 := Nat.exists_eq_add_one_of_ne_zero (by simp at hn; omega)
    have hn : steps.length ≤ n := Nat.le_of_succ_le_succ hn
    cases tokens with
    | nil => simp
    | cons t ts =>
      have ih₁ := ih ts hn
      have ih₂ := ih (t :: ts) (Nat.le_succ_of_le hn)
      rw [List.take_succ_cons] at ih₂ ⊢
      cases step <;> simp only [consumedBy?, ih₁, ih₂]

/-! ## Tables -/

theorem findSome?_congr {α β : Type} {f g : α → Option β} {l : List α}
    (h : ∀ a ∈ l, f a = g a) : l.findSome? f = l.findSome? g := by
  induction l with
  | nil => rfl
  | cons a l ih =>
    rw [List.findSome?_cons, List.findSome?_cons, h a List.mem_cons_self,
      ih fun b hb => h b (List.mem_cons_of_mem a hb)]

namespace RuleTable

theorem depth_le_lookahead {table : RuleTable} {r : Rule} (h : r ∈ table.rules) :
    r.depth ≤ table.lookahead := by
  obtain ⟨rules⟩ := table
  induction rules with
  | nil => cases h
  | cons r' rules ih =>
    rcases List.mem_cons.1 h with rfl | h
    · exact Nat.le_max_left _ _
    · exact Nat.le_trans (ih h) (Nat.le_max_right _ _)

/-- A match is of a rule of the table, and its steps consumed what it says. -/
theorem find?_eq_some {table : RuleTable} {tokens : List Token} {m : RuleMatch}
    (h : table.find? tokens = some m) :
    m.rule ∈ table.rules ∧ m.rule.consumed? tokens = some m.consumed := by
  obtain ⟨r, hr, hm⟩ := List.exists_of_findSome?_eq_some h
  obtain ⟨n, hn, rfl⟩ := Option.map_eq_some_iff.1 hm
  exact ⟨hr, hn⟩

/-- The match does not depend on tokens behind the longest steps. -/
theorem find?_take_of_steps {table : RuleTable} {n : Nat}
    (hn : ∀ r ∈ table.rules, r.steps.length ≤ n) (tokens : List Token) :
    table.find? (tokens.take n) = table.find? tokens := by
  unfold find?
  refine findSome?_congr fun r hr => ?_
  rw [Rule.consumed?, Rule.consumed?, consumedBy?_take tokens (hn r hr)]

/-- The match does not depend on tokens behind the lookahead. -/
theorem find?_take {table : RuleTable} {n : Nat} (hn : table.lookahead ≤ n)
    (tokens : List Token) : table.find? (tokens.take n) = table.find? tokens := by
  refine find?_take_of_steps (fun r hr => ?_) tokens
  have := depth_le_lookahead hr
  unfold Rule.depth at this
  omega

end RuleTable

/-! ## Matches -/

namespace RuleMatch

theorem identifierAt?_take {tokens : List Token} {i n : Nat} (h : i < n) :
    identifierAt? (tokens.take n) i = identifierAt? tokens i := by
  rw [identifierAt?, identifierAt?, List.getElem?_take_of_lt h]

theorem captured?_take {m : RuleMatch} {n : Nat} (hn : m.consumed + m.rule.capture.width ≤ n)
    (tokens : List Token) : m.captured? (tokens.take n) = m.captured? tokens := by
  unfold captured?
  cases hc : m.rule.capture <;> rw [hc] at hn <;> simp only [Capture.width] at hn
  case identifier => simp only [identifierAt?_take (show m.consumed < n by omega)]
  case tableReference => simp only [identifierAt?_take (show m.consumed < n by omega)]
  case fromIdentifier =>
    simp only [List.getElem?_take_of_lt (show m.consumed < n by omega),
      identifierAt?_take (show m.consumed + 1 < n by omega)]
  case optionalFromIdentifier =>
    simp only [List.getElem?_take_of_lt (show m.consumed < n by omega),
      identifierAt?_take (show m.consumed + 1 < n by omega)]

theorem modifiers_take {m : RuleMatch} {n : Nat} (hn : m.consumed ≤ n) (tokens : List Token) :
    m.modifiers (tokens.take n) = m.modifiers tokens := by
  rw [modifiers, modifiers, List.take_take, Nat.min_eq_left hn]

theorem depth_of_find? {table : RuleTable} {tokens : List Token} {m : RuleMatch}
    (h : table.find? tokens = some m) :
    m.consumed + m.rule.capture.width ≤ table.lookahead := by
  obtain ⟨hr, hm⟩ := RuleTable.find?_eq_some h
  have hdepth := RuleTable.depth_le_lookahead hr
  have hle : m.consumed ≤ m.rule.steps.length := consumedBy?_le hm
  unfold Rule.depth at hdepth
  omega

/-- The statement of a match does not depend on tokens behind the lookahead. -/
theorem statement?_take {table : RuleTable} {tokens : List Token} {m : RuleMatch} {n : Nat}
    (h : table.find? tokens = some m) (hn : table.lookahead ≤ n) (stripped : String) :
    m.statement? stripped (tokens.take n) = m.statement? stripped tokens := by
  have hdepth := depth_of_find? h
  unfold statement?
  rw [captured?_take (by omega), modifiers_take (by omega)]

end RuleMatch

end SqlTriage
