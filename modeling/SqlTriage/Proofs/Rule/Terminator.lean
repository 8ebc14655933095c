import SqlTriage.Proofs.Rule.Alike
import SqlTriage.Proofs.Rule.Opener

/-!
# Tokens behind a terminator

A terminator is a token that is none of the words of a table.  No required or optional word is
found in it, so that it hides all tokens behind it from the rules, with one exception: a step that
takes any token takes the terminator as well.  A rule with such a step must not come before
another that the same word opens (`Rule.LeavesTo`).  Then the verdict on a list of tokens stands
whatever follows behind a terminator (`RuleTable.verdict?_append_terminator`), and a terminator at
the end gives a verdict to no other tokens than an opener alone (`RuleTable.verdict?_append_last`).
-/

namespace SqlTriage

open SqlTriage.Text SqlTriage.Lexical RuleMatch

variable {t : Token} {ts : List Token} {us : List Token}

/-- A rule that takes any token takes one only, behind its opener, and the openers of the other
rule are not its own. -/
def Rule.LeavesTo (r r' : Rule) : Prop :=
  Step.any ∈ r.steps → r.steps = [.keyword r.openers, .any] ∧ ∀ w ∈ r.openers, w ∉ r'.openers

instance : DecidableRel Rule.LeavesTo := fun r r' =>
  inferInstanceAs (Decidable (Step.any ∈ r.steps →
    r.steps = [.keyword r.openers, .any] ∧ ∀ w ∈ r.openers, w ∉ r'.openers))

/-- The word, as a token, ends what the table looks at. -/
structure RuleTable.TerminatedBy (table : RuleTable) (word : String) : Prop where
  not_mem : ∀ r ∈ table.rules, ∀ step ∈ r.steps, word ∉ step.words
  clause : word ∉ ["FROM", "IN"]
  opened : ∀ r ∈ table.rules, r.steps = .keyword r.openers :: r.steps.tail
  leavesTo : table.rules.Pairwise Rule.LeavesTo

theorem Lexical.Token.isOneOf_eq_false_iff {words : List String} :
    t.isOneOf words = false ↔ t.folded ∉ words := by
  rw [Token.isOneOf, ← Bool.not_eq_true, List.contains_iff_mem]

/-! ## Steps -/

/-- Steps match as they do without the terminator, unless one of them takes it as any token. -/
theorem consumedBy?_append_terminator {steps : List Step}
    (hs : ∀ step ∈ steps, t.folded ∉ step.words) :
    consumedBy? steps (ts ++ t :: us) = consumedBy? steps ts ∨
      Step.any ∈ steps ∧ consumedBy? steps ts = none := by
  -- along the steps: the terminator is met where the tokens have run out
  induction steps generalizing ts with
  | nil => exact .inl rfl
  | cons step steps ih =>
    rw [List.forall_mem_cons] at hs
    have ih (ts : List Token) : consumedBy? steps (ts ++ t :: us) = consumedBy? steps ts ∨
        Step.any ∈ steps ∧ consumedBy? steps ts = none := ih hs.2
    cases ts with
    | nil =>
      cases step with
      | keyword words =>
        have hword : t.isOneOf words = false := Token.isOneOf_eq_false_iff.2 hs.1
        left
        rw [List.nil_append, consumedBy?, hword, if_neg Bool.false_ne_true, consumedBy?]
      | optional words =>
        have hword : t.isOneOf words = false := Token.isOneOf_eq_false_iff.2 hs.1
        rw [List.nil_append, consumedBy?, hword, if_neg Bool.false_ne_true, consumedBy?]
        exact (ih []).imp id fun h => ⟨List.mem_cons_of_mem _ h.1, h.2⟩
      | any => exact .inr ⟨List.mem_cons_self, rfl⟩
    | cons u ts =>
      -- the first token is there on both sides
      have hrest := (ih ts).imp (fun h => congrArg (Option.map (· + 1)) h) fun h =>
        And.intro (List.mem_cons_of_mem step h.1) (congrArg (Option.map (· + 1)) h.2)
      cases step with
      | keyword words =>
        simp only [List.cons_append, consumedBy?]
        split
        · exact hrest
        · exact .inl rfl
      | optional words =>
        simp only [List.cons_append, consumedBy?]
        split
        · exact hrest
        · exact (ih (u :: ts)).imp id fun h => ⟨List.mem_cons_of_mem _ h.1, h.2⟩
      | any => exact hrest

theorem consumedBy?_le_length {steps : List Step} {k : Nat}
    (h : consumedBy? steps ts = some k) : k ≤ ts.length := by
  induction steps generalizing ts k with
  | nil =>
    cases h
    exact Nat.zero_le _
  | cons step steps ih =>
    have hrest (h : (consumedBy? steps ts.tail).map (· + 1) = some k) (hts : ts ≠ []) :
        k ≤ ts.length := by
      obtain ⟨j, hj, rfl⟩ := Option.map_eq_some_iff.1 h
      have := ih hj
      have := List.length_pos_iff.2 hts
      rw [List.length_tail] at *
      omega
    cases step with
    | keyword words =>
      rw [consumedBy?_keyword] at h
      split at h
      · rename_i hw
        exact hrest h (by rintro rfl; cases hw)
      · cases h
    | optional words =>
      rw [consumedBy?_optional] at h
      split at h
      · rename_i hw
        exact hrest h (by rintro rfl; cases hw)
      · exact ih h
    | any =>
      rw [consumedBy?_any] at h
      split at h
      · cases h
      · rename_i hne
        exact hrest h (by simpa using hne)

/-! ## Matches -/

namespace RuleTable

variable {table : RuleTable}

theorem TerminatedBy.exists_opener (h : table.TerminatedBy t.folded) {r : Rule}
    (hr : r ∈ table.rules) {k : Nat} (hk : r.consumed? ts = some k) :
    ∃ u rest, ts = u :: rest ∧ u.folded ∈ r.openers := by
  rw [Rule.consumed?, h.opened r hr] at hk
  obtain ⟨u, rest, -, hts, hu, -⟩ := exists_of_consumedBy?_keyword hk
  exact ⟨u, rest, hts, hu⟩

/-- A rule that does not match does not match with the terminator either, if it leaves the opener
to a rule that does. -/
theorem TerminatedBy.consumed?_eq_none (h : table.TerminatedBy t.folded) {r r' : Rule}
    (hr : r ∈ table.rules) (hr' : r' ∈ table.rules) (hleaves : r'.LeavesTo r) {k : Nat}
    (hk : r.consumed? ts = some k) (hnone : r'.consumed? ts = none) :
    r'.consumed? (ts ++ t :: us) = none := by
  have hsteps : r'.consumed? (ts ++ t :: us) = r'.consumed? ts ∨ _ :=
    consumedBy?_append_terminator (h.not_mem r' hr')
  rcases hsteps with heq | ⟨hany, -⟩
  · rw [heq, hnone]
  · obtain ⟨u, rest, rfl, hu⟩ := h.exists_opener hr hk
    have hu' : u.folded ∉ r'.openers := fun hu' => (hleaves hany).2 _ hu' hu
    rw [List.cons_append, Rule.consumed?_cons (h.opened r' hr'),
      if_neg fun hc => hu' (List.contains_iff_mem.1 hc)]

/-- The rule that wins still wins in front of a terminator: the rules before it that would take
the terminator begin with other words. -/
theorem find?_append_terminator (h : table.TerminatedBy t.folded) {m : RuleMatch}
    (hm : table.find? ts = some m) : table.find? (ts ++ t :: us) = some m := by
  obtain ⟨before, r, behind, hrules, hr, hbefore⟩ := List.findSome?_eq_some_iff.1 hm
  obtain ⟨k, hk, rfl⟩ := Option.map_eq_some_iff.1 hr
  have hmem : r ∈ table.rules := by
    rw [hrules]
    exact List.mem_append_right _ List.mem_cons_self
  refine List.findSome?_eq_some_iff.2 ⟨before, r, behind, hrules, ?_, fun r' hr' => ?_⟩
  · have hsteps : r.consumed? (ts ++ t :: us) = r.consumed? ts ∨ _ :=
      consumedBy?_append_terminator (h.not_mem r hmem)
    rcases hsteps with heq | ⟨-, hnone⟩
    · rw [heq, hk]
      rfl
    · rw [Rule.consumed?, hnone] at hk
      cases hk
  · have hmem' : r' ∈ table.rules := by
      rw [hrules]
      exact List.mem_append_left _ hr'
    have hleaves : r'.LeavesTo r := by
      have hpair := h.leavesTo
      rw [hrules] at hpair
      exact (List.pairwise_append.1 hpair).2.2 r' hr' r List.mem_cons_self
    have hnone : r'.consumed? ts = none := Option.map_eq_none_iff.1 (hbefore r' hr')
    rw [Option.map_eq_none_iff]
    exact h.consumed?_eq_none hmem hmem' hleaves hk hnone

end RuleTable

/-! ## Captures -/

namespace RuleMatch

theorem identifierAt?_append {i : Nat} {u : Token} (h : identifierAt? ts i = some u) :
    identifierAt? (ts ++ us) i = some u := by
  rw [identifierAt?, Option.filter_eq_some_iff] at h ⊢
  rwa [List.getElem?_append_left (List.getElem?_eq_some_iff.1 h.1).1]

theorem map_identifierAt?_append {i : Nat} {target : Option Token}
    (h : (identifierAt? ts i).map some = some target) :
    (identifierAt? (ts ++ us) i).map some = some target := by
  obtain ⟨u, hu, rfl⟩ := Option.map_eq_some_iff.1 h
  rw [identifierAt?_append hu]
  rfl

theorem any_isFromWord_append {i : Nat} (h : ts[i]?.any isFromWord = true) :
    (ts ++ us)[i]?.any isFromWord = true := by
  cases hi : ts[i]? with
  | none =>
    rw [hi] at h
    cases h
  | some u =>
    rw [List.getElem?_append_left (List.getElem?_eq_some_iff.1 hi).1]
    exact h

/-- A clause that is absent stays absent: the token behind the match is the terminator. -/
theorem any_isFromWord_append_terminator {i : Nat} (hi : i ≤ ts.length)
    (ht : isFromWord t = false) (h : ts[i]?.any isFromWord = false) :
    (ts ++ t :: us)[i]?.any isFromWord = false := by
  rcases Nat.lt_or_eq_of_le hi with hlt | rfl
  · rwa [List.getElem?_append_left hlt]
  · rw [List.getElem?_append_right (Nat.le_refl _), Nat.sub_self, List.getElem?_cons_zero]
    exact ht

theorem captured?_append_terminator {m : RuleMatch} (hm : m.consumed ≤ ts.length)
    (ht : isFromWord t = false) {target : Option Token} (h : m.captured? ts = some target) :
    m.captured? (ts ++ t :: us) = some target := by
  unfold captured? at h ⊢
  cases hc : m.rule.capture with
  | nothing =>
    simp only [hc] at h ⊢
    exact h
  | identifier | tableReference =>
    simp only [hc] at h ⊢
    exact map_identifierAt?_append h
  | fromIdentifier =>
    simp only [hc] at h ⊢
    split at h
    · rename_i hfrom
      rw [if_pos (any_isFromWord_append hfrom)]
      exact map_identifierAt?_append h
    · cases h
  | optionalFromIdentifier =>
    simp only [hc] at h ⊢
    split at h
    · rename_i hfrom
      rw [if_pos (any_isFromWord_append hfrom)]
      exact map_identifierAt?_append h
    · rename_i hfrom
      have hfrom : (ts ++ t :: us)[m.consumed]?.any isFromWord = false :=
        any_isFromWord_append_terminator hm ht (by simpa using hfrom)
      rw [if_neg (by simpa using hfrom)]
      exact h

theorem modifiers_append {m : RuleMatch} (hm : m.consumed ≤ ts.length) :
    m.modifiers (ts ++ us) = m.modifiers ts := by
  rw [modifiers, modifiers, List.take_append_of_le_length hm]

theorem filter_getElem?_append_last {p : Token → Bool} (ht : p t = false) (i : Nat) :
    (ts ++ [t])[i]?.filter p = ts[i]?.filter p := by
  rcases Nat.lt_trichotomy i ts.length with hi | rfl | hi
  · rw [List.getElem?_append_left hi]
  · simp [ht]
  · rw [List.getElem?_eq_none (by simp; omega), List.getElem?_eq_none (by omega)]

/-- A last token that neither names anything nor begins a clause is not seen by a capture. -/
theorem captured?_append_last {m : RuleMatch} (hclause : isFromWord t = false)
    (hname : t.isIdentifier = false) : m.captured? (ts ++ [t]) = m.captured? ts := by
  have hident (i : Nat) : identifierAt? (ts ++ [t]) i = identifierAt? ts i :=
    filter_getElem?_append_last hname i
  have hfrom (i : Nat) : (ts ++ [t])[i]?.any isFromWord = ts[i]?.any isFromWord := by
    rw [← Option.isSome_filter, filter_getElem?_append_last hclause, Option.isSome_filter]
  simp only [captured?, hident, hfrom]

end RuleMatch

/-! ## Verdicts -/

namespace RuleTable

variable {table : RuleTable}

theorem fromOpener_append {u : Token} {rest : List Token} (h : table.fromOpener ts = u :: rest) :
    table.fromOpener (ts ++ us) = table.fromOpener ts ++ us := by
  unfold fromOpener at h ⊢
  rw [List.dropWhile_append, h]
  rfl

/-- What stands behind a terminator does not change a verdict. -/
theorem verdict?_append_terminator (h : table.TerminatedBy t.folded) {v : Verdict}
    (hv : table.verdict? ts = some v) : table.verdict? (ts ++ t :: us) = some v := by
  unfold verdict? at hv ⊢
  obtain ⟨m, hm, hv⟩ := Option.bind_eq_some_iff.1 hv
  obtain ⟨hr, hk⟩ := find?_eq_some hm
  obtain ⟨u, rest, hu, -⟩ := h.exists_opener hr hk
  have hlen : m.consumed ≤ (table.fromOpener ts).length := consumedBy?_le_length hk
  obtain ⟨target, htarget, rfl⟩ := Option.map_eq_some_iff.1 hv
  have hcaptured : m.captured? (table.fromOpener ts ++ t :: us) = some target :=
    captured?_append_terminator hlen (Token.isOneOf_eq_false_iff.2 h.clause) htarget
  rw [fromOpener_append hu, find?_append_terminator h hm, Option.bind_some, RuleMatch.verdict?,
    hcaptured, modifiers_append hlen]
  rfl

/-! ## A terminator at the end -/

/-- Nothing stands behind the opener, which is that of a rule that takes any token behind it. -/
def IsBare (table : RuleTable) (ts : List Token) : Prop :=
  ∃ u, table.fromOpener ts = [u] ∧ ∃ r ∈ table.rules, Step.any ∈ r.steps ∧ u.folded ∈ r.openers

/-- Where no rule matches, the terminator makes one match only as the token behind its opener. -/
theorem find?_append_last (h : table.TerminatedBy t.folded)
    (hany : ∀ r ∈ table.rules, Step.any ∈ r.steps → r.steps = [.keyword r.openers, .any])
    (hnone : table.find? ts = none)
    (hbare : ∀ u, ts = [u] → ∀ r ∈ table.rules, Step.any ∈ r.steps → u.folded ∉ r.openers) :
    table.find? (ts ++ [t]) = none := by
  by_contra hsome
  obtain ⟨m, hm⟩ := Option.ne_none_iff_exists'.1 hsome
  obtain ⟨hr, hk⟩ := find?_eq_some hm
  have hrule : m.rule.consumed? ts = none :=
    Option.map_eq_none_iff.1 (List.findSome?_eq_none_iff.1 hnone m.rule hr)
  have hsteps : m.rule.consumed? (ts ++ [t]) = m.rule.consumed? ts ∨ _ :=
    consumedBy?_append_terminator (h.not_mem m.rule hr)
  rcases hsteps with heq | ⟨hmem, -⟩
  · rw [heq, hrule] at hk
    cases hk
  · rw [Rule.consumed?, hany _ hr hmem] at hk hrule
    obtain ⟨u, rest, -, hts, hu, -⟩ := exists_of_consumedBy?_keyword hk
    have hopener : Step.keyword m.rule.openers ∈ m.rule.steps := by
      rw [hany _ hr hmem]
      exact List.mem_cons_self
    cases ts with
    | nil =>
      -- the terminator is no opener
      obtain ⟨rfl, -⟩ := List.cons.inj hts
      exact h.not_mem m.rule hr _ hopener hu
    | cons u' ts =>
      obtain ⟨rfl, -⟩ := List.cons.inj hts
      cases ts with
      | nil => exact hbare u' rfl m.rule hr hmem hu
      | cons v ts =>
        -- with a token behind its opener the rule matches without the terminator
        have hword : u'.isOneOf m.rule.openers = true := List.contains_iff_mem.2 hu
        rw [consumedBy?, if_pos hword] at hrule
        cases hrule

/-- A terminator at the end that neither names nor opens anything changes a verdict only where the
statement is bare. -/
theorem verdict?_append_last (h : table.TerminatedBy t.folded)
    (hany : ∀ r ∈ table.rules, Step.any ∈ r.steps → r.steps = [.keyword r.openers, .any])
    (hname : t.isIdentifier = false) (hopens : table.opens t = false) (hbare : ¬ table.IsBare ts) :
    table.verdict? (ts ++ [t]) = table.verdict? ts := by
  unfold verdict?
  cases hts : table.fromOpener ts with
  | nil =>
    have hnoise : table.fromOpener (ts ++ [t]) = [] := by
      unfold fromOpener at hts ⊢
      rw [List.dropWhile_append, hts]
      simp [hopens]
    rw [hnoise]
  | cons u rest =>
    rw [fromOpener_append hts, hts]
    cases hm : table.find? (u :: rest) with
    | some m =>
      have hlen : m.consumed ≤ (u :: rest).length := consumedBy?_le_length (find?_eq_some hm).2
      have hclause : isFromWord t = false := Token.isOneOf_eq_false_iff.2 h.clause
      rw [find?_append_terminator h hm, Option.bind_some, Option.bind_some, RuleMatch.verdict?,
        captured?_append_last hclause hname, modifiers_append hlen]
      rfl
    | none =>
      have hlast : table.find? ((u :: rest) ++ [t]) = none := by
        refine find?_append_last h hany hm fun u' hu' r hr hmem hopener => hbare ?_
        exact ⟨u', by rw [hts, hu'], r, hr, hmem, hopener⟩
      rw [hlast]
      rfl

end RuleTable

end SqlTriage
