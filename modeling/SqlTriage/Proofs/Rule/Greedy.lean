import Mathlib
import SqlTriage.Proofs.Rule.Alike

/-!
# Matching without going back

As a pattern, the steps of a rule stand for all lists of steps that are left when some optional
steps are dropped (`Selection`), and what is left takes the first tokens one by one.  Matching tries
one of these choices only: it keeps an optional step whenever it can.  Where the steps are
unambiguous (`Unambiguous`) no choice that drops a step which could be kept takes another token, so
that matching finds a choice if there is one, and the longest of them
(`consumed?_eq_some_iff_isGreatest`).
-/

namespace SqlTriage

open SqlTriage.Lexical

/-- Whether the step, if it is kept, takes the token. -/
def Step.Takes : Step → Token → Prop
  | .keyword words, t | .optional words, t => t.folded ∈ words
  | .any, _ => True

/-- The second list keeps or drops each optional step of the first and keeps all others. -/
inductive Selection : List Step → List Step → Prop
  | nil : Selection [] []
  | keep (step : Step) {steps kept : List Step} (h : Selection steps kept) :
    Selection (step :: steps) (step :: kept)
  | drop (words : List String) {steps kept : List Step} (h : Selection steps kept) :
    Selection (.optional words :: steps) kept

/-- Some choice of the steps takes the first `k` tokens one by one. -/
def CanConsume (steps : List Step) (tokens : List Token) (k : Nat) : Prop :=
  ∃ kept, Selection steps kept ∧ kept.length = k ∧ List.Forall₂ Step.Takes kept (tokens.take k)

/-- The steps that may be the first to take a token: the optional ones in front and the first of
the others. -/
def mayComeFirst : List Step → List Step
  | [] => []
  | .optional words :: steps => .optional words :: mayComeFirst steps
  | step :: _ => [step]

/-- No word of an optional step is a word of a step that may come first behind it, up to the next
step that is not optional.  That step, if there is one, requires a word. -/
def Unambiguous : List Step → Prop
  | [] => True
  | .optional words :: steps =>
    (∀ step ∈ mayComeFirst steps, step ≠ .any ∧ ∀ w ∈ words, w ∉ step.words) ∧ Unambiguous steps
  | _ :: steps => Unambiguous steps

instance decidableUnambiguous : (steps : List Step) → Decidable (Unambiguous steps)
  | [] => isTrue trivial
  | .optional words :: steps =>
    have := decidableUnambiguous steps
    inferInstanceAs (Decidable ((∀ step ∈ mayComeFirst steps, step ≠ .any ∧
      ∀ w ∈ words, w ∉ step.words) ∧ Unambiguous steps))
  | .keyword _ :: steps => decidableUnambiguous steps
  | .any :: steps => decidableUnambiguous steps

variable {steps : List Step} {ts : List Token} {t : Token} {k : Nat}

theorem Lexical.Token.isOneOf_iff {words : List String} :
    t.isOneOf words = true ↔ t.folded ∈ words :=
  List.contains_iff_mem

/-! ## One step -/

theorem canConsume_nil_iff : CanConsume [] ts k ↔ k = 0 := by
  constructor
  · rintro ⟨kept, hsel, rfl, -⟩
    cases hsel
    rfl
  · rintro rfl
    exact ⟨[], .nil, rfl, .nil⟩

/-- The first step is kept and takes the first token, or it is optional and dropped. -/
theorem canConsume_cons_iff {step : Step} :
    CanConsume (step :: steps) ts k ↔
      (∃ t us j, ts = t :: us ∧ step.Takes t ∧ CanConsume steps us j ∧ k = j + 1) ∨
        (∃ words, step = .optional words) ∧ CanConsume steps ts k := by
  constructor
  · rintro ⟨kept, hsel, rfl, htakes⟩
    cases hsel with
    | @keep step steps kept hsel =>
      left
      cases ts with
      | nil => cases htakes
      | cons t us =>
        rw [List.length_cons, List.take_succ_cons, List.forall₂_cons] at htakes
        exact ⟨t, us, _, rfl, htakes.1, ⟨kept, hsel, rfl, htakes.2⟩, rfl⟩
    | drop words hsel => exact Or.inr ⟨⟨words, rfl⟩, kept, hsel, rfl, htakes⟩
  · rintro (⟨t, us, j, rfl, ht, ⟨kept, hsel, rfl, htakes⟩, rfl⟩ |
      ⟨⟨words, rfl⟩, kept, hsel, rfl, htakes⟩)
    · refine ⟨step :: kept, .keep step hsel, rfl, ?_⟩
      rw [List.take_succ_cons]
      exact .cons ht htakes
    · exact ⟨kept, .drop words hsel, rfl, htakes⟩

/-! ## What matching finds -/

/-- What matching consumes, some choice consumes. -/
theorem canConsume_of_consumedBy? (h : consumedBy? steps ts = some k) :
    CanConsume steps ts k := by
  fun_induction consumedBy? steps ts generalizing k with
  | case1 => exact canConsume_nil_iff.2 (Option.some.inj h).symm
  | case3 | case4 | case9 => cases h
  | case2 words steps t ts ht ih | case5 words steps t ts ht ih =>
    obtain ⟨j, hj, rfl⟩ := Option.map_eq_some_iff.1 h
    exact canConsume_cons_iff.2 (Or.inl ⟨t, ts, j, rfl, Token.isOneOf_iff.1 ht, ih hj, rfl⟩)
  | case8 steps t ts ih =>
    obtain ⟨j, hj, rfl⟩ := Option.map_eq_some_iff.1 h
    exact canConsume_cons_iff.2 (Or.inl ⟨t, ts, j, rfl, trivial, ih hj, rfl⟩)
  | case6 words steps t ts ht ih => exact canConsume_cons_iff.2 (Or.inr ⟨⟨words, rfl⟩, ih h⟩)
  | case7 words steps ih => exact canConsume_cons_iff.2 (Or.inr ⟨⟨words, rfl⟩, ih h⟩)

/-! ## What matching does not miss -/

/-- Steps of which none can take the first token are all optional if a choice matches there, and
that choice drops them all. -/
theorem eq_zero_of_canConsume (h : CanConsume steps (t :: ts) k)
    (ht : ∀ step ∈ mayComeFirst steps, ¬ step.Takes t) :
    k = 0 ∧ ∀ us, CanConsume steps us 0 := by
  -- along the steps that may come first: each of them has to be dropped
  induction steps with
  | nil => exact ⟨canConsume_nil_iff.1 h, fun us => canConsume_nil_iff.2 rfl⟩
  | cons step steps ih =>
    rcases canConsume_cons_iff.1 h with ⟨u, us, j, hts, htakes, -, -⟩ | ⟨⟨words, rfl⟩, hrest⟩
    · obtain ⟨rfl, -⟩ := List.cons.inj hts
      have hmem : step ∈ mayComeFirst (step :: steps) := by
        cases step <;> exact List.mem_cons_self
      exact absurd htakes (ht step hmem)
    · obtain ⟨hk, hnone⟩ := ih hrest fun step hmem => ht step (List.mem_cons_of_mem _ hmem)
      exact ⟨hk, fun us => canConsume_cons_iff.2 (Or.inr ⟨⟨words, rfl⟩, hnone us⟩)⟩

theorem not_takes_of_disjoint {step : Step} {words : List String} (ht : t.folded ∈ words)
    (hne : step ≠ .any) (hw : ∀ w ∈ words, w ∉ step.words) : ¬ step.Takes t := by
  cases step with
  | keyword others => exact hw _ ht
  | optional others => exact hw _ ht
  | any => exact absurd rfl hne

/-- What a choice of unambiguous steps consumes, matching consumes too, or more. -/
theorem exists_consumedBy?_of_canConsume (h : Unambiguous steps) (hk : CanConsume steps ts k) :
    ∃ n, consumedBy? steps ts = some n ∧ k ≤ n := by
  induction steps generalizing ts k with
  | nil =>
    obtain rfl := canConsume_nil_iff.1 hk
    exact ⟨0, by rw [consumedBy?], Nat.le_refl 0⟩
  | cons step steps ih =>
    have hkept {us : List Token} {j : Nat} (hu : Unambiguous steps) (hj : CanConsume steps us j) :
        ∃ n, (consumedBy? steps us).map (· + 1) = some n ∧ j + 1 ≤ n := by
      obtain ⟨n, hn, hle⟩ := ih hu hj
      exact ⟨n + 1, by rw [hn]; rfl, Nat.succ_le_succ hle⟩
    cases step with
    | keyword words =>
      obtain ⟨t, us, j, rfl, ht, hj, rfl⟩ | ⟨⟨words', hopt⟩, -⟩ := canConsume_cons_iff.1 hk
      · rw [consumedBy?, if_pos (Token.isOneOf_iff.2 ht)]
        exact hkept h hj
      · cases hopt
    | any =>
      obtain ⟨t, us, j, rfl, -, hj, rfl⟩ | ⟨⟨words', hopt⟩, -⟩ := canConsume_cons_iff.1 hk
      · exact hkept h hj
      · cases hopt
    | optional words =>
      obtain ⟨hfirst, hrest⟩ := h
      obtain ⟨t, us, j, rfl, ht, hj, rfl⟩ | ⟨-, hdropped⟩ := canConsume_cons_iff.1 hk
      · rw [consumedBy?, if_pos (Token.isOneOf_iff.2 ht)]
        exact hkept hrest hj
      · cases ts with
        | nil => exact ih hrest hdropped
        | cons t us =>
          rw [consumedBy?]
          split
          · -- the step could be kept, so that the choice without it takes no token at all
            rename_i ht
            have hnone (step : Step) (hmem : step ∈ mayComeFirst steps) : ¬ step.Takes t :=
              not_takes_of_disjoint (Token.isOneOf_iff.1 ht) (hfirst step hmem).1
                (hfirst step hmem).2
            obtain ⟨rfl, hzero⟩ := eq_zero_of_canConsume hdropped hnone
            obtain ⟨n, hn, -⟩ := hkept hrest (hzero us)
            exact ⟨n, hn, Nat.zero_le n⟩
          · exact ih hrest hdropped

theorem Dialect.unambiguous_table (d : Dialect) : ∀ r ∈ d.table.rules, Unambiguous r.steps := by
  cases d <;> decide

/-- **Matching without going back misses nothing.** The steps of an unambiguous rule match where
some choice of their optional steps does, and they consume as many tokens as the longest such
choice.  The rules of all dialects are unambiguous. -/
theorem consumed?_eq_some_iff_isGreatest :
    (∀ r : Rule, Unambiguous r.steps → ∀ ts : List Token,
      ((r.consumed? ts).isSome = true ↔ ∃ k, CanConsume r.steps ts k) ∧
        ∀ k, r.consumed? ts = some k ↔ IsGreatest {n | CanConsume r.steps ts n} k) ∧
      ∀ d : Dialect, ∀ r ∈ d.table.rules, Unambiguous r.steps := by
  refine ⟨fun r hr ts => ⟨?_, fun k => ⟨fun hk => ?_, fun hk => ?_⟩⟩, Dialect.unambiguous_table⟩
  · constructor
    · intro hsome
      obtain ⟨k, hk⟩ := Option.isSome_iff_exists.1 hsome
      exact ⟨k, canConsume_of_consumedBy? hk⟩
    · rintro ⟨k, hk⟩
      obtain ⟨n, hn, -⟩ := exists_consumedBy?_of_canConsume hr hk
      exact Option.isSome_iff_exists.2 ⟨n, hn⟩
  · refine ⟨canConsume_of_consumedBy? hk, fun j hj => ?_⟩
    obtain ⟨n, hn, hle⟩ := exists_consumedBy?_of_canConsume hr hj
    obtain rfl : n = k := Option.some.inj (hn.symm.trans hk)
    exact hle
  · obtain ⟨n, hn, hle⟩ := exists_consumedBy?_of_canConsume hr hk.1
    obtain rfl : n = k := Nat.le_antisymm (hk.2 (canConsume_of_consumedBy? hn)) hle
    exact hn

/-- One optional word is there and the other is not. -/
theorem consumed?_insert_delayed :
    Rule.consumed?
        ⟨.insert,
          [.keyword ["INSERT"], .optional ["LOW_PRIORITY", "DELAYED"], .optional ["IGNORE"]],
          .nothing⟩
        [⟨"insert", 0⟩, ⟨"Delayed", 7⟩, ⟨"into", 15⟩, ⟨"t", 20⟩] = some 2 ∧
      IsGreatest {n | CanConsume
        [.keyword ["INSERT"], .optional ["LOW_PRIORITY", "DELAYED"], .optional ["IGNORE"]]
        [⟨"insert", 0⟩, ⟨"Delayed", 7⟩, ⟨"into", 15⟩, ⟨"t", 20⟩] n} 2 := by
  have hfound : Rule.consumed?
      ⟨.insert, [.keyword ["INSERT"], .optional ["LOW_PRIORITY", "DELAYED"], .optional ["IGNORE"]],
        .nothing⟩
      [⟨"insert", 0⟩, ⟨"Delayed", 7⟩, ⟨"into", 15⟩, ⟨"t", 20⟩] = some 2 := by cbv
  exact ⟨hfound, ((consumed?_eq_some_iff_isGreatest.1 _ (by decide) _).2 2).1 hfound⟩

/-- Steps that are not unambiguous may miss a choice: the optional word is the required one. -/
example : consumedBy? [.optional ["FULL"], .keyword ["FULL"]] [⟨"full", 0⟩] = none ∧
    CanConsume [.optional ["FULL"], .keyword ["FULL"]] [⟨"full", 0⟩] 1 := by
  have htakes : Step.Takes (.keyword ["FULL"]) ⟨"full", 0⟩ := Token.isOneOf_iff.1 (by cbv)
  exact ⟨by cbv, [.keyword ["FULL"]], .drop _ (.keep _ .nil), rfl, .cons htakes .nil⟩

end SqlTriage
